/-
  SandboxClient/Json/Token.lean
  =============================
  **The tokens of a document.** A document is a row of octets: punctuation, three
  words, numbers and strings, with blanks between them. Numbers and strings are
  kept as they are written; what they stand for is asked later, and only of
  those that matter.
-/

namespace SandboxClient.Json

/-! ### Numbers and strings as written

Tokens keep what was written; what it stands for is decided when a reader asks for it. -/

structure NumberText where
  negative : Bool
  /-- The digits before the point. -/
  whole : List Nat
  /-- The digits after the point. -/
  fraction : List Nat
  /-- Whether the exponent is negative, and its digits; nothing without an exponent. -/
  exponent : Option (Bool × List Nat)
  deriving DecidableEq, Repr

/-- A part of a string as it is written. -/
inductive StringPart
  | octet (b : UInt8)
  /-- A unit of sixteen bits that is written by its number. -/
  | unit (n : Nat)
  deriving DecidableEq, Repr

inductive Token
  | openBracket | closeBracket | openBrace | closeBrace | comma | colon
  | null
  | flag (b : Bool)
  | number (n : NumberText)
  | text (s : List StringPart)
  deriving DecidableEq, Repr

/-! ### Octets

A document is read as octets, since all marks in it are ASCII. -/

def ascii (c : Char) : UInt8 := UInt8.ofNat c.toNat

def isSpace (b : UInt8) : Bool := b == 0x20 || b == 0x09 || b == 0x0A || b == 0x0D

def isDigit (b : UInt8) : Bool := 0x30 ≤ b && b ≤ 0x39

def digitValue (b : UInt8) : Nat := b.toNat - 0x30

def hexValue? (b : UInt8) : Option Nat :=
  if isDigit b then some (digitValue b)
  else if 0x41 ≤ b && b ≤ 0x46 then some (b.toNat - 0x37)
  else if 0x61 ≤ b && b ≤ 0x66 then some (b.toNat - 0x57)
  else none

/-! ### Strings

A string ends at the next quote that is not escaped. -/

def escaped? (b : UInt8) : Option UInt8 :=
  if b == ascii '"' || b == ascii '\\' || b == ascii '/' then some b
  else if b == ascii 'b' then some 0x08
  else if b == ascii 'f' then some 0x0C
  else if b == ascii 'n' then some 0x0A
  else if b == ascii 'r' then some 0x0D
  else if b == ascii 't' then some 0x09
  else none

/-- The rest of a string after its first quote, and what follows the string. -/
def takeString : List UInt8 → Option (List StringPart × List UInt8)
  | [] => none
  | b :: r =>
    if b == ascii '"' then some ([], r)
    else if b == ascii '\\' then
      match r with
      | u :: w :: x :: y :: z :: rest =>
        if u == ascii 'u' then do
          let n := (((← hexValue? w) * 16 + (← hexValue? x)) * 16 + (← hexValue? y)) * 16 +
            (← hexValue? z)
          let (parts, rest) ← takeString rest
          return (.unit n :: parts, rest)
        else do
          let e ← escaped? u
          let (parts, rest) ← takeString (w :: x :: y :: z :: rest)
          return (.octet e :: parts, rest)
      | u :: rest => do
        let e ← escaped? u
        let (parts, rest) ← takeString rest
        return (.octet e :: parts, rest)
      | [] => none
    else if b < 0x20 then none
    else do
      let (parts, rest) ← takeString r
      return (.octet b :: parts, rest)
termination_by s => s.length

/-! ### Numbers

A number is as long as it can be; a zero in front ends its whole part. -/

/-- The digits at the front, and what follows them. -/
def takeDigits (s : List UInt8) : List Nat × List UInt8 :=
  ((s.takeWhile isDigit).map digitValue, s.dropWhile isDigit)

/-- The fraction behind a point, and what follows it. -/
def takeFraction (s : List UInt8) : Option (List Nat × List UInt8) :=
  match s with
  | b :: r =>
    if b == ascii '.' then
      match takeDigits r with
      | ([], _) => none
      | found => some found
    else some ([], s)
  | [] => some ([], [])

/-- The exponent, and what follows it. -/
def takeExponent (s : List UInt8) : Option (Option (Bool × List Nat) × List UInt8) :=
  match s with
  | b :: r =>
    if b == ascii 'e' || b == ascii 'E' then
      let (negative, r) := match r with
        | c :: r' =>
          if c == ascii '-' then (true, r') else if c == ascii '+' then (false, r') else (false, r)
        | [] => (false, [])
      match takeDigits r with
      | ([], _) => none
      | (ds, rest) => some (some (negative, ds), rest)
    else some (none, s)
  | [] => some (none, [])

/-- A number, and what follows it. A zero in front is the whole part. -/
def takeNumber (s : List UInt8) : Option (NumberText × List UInt8) := do
  let (negative, s) := match s with
    | b :: r => if b == ascii '-' then (true, r) else (false, s)
    | [] => (false, s)
  let (whole, s) ← match s with
    | b :: r =>
      if b == ascii '0' then some ([0], r)
      else match takeDigits s with
        | ([], _) => none
        | found => some found
    | [] => none
  let (fraction, s) ← takeFraction s
  let (exponent, s) ← takeExponent s
  return (⟨negative, whole, fraction, exponent⟩, s)

/-! ### Tokens

Blanks part tokens and are dropped. -/

def dropWord (word : String) (s : List UInt8) : Option (List UInt8) :=
  let w := word.toList.map ascii
  if w.isPrefixOf s then some (s.drop w.length) else none

def punctuation? (b : UInt8) : Option Token :=
  if b == ascii '[' then some .openBracket
  else if b == ascii ']' then some .closeBracket
  else if b == ascii '\x7b' then some .openBrace
  else if b == ascii '\x7d' then some .closeBrace
  else if b == ascii ',' then some .comma
  else if b == ascii ':' then some .colon
  else none

/-- The token that begins with an octet, and what follows it. -/
def takeToken (b : UInt8) (r : List UInt8) : Option (Token × List UInt8) :=
  match punctuation? b with
  | some t => some (t, r)
  | none =>
    if b == ascii '"' then (takeString r).map (fun x => (.text x.1, x.2))
    else if b == ascii 'n' then (dropWord "ull" r).map (.null, ·)
    else if b == ascii 't' then (dropWord "rue" r).map (.flag true, ·)
    else if b == ascii 'f' then (dropWord "alse" r).map (.flag false, ·)
    else (takeNumber (b :: r)).map (fun x => (.number x.1, x.2))

/-- The tokens of octets. The first number bounds how many octets are looked at; the length of
the text is always enough. -/
def tokensWithin : Nat → List UInt8 → Option (List Token)
  | _, [] => some []
  | 0, _ :: _ => none
  | n + 1, b :: r =>
    if isSpace b then tokensWithin n r
    else do
      let (t, rest) ← takeToken b r
      return t :: (← tokensWithin n rest)

def tokens (s : List UInt8) : Option (List Token) := tokensWithin s.length s

end SandboxClient.Json
