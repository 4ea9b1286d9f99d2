/-
  SandboxClient/Yaml/Scalar.lean
  ==============================
  **What a plain scalar means.** Text without quotes may be null, a truth value
  or a number; whatever is none of these is text. Decimal numbers with leading
  zeros are text, and so are numbers too large for a float.
-/
import SandboxClient.Yaml.Quoted
import SandboxClient.Number.Binary64

namespace SandboxClient.Yaml

open SandboxClient.Number

/-! ### Numbers

Only as much of a number is kept as decides whether two keys are the same, and of which type a value
is. -/

/-- A number that is not an integer. -/
inductive Real
  | finite (x : Binary64)
  | infinite (negative : Bool)
  | notANumber
  deriving DecidableEq, Repr

/-- Whether two such numbers count as the same key. -/
def Real.same : Real → Real → Bool
  | .finite x, .finite y => x.sameValue y
  | .infinite a, .infinite b => a == b
  | .notANumber, .notANumber => true
  | _, _ => false

/-- What a plain scalar stands for. -/
inductive Meaning
  | null
  | bool (b : Bool)
  | integer (n : Int)
  | real (x : Real)
  /-- An integer outside the range of 64 bits. -/
  | wideInteger
  | text
  deriving DecidableEq, Repr

/-- The value of a digit in bases up to sixteen. -/
def digitIn (base : Nat) (c : Char) : Option Nat :=
  (hexValue c).filter (· < base)

def natural (base : Nat) (s : List Char) : Option Nat :=
  if s.isEmpty then none
  else s.foldl (fun n c => do return (← n) * base + (← digitIn base c)) (some 0)

/-- Whether a text is a sign and digits, more than one, of which the first is zero. -/
def isZeroPadded (s : List Char) : Bool :=
  let digits := match s with
    | '-' :: r => r
    | '+' :: r => r
    | r => r
  match digits with
  | '0' :: c :: r => (c :: r).all Char.isDigit
  | _ => false

/-- Digits behind the mark of their base. -/
def basedNatural (s : List Char) : Option Nat :=
  match s with
  | '0' :: 'x' :: r => natural 16 r
  | '0' :: 'o' :: r => natural 8 r
  | '0' :: 'b' :: r => natural 2 r
  | _ => none

/-- An integer: an optional sign and digits, in base ten or behind the mark of a base. -/
def integer (s : List Char) : Option Int :=
  let size (r : List Char) : Option Nat :=
    match basedNatural r with
    | some n => some n
    | none => if isZeroPadded s then none else natural 10 r
  match s with
  | '-' :: r => (size r).map (fun n => -(n : Int))
  | '+' :: r => (size r).map Int.ofNat
  | r => (size r).map Int.ofNat

/-- The exponent of a decimal number: a mark, an optional sign and digits. -/
def decimalExponent (s : List Char) : Option Int :=
  let signed (r : List Char) : Option Int :=
    match r with
    | '-' :: r => (natural 10 r).map (fun n => -(n : Int))
    | '+' :: r => (natural 10 r).map Int.ofNat
    | r => (natural 10 r).map Int.ofNat
  match s with
  | [] => some 0
  | 'e' :: r => signed r
  | 'E' :: r => signed r
  | _ => none

/-- A decimal number: digits with at most one point among or around them, and an optional
exponent. -/
def decimal (negative : Bool) (s : List Char) : Option Binary64 := do
  let whole := s.takeWhile Char.isDigit
  let rest := s.dropWhile Char.isDigit
  let (part, rest) := match rest with
    | '.' :: r => (r.takeWhile Char.isDigit, r.dropWhile Char.isDigit)
    | r => ([], r)
  let digits ← natural 10 (whole ++ part)
  let exponent ← decimalExponent rest
  Binary64.ofDecimal negative digits (exponent - part.length)

def real (s : List Char) : Option Real :=
  let text := String.ofList s
  let size := match s with
    | '+' :: r => r
    | r => r
  if [".inf", ".Inf", ".INF"].contains (String.ofList size) then some (.infinite false)
  else if ["-.inf", "-.Inf", "-.INF"].contains text then some (.infinite true)
  else if [".nan", ".NaN", ".NAN"].contains text then some .notANumber
  else match s with
    | '-' :: r => (decimal true r).map .finite
    | _ => (match size with
      | '-' :: _ => none
      | r => (decimal false r).map .finite)

/-! ### Meanings

The spellings are tried in the order of the core schema. -/

def isNull (s : String) : Bool := ["null", "Null", "NULL", "~"].contains s

/-- The truth value that a text spells. -/
def truth (s : String) : Option Bool :=
  if ["true", "True", "TRUE"].contains s then some true
  else if ["false", "False", "FALSE"].contains s then some false
  else none

/-- An integer of at most 64 bits, one that is wider but has at most 128, or neither. -/
def integerMeaning (s : String) : Option Meaning :=
  match integer s.toList with
  | some n =>
    if -(Nat.pow 2 63 : Int) ≤ n ∧ n < Nat.pow 2 64 then some (.integer n)
    else if -(Nat.pow 2 127 : Int) ≤ n ∧ n < Nat.pow 2 128 then some .wideInteger
    else none
  | none => none

def meaning (s : String) : Meaning :=
  if s.isEmpty || isNull s then .null
  else match truth s with
    | some b => .bool b
    | none =>
      match integerMeaning s with
      | some m => m
      | none =>
        if isZeroPadded s.toList then .text
        else match real s.toList with
          | some x => .real x
          | none => .text

end SandboxClient.Yaml
