/-
  SandboxClient/Yaml/Quoted.lean
  ==============================
  **Quoted scalars.** Between single quotes only a doubled quote is special;
  between double quotes a backslash starts an escape. In both, line ends fold.
-/
import SandboxClient.Yaml.Token

namespace SandboxClient.Yaml

def hexValue (c : Char) : Option Nat :=
  let n := c.toNat
  if 0x30 ≤ n && n ≤ 0x39 then some (n - 0x30)
  else if 0x41 ≤ n && n ≤ 0x46 then some (n - 0x41 + 10)
  else if 0x61 ≤ n && n ≤ 0x66 then some (n - 0x61 + 10)
  else none

/-- What a character after a backslash stands for, when that is a single character. -/
def escapedChar (c : Char) : Option Char :=
  match c with
  | '0' => some '\x00'
  | 'a' => some '\x07'
  | 'b' => some '\x08'
  | 't' => some '\t'
  | '\t' => some '\t'
  | 'n' => some '\n'
  | 'v' => some '\x0B'
  | 'f' => some '\x0C'
  | 'r' => some '\r'
  | 'e' => some '\x1B'
  | ' ' => some ' '
  | '"' => some '"'
  | '/' => some '/'
  | '\\' => some '\\'
  | 'N' => some '\u0085'
  | '_' => some '\u00A0'
  | 'L' => some '\u2028'
  | 'P' => some '\u2029'
  | _ => none

/-- How many hexadecimal digits follow an escape that names a character by its number. -/
def escapeDigits (c : Char) : Option Nat :=
  match c with
  | 'x' => some 2
  | 'u' => some 4
  | 'U' => some 8
  | _ => none

/-- The character with a number, unless it is a surrogate or too large. -/
def charOfNumber (n : Nat) : Option Char :=
  if (0xD800 ≤ n && n ≤ 0xDFFF) || n > 0x10FFFF then none else some (Char.ofNat n)

/-- Where in a quoted scalar the reader is. -/
inductive QuotedMode
  /-- Among the characters of a word. -/
  | word
  /-- Between words. -/
  | fold (f : Fold)
  /-- Inside a numeric escape: digits still to come and the number so far. -/
  | digits (left value : Nat)
  deriving Repr

/-- Reads a quoted scalar from behind its opening quote; `done` is the text so far, last
character first. -/
def scanQuoted (double : Bool) (mode : QuotedMode) (done : List Char) :
    Source → Except Fault (String × Source)
  | [] => .error .token
  | cell :: rest =>
    let c := cell.char
    let quote := if double then '"' else '\''
    match mode with
    | .digits left value =>
      match hexValue c with
      | none => .error .token
      | some d =>
        let value := value * 16 + d
        if left ≤ 1 then
          match charOfNumber value with
          | some x => scanQuoted double .word (x :: done) rest
          | none => .error .token
        else scanQuoted double (.digits (left - 1) value) done rest
    | .fold f =>
      if isGap c then scanQuoted double (.fold (f.addBlank c)) done rest
      else if isBreak c then scanQuoted double (.fold (f.addBreak c)) done rest
      else if (Source.atDocumentMark (cell :: rest) '-') ||
          (Source.atDocumentMark (cell :: rest) '.') then .error .token
      else atWord double quote (f.text.reverse ++ done) cell rest
    | .word => atWord double quote done cell rest
where
  /-- One step among the characters of a word. -/
  atWord (double : Bool) (quote : Char) (done : List Char) (cell : Cell) :
      Source → Except Fault (String × Source)
    | [] => .error .token
    | next :: rest =>
      let c := cell.char
      if !double && c == '\'' && next.char == '\'' then
        scanQuoted double .word ('\'' :: done) rest
      else if c == quote then .ok (String.ofList done.reverse, next :: rest)
      else if double && c == '\\' && isBreak next.char then
        scanQuoted double (.fold .escaped) done rest
      else if double && c == '\\' then
        match escapedChar next.char with
        | some x => scanQuoted double .word (x :: done) rest
        | none =>
          match escapeDigits next.char with
          | some n => scanQuoted double (.digits n 0) done rest
          | none => .error .token
      else if isGap c then scanQuoted double (.fold (Fold.start.addBlank c)) done (next :: rest)
      else if isBreak c then scanQuoted double (.fold (Fold.start.addBreak c)) done (next :: rest)
      else scanQuoted double .word (c :: done) (next :: rest)

end SandboxClient.Yaml
