/-
  SandboxClient/Json/Written.lean
  ===============================
  **Writing documents.** A document is written without any blanks when it is sent,
  and with one member or item a line when it is shown. Strings escape quotes,
  backslashes and controls and nothing else; floating point numbers have the
  fewest digits that read back, and always a point or an exponent.
-/
import SandboxClient.Number.Shortest

namespace SandboxClient.Json

open SandboxClient.Number

/-! ### Values

What is written. -/

/-- A document with the texts and numbers that it stands for. -/
inductive Value
  | null
  | flag (b : Bool)
  | integer (n : Int)
  | real (x : Binary64)
  | text (s : String)
  | list (items : List Value)
  | object (members : List (String × Value))
  deriving Repr

/-! ### Strings

Quotes, backslashes and controls are escaped, nothing else. -/

def escapeChar (c : Char) : List Char :=
  match c with
  | '"' => ['\\', '"']
  | '\\' => ['\\', '\\']
  | '\x08' => ['\\', 'b']
  | '\x0c' => ['\\', 'f']
  | '\n' => ['\\', 'n']
  | '\r' => ['\\', 'r']
  | '\t' => ['\\', 't']
  | c =>
    if c.toNat < 0x20 then
      ['\\', 'u', '0', '0'] ++ (if c.toNat < 0x10 then ['0'] else []) ++ Nat.toDigits 16 c.toNat
    else [c]

def stringText (s : String) : List Char := '"' :: (s.toList.flatMap escapeChar ++ ['"'])

/-! ### Floating point numbers

The shortest digits that read back, with an exponent where there would be many zeros. -/

/-- Numbers below ten to this power, and not below ten to the other one, are written without an
exponent. -/
def positionalBelow : Int := 16

/-- See `positionalBelow`. -/
def positionalAbove : Int := -5

def integerText (n : Int) : List Char := (toString n).toList

/-- The digits of a decimal with its point where it belongs. -/
def decimalText (d : Decimal) : List Char :=
  let ds := Nat.toDigits 10 d.digits
  let point : Int := ds.length + d.exponent
  if 0 ≤ d.exponent && point ≤ positionalBelow then
    ds ++ List.replicate d.exponent.toNat '0' ++ ['.', '0']
  else if 0 < point && point ≤ positionalBelow then
    ds.take point.toNat ++ '.' :: ds.drop point.toNat
  else if positionalAbove < point && point ≤ 0 then
    ['0', '.'] ++ List.replicate (-point).toNat '0' ++ ds
  else
    ds.take 1 ++ (if ds.length == 1 then [] else '.' :: ds.drop 1) ++ 'e' ::
      integerText (point - 1)

def realText (x : Binary64) : List Char :=
  (if x.negative then ['-'] else []) ++
    (if x.isZero then ['0', '.', '0'] else decimalText (shortest x))

/-! ### Documents

A document is sent without blanks and shown in lines. -/

/-- A document without lists and objects, and the brackets of those that hold nothing. -/
def Value.atom : Value → List Char
  | .null => "null".toList
  | .flag true => "true".toList
  | .flag false => "false".toList
  | .integer n => integerText n
  | .real x => realText x
  | .text s => stringText s
  | .list _ => ['[', ']']
  | .object _ => ['\x7b', '\x7d']

def separated (pieces : List (List Char)) : List Char := List.intercalate [','] pieces

mutual

def Value.compact : Value → List Char
  | .list items => '[' :: (separated (compactItems items) ++ [']'])
  | .object members => '\x7b' :: (separated (compactMembers members) ++ ['\x7d'])
  | v => v.atom

def compactItems : List Value → List (List Char)
  | [] => []
  | v :: vs => v.compact :: compactItems vs

def compactMembers : List (String × Value) → List (List Char)
  | [] => []
  | (name, v) :: ms => (stringText name ++ ':' :: v.compact) :: compactMembers ms

end

def lineStart (depth : Nat) : List Char := '\n' :: List.replicate (2 * depth) ' '

def bracketed (left right : Char) (depth : Nat) (pieces : List (List Char)) : List Char :=
  left :: (separated (pieces.map (fun p => lineStart (depth + 1) ++ p)) ++ lineStart depth ++
    [right])

mutual

/-- A document in lines, the first of which is begun at a depth. -/
def Value.indented (depth : Nat) : Value → List Char
  | .list (v :: vs) => bracketed '[' ']' depth (indentedItems (depth + 1) (v :: vs))
  | .object (m :: ms) => bracketed '\x7b' '\x7d' depth (indentedMembers (depth + 1) (m :: ms))
  | v => v.atom

def indentedItems (depth : Nat) : List Value → List (List Char)
  | [] => []
  | v :: vs => v.indented depth :: indentedItems depth vs

def indentedMembers (depth : Nat) : List (String × Value) → List (List Char)
  | [] => []
  | (name, v) :: ms => (stringText name ++ ':' :: ' ' :: v.indented depth) ::
      indentedMembers depth ms

end

/-- The text of a document that is sent. -/
def Value.sent (v : Value) : String := String.ofList v.compact

/-- The text of a document that is shown. -/
def Value.shown (v : Value) : String := String.ofList (v.indented 0)

end SandboxClient.Json
