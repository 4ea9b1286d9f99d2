/-
  SandboxClient/Yaml/Written.lean
  ===============================
  **Writing documents.** What this program writes is a block of fields and
  lists whose leaves are texts and flags. A text is written without quotes when
  it reads back as itself, in single quotes when only its look is ambiguous, as
  literal lines when it contains a line feed, and in double quotes, with
  escapes, when a character in it cannot stand for itself.

  `Block.node` is the value that a block stands for; reading what
  `Block.write` gives is meant to give exactly that.
-/
import SandboxClient.Yaml.Node

namespace SandboxClient.Yaml

/-! ### Blocks

The documents that are written: texts and flags in lists and mappings. -/

inductive Block
  | text (s : String)
  | flag (b : Bool)
  | items (blocks : List Block)
  | fields (blocks : List (String × Block))
  deriving Repr

mutual

/-- The value that a block stands for. -/
def Block.node : Block → Node
  | .text s => .text s
  | .flag b => .bool b
  | .items bs => .sequence (itemNodes bs)
  | .fields fs => .mapping (fieldNodes fs)

def itemNodes : List Block → List Node
  | [] => []
  | b :: bs => b.node :: itemNodes bs

def fieldNodes : List (String × Block) → List (Node × Node)
  | [] => []
  | (k, b) :: fs => (.text k, b.node) :: fieldNodes fs

end

/-! ### Looking at a text

Whether a text can stand without quotes is decided by what it has in it and by what it would mean.
-/

/-- Characters that a written document shows as themselves. -/
def isPrintable (c : Char) : Bool :=
  let n := c.toNat
  n == 0x0A || (0x20 ≤ n && n ≤ 0x7E) || (0xA0 ≤ n && n ≤ 0xD7FF) ||
    (0xE000 ≤ n && n ≤ 0xFFFD && n != 0xFEFF) || 0x10000 ≤ n

/-- Line ends as the writer sees them; a document's reader knows the same ones. -/
def isWrittenBreak (c : Char) : Bool :=
  c == '\n' || c == '\r' || c == '\u0085' || c == '\u2028' || c == '\u2029'

def isWrittenSeparation (c : Option Char) : Bool :=
  match c with
  | none => true
  | some c => c == ' ' || c == '\t' || c == '\x00' || isWrittenBreak c

/-- Indicators that keep a text from being written plain when it starts with one. -/
def isLeadingIndicator (c : Char) : Bool :=
  c == '#' || isFlowIndicator c || c == '&' || c == '*' || c == '!' || c == '|' ||
    c == '>' || c == '\'' || c == '"' || c == '%' || c == '@' || c == '\u0060'

/-- Whether a character of a text, with its neighbours, is an indicator of block context. -/
def isBlockIndicatorAt (before : Option Char) (c : Char) (after : Option Char) : Bool :=
  match before with
  | none => isLeadingIndicator c ||
      ((c == '?' || c == ':' || c == '-') && isWrittenSeparation after)
  | some b => (c == ':' && isWrittenSeparation after) ||
      (c == '#' && isWrittenSeparation (some b))

/-- Whether `p` holds of some character together with its neighbours. -/
def anyWithNeighbours (p : Option Char → Char → Option Char → Bool) (before : Option Char) :
    List Char → Bool
  | [] => false
  | c :: r => p before c r.head? || anyWithNeighbours p (some c) r

/-- What decides how a text can be written. -/
structure Features where
  /-- An indicator that plain text may not have. -/
  indicator : Bool
  /-- A character that can only be written as an escape. -/
  special : Bool
  /-- A line end somewhere. -/
  multiline : Bool
  /-- A space in front or behind, or a line end in front or behind. -/
  edge : Bool
  /-- A space behind. -/
  spaceBehind : Bool
  /-- A space right behind a line end. -/
  breakSpace : Bool
  /-- A line end right behind a space. -/
  spaceBreak : Bool
  deriving DecidableEq, Repr

def Features.ofText (s : List Char) : Features :=
  let first := s.head?
  let last := s.getLast?
  let marked := [['-', '-', '-'], ['.', '.', '.']].contains (s.take 3)
  { indicator := marked || anyWithNeighbours isBlockIndicatorAt none s
    special := s.any (fun c => !isPrintable c)
    multiline := s.any isWrittenBreak
    edge := first.any (fun c => c == ' ' || isWrittenBreak c) ||
      last.any (fun c => c == ' ' || isWrittenBreak c)
    spaceBehind := last == some ' '
    breakSpace := anyWithNeighbours (fun b c _ => b.any isWrittenBreak && c == ' ') none s
    spaceBreak := anyWithNeighbours (fun b c _ => b == some ' ' && isWrittenBreak c) none s }

def styleOf (s : String) : Style :=
  let f := Features.ofText s.toList
  let quoted := if f.breakSpace || f.spaceBreak || f.special then .doubleQuoted else .singleQuoted
  if s.toList.contains '\n' then
    if f.spaceBehind || f.spaceBreak || f.special then .doubleQuoted else .literal
  else if meaning s != .text || isZeroPadded s.toList then
    quoted
  else if f.edge || f.breakSpace || f.spaceBreak || f.special || f.multiline || f.indicator then
    quoted
  else .plain

/-! ### Leaves

A text is written plain, in single or double quotes, or as literal lines. -/

def margin (n : Nat) : List Char := List.replicate n ' '

/-- Upper-case hexadecimal digits, at least `width` of them. -/
def hexDigits (width n : Nat) : List Char :=
  let ds := (Nat.toDigits 16 n).map Char.toUpper
  List.replicate (width - ds.length) '0' ++ ds

/-- A character between double quotes. -/
def escaped (c : Char) : List Char :=
  match c with
  | '\x00' => ['\\', '0']
  | '\x07' => ['\\', 'a']
  | '\x08' => ['\\', 'b']
  | '\t' => ['\\', 't']
  | '\n' => ['\\', 'n']
  | '\x0B' => ['\\', 'v']
  | '\x0C' => ['\\', 'f']
  | '\r' => ['\\', 'r']
  | '\x1B' => ['\\', 'e']
  | '"' => ['\\', '"']
  | '\\' => ['\\', '\\']
  | '\u0085' => ['\\', 'N']
  | '\u2028' => ['\\', 'L']
  | '\u2029' => ['\\', 'P']
  | c =>
    if isPrintable c then [c]
    else if c.toNat ≤ 0xFF then '\\' :: 'x' :: hexDigits 2 c.toNat
    else if c.toNat ≤ 0xFFFF then '\\' :: 'u' :: hexDigits 4 c.toNat
    else '\\' :: 'U' :: hexDigits 8 c.toNat

def writeDoubleQuoted (s : List Char) : List Char := '"' :: (s.flatMap escaped ++ ['"'])

/-- The characters of a text in single quotes: a quote is doubled, and behind line ends the next
character is indented. -/
def singleQuotedBody (indent : Nat) (afterBreak : Bool) : List Char → List Char
  | [] => if afterBreak then margin indent else []
  | c :: r =>
    if isWrittenBreak c then c :: singleQuotedBody indent true r
    else
      (if afterBreak then margin indent else []) ++
        (if c == '\'' then ['\'', '\''] else [c]) ++ singleQuotedBody indent false r

def writeSingleQuoted (indent : Nat) (s : List Char) : List Char :=
  '\'' :: (singleQuotedBody indent false s ++ ['\''])

/-- The lines of a literal text: each line that is not empty is indented. -/
def literalBody (indent : Nat) (afterBreak : Bool) : List Char → List Char
  | [] => []
  | c :: r =>
    if isWrittenBreak c then c :: literalBody indent true r
    else (if afterBreak then margin indent else []) ++ (c :: literalBody indent false r)

/-- The hints behind the indicator of a literal text: the indentation where the text starts with
a space or a line end, and the chomping. -/
def literalHints (s : List Char) : List Char :=
  let indentation := if s.head?.any (fun c => c == ' ' || isWrittenBreak c) then ['2'] else []
  let chomping := match s.reverse with
    | [] => ['-']
    | c :: r =>
      if !isWrittenBreak c then ['-']
      else match r with
        | [] => ['+']
        | d :: _ => if isWrittenBreak d then ['+'] else []
  indentation ++ chomping

/-- A text as literal lines. -/
def writeLiteral (indent : Nat) (s : List Char) : List Char :=
  '|' :: (literalHints s ++ ('\n' :: literalBody indent true s))

/-- A text as the value of a field or an item of a collection indented to `indent`. -/
def writeText (indent : Nat) (s : String) : List Char :=
  match styleOf s with
  | .plain => s.toList
  | .singleQuoted => writeSingleQuoted (indent + 2) s.toList
  | .literal => writeLiteral (indent + 2) s.toList
  | _ => writeDoubleQuoted s.toList

/-! ### Collections

Collections are written in block form, one entry a line. -/

/-- Ends a line unless it has just ended. -/
def endLine (s : List Char) : List Char :=
  if s.getLast?.any isWrittenBreak then s else s ++ ['\n']

mutual

/-- A block as the value of a field of a mapping indented to `indent`: behind the colon or on the
lines that follow. -/
def Block.writeValue (indent : Nat) : Block → List Char
  | .text s => ' ' :: endLine (writeText indent s)
  | .flag b => ' ' :: endLine (if b then ['t', 'r', 'u', 'e'] else ['f', 'a', 'l', 's', 'e'])
  | .items [] => [' ', '[', ']', '\n']
  | .items (b :: bs) => '\n' :: writeItems indent (b :: bs)
  | .fields [] => [' ', '\x7b', '\x7d', '\n']
  | .fields (f :: fs) => '\n' :: (margin (indent + 2) ++ writeFields (indent + 2) (f :: fs))

/-- The items of a list, each behind a dash at column `indent`. -/
def writeItems (indent : Nat) : List Block → List Char
  | [] => []
  | .fields [] :: bs => margin indent ++ ['-', ' ', '\x7b', '\x7d', '\n'] ++ writeItems indent bs
  | .fields (f :: fs) :: bs =>
    margin indent ++ ['-', ' '] ++ writeFields (indent + 2) (f :: fs) ++ writeItems indent bs
  | .items [] :: bs => margin indent ++ ['-', ' ', '[', ']', '\n'] ++ writeItems indent bs
  | .items (i :: is) :: bs =>
    margin indent ++ ['-', ' '] ++ (writeItems (indent + 2) (i :: is)).drop (indent + 2) ++
      writeItems indent bs
  | b :: bs => margin indent ++ ('-' :: b.writeValue indent) ++ writeItems indent bs

/-- The fields of a mapping; all but the first are indented to `indent`. -/
def writeFields (indent : Nat) : List (String × Block) → List Char
  | [] => []
  | [(k, b)] => k.toList ++ (':' :: b.writeValue indent)
  | (k, b) :: f :: fs =>
    k.toList ++ (':' :: b.writeValue indent) ++ margin indent ++ writeFields indent (f :: fs)

end

/-- The text of a document. -/
def Block.write (b : Block) : String :=
  String.ofList <|
    match b with
    | .fields [] => ['\x7b', '\x7d', '\n']
    | .fields fs => writeFields 0 fs
    | .items [] => ['[', ']', '\n']
    | .items bs => writeItems 0 bs
    | b => (b.writeValue 0).drop 1

end SandboxClient.Yaml
