/-
  SandboxClient/Yaml/Source.lean
  ==============================
  **The characters of a document, each with its place.** A document is first
  checked for characters that may not occur, its line ends are made uniform,
  and every character is given its line, column and index. One cell with the
  character NUL, which no document contains, closes the source; it holds the
  place of the end and makes looking ahead total.

  Everything later in the reader is recursion over this list of cells.
-/

namespace SandboxClient.Yaml

/-! ### What can be wrong with a document

Why a text is not accepted as a document. -/

inductive Fault
  /-- A character that no document may contain. -/
  | character
  /-- A token is malformed or stands where its kind may not stand. -/
  | token
  /-- The tokens do not form a document. -/
  | arrangement
  /-- A reference to a name that was not given to an earlier node. -/
  | unknownAnchor
  /-- Collections are nested too deeply. -/
  | depth
  /-- References are followed too often. -/
  | repetition
  /-- A scalar is not of the type its tag announces. -/
  | scalar
  /-- A mapping has the same key twice. -/
  | duplicateKey
  /-- More than one document in the text. -/
  | secondDocument
  deriving DecidableEq, Repr

/-! ### Character classes

The classes of the grammar. They are asked of the cell ahead, so the end of the source is one of the
characters. -/

/-- Characters that may occur in a document. -/
def isAllowed (c : Char) : Bool :=
  let n := c.toNat
  n == 0x09 || n == 0x0A || n == 0x0D || (0x20 ≤ n && n ≤ 0x7E) || n == 0x85 ||
    (0xA0 ≤ n && n ≤ 0xD7FF) || (0xE000 ≤ n && n ≤ 0xFFFD) || 0x10000 ≤ n

def byteOrderMark : Char := '\uFEFF'

/-- A character that ends a line, once line ends are uniform. -/
def isBreak (c : Char) : Bool := c == '\n' || c == '\u2028' || c == '\u2029'

/-- The character of the closing cell. -/
def isEnd (c : Char) : Bool := c == '\x00'

def isGap (c : Char) : Bool := c == ' ' || c == '\t'

def isLineOver (c : Char) : Bool := isBreak c || isEnd c

/-- What may follow an indicator: a gap, a line end or the end of the source. -/
def isSeparation (c : Char) : Bool := isGap c || isLineOver c

/-- Characters of names of anchors, handles and directives. -/
def isNameChar (c : Char) : Bool := c.isAlphanum || c == '_' || c == '-'

/-! ### Cells

A reader has to know the column of a character, and how far apart two characters are. -/

/-- One character and where it stands. -/
structure Cell where
  char : Char
  line : Nat
  column : Nat
  index : Nat
  deriving Repr

/-- What is left of a document. -/
abbrev Source := List Cell

/-- The closing cell of an empty document, which also stands for looking past the end. -/
def Cell.closing : Cell := ⟨'\x00', 0, 0, 0⟩

def Source.here (s : Source) : Cell := s.headD .closing

def Source.ahead (s : Source) (n : Nat) : Char := ((s.drop n).headD .closing).char

/-- Whether three equal indicator characters followed by a separation stand at the start of
a line: the marks that open and close a document. -/
def Source.atDocumentMark (s : Source) (c : Char) : Bool :=
  s.here.column == 0 && s.ahead 0 == c && s.ahead 1 == c && s.ahead 2 == c &&
    isSeparation (s.ahead 3)

/-! ### From text to cells

Line ends are made uniform first, so that one character ends a line everywhere. -/

/-- Makes line ends uniform: a carriage return, alone or before a line feed, and the next line
character all become a line feed. -/
def unifyBreaks : List Char → List Char
  | '\r' :: '\n' :: r => '\n' :: unifyBreaks r
  | '\r' :: r => '\n' :: unifyBreaks r
  | '\u0085' :: r => '\n' :: unifyBreaks r
  | c :: r => c :: unifyBreaks r
  | [] => []

/-- Gives each character its place, starting from the given one. -/
def place (line column index : Nat) : List Char → Source
  | [] => [⟨'\x00', line, column, index⟩]
  | c :: r =>
    ⟨c, line, column, index⟩ ::
      (if isBreak c then place (line + 1) 0 (index + 1) r
       else place line (column + 1) (index + 1) r)

/-- The cells of a text, without a byte order mark in front. -/
def Source.ofText (text : List Char) : Except Fault Source :=
  let text := match text with
    | c :: r => if c == byteOrderMark then r else c :: r
    | [] => []
  if text.all isAllowed then .ok (place 0 0 0 (unifyBreaks text)) else .error .character

end SandboxClient.Yaml
