/-
  SandboxClient/Text/Blank.lean
  =============================
  **Blank characters, words and lines.** A character is blank when it has the
  Unicode property White_Space. Everything in the program that trims a name, an
  address or a token, that decides whether a text is empty to the eye, or that
  breaks a message into words uses this one class.

  The working form of a text is a list of characters; the operations on
  `String` are the same functions behind `String.ofList`.
-/

namespace SandboxClient.Text

/-! ### The class

Everywhere in the program, blanks are the white space of Unicode. -/

/-- The Unicode property White_Space. -/
def isBlank (c : Char) : Bool :=
  let n := c.toNat
  (9 ≤ n && n ≤ 13) || n == 0x20 || n == 0x85 || n == 0xA0 || n == 0x1680 ||
    (0x2000 ≤ n && n ≤ 0x200A) || n == 0x2028 || n == 0x2029 || n == 0x202F ||
    n == 0x205F || n == 0x3000

/-! ### Trimming

Both ends are trimmed by the same class. -/

/-- Drops the longest tail whose characters all satisfy `p`. -/
def dropTail (p : Char → Bool) (s : List Char) : List Char :=
  (s.reverse.dropWhile p).reverse

def trimStart (s : List Char) : List Char := s.dropWhile isBlank

def trimEnd (s : List Char) : List Char := dropTail isBlank s

/-- Drops blanks at both ends. -/
def trim (s : List Char) : List Char := trimEnd (trimStart s)

def trimmed (s : String) : String := String.ofList (trim s.toList)

def isBlankText (s : String) : Bool := (trim s.toList).isEmpty

/-! ### Words and lines

What stands between blanks, and what line feeds end. -/

/-- The maximal runs of characters that are not blank, in order. -/
def words (s : List Char) : List (List Char) :=
  (s.splitOnP isBlank).filter (fun w => !w.isEmpty)

def dropReturn (s : List Char) : List Char :=
  if s.getLast? == some '\r' then s.dropLast else s

/-- The lines of a text. A line feed ends a line, together with a carriage return right before
it; text after the last line feed is a line of its own unless it is empty. -/
def lines (s : List Char) : List (List Char) :=
  let pieces := s.splitOnP (· == '\n')
  pieces.dropLast.map dropReturn ++ (pieces.getLast?.toList.filter (fun l => !l.isEmpty))

/-! ### Search

The first place counts. -/

/-- Whether `part` stands somewhere in `s`. -/
def occursIn (part : List Char) : List Char → Bool
  | [] => part.isEmpty
  | c :: r => part.isPrefixOf (c :: r) || occursIn part r

/-- The text before and after the first place where `p` holds, without that character. -/
def splitFirst (p : Char → Bool) (s : List Char) : Option (List Char × List Char) :=
  match s.span (fun c => !p c) with
  | (_, []) => none
  | (before, _ :: after) => some (before, after)

end SandboxClient.Text
