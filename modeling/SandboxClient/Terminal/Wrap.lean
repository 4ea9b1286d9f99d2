/-
  SandboxClient/Terminal/Wrap.lean
  ================================
  **Fitting texts into columns.** A text that is too wide is cut off, with dots in
  the place of the rest. A text of several words is broken into lines between
  words, each line taking as many words as fit.
-/
import SandboxClient.Text.Blank
import SandboxClient.Text.Width

namespace SandboxClient.Terminal

open SandboxClient.Text

/-! ### Cutting off

The program's `truncate`, on lists of characters first. -/

def dots : List Char := ['.', '.', '.']

/-- The longest start of a text that fits before the dots, `used` columns being taken. -/
def cut (width : Nat) (used : Nat) : List Char → List Char
  | [] => []
  | c :: r =>
    if used + loneColumns c + dots.length > width then []
    else c :: cut width (used + loneColumns c) r

/-- A text in at most so many columns. -/
def truncateChars (s : List Char) (width : Nat) : List Char :=
  if columns s ≤ width then s else cut width 0 s ++ dots

def truncate (s : String) (width : Nat) : String := String.ofList (truncateChars s.toList width)

/-! ### Breaking into lines

The program's `wrap_text`. Each line of the text is filled on its own, so that paragraphs stay. -/

structure Filling where
  text : List Char
  used : Nat
  deriving DecidableEq, Repr

/-- The lines that words fill, after the line begun. A word that does not fit after a space
begins the next line. -/
def fill (width : Nat) (begun : Filling) : List (List Char) → List (List Char)
  | [] => [begun.text]
  | w :: ws =>
    if begun.text.isEmpty then fill width ⟨w, columns w⟩ ws
    else if begun.used + 1 + columns w ≤ width then
      fill width ⟨begun.text ++ ' ' :: w, begun.used + (1 + columns w)⟩ ws
    else begun.text :: fill width ⟨w, columns w⟩ ws

def wrapLine (width : Nat) (s : List Char) : List (List Char) :=
  fill width ⟨[], 0⟩ ((words s).map (truncateChars · width))

/-- The lines of a text: those of each of its lines in turn, and one empty line for a text that
has none. -/
def wrapChars (s : List Char) (width : Nat) : List (List Char) :=
  let ls := (lines s).flatMap (wrapLine width)
  if ls.isEmpty then [[]] else ls

def wrap (s : String) (width : Nat) : List String := (wrapChars s.toList width).map String.ofList

end SandboxClient.Terminal
