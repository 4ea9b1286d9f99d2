/-
  SandboxClient/Yaml/Token.lean
  =============================
  **The tokens of a document.** Indentation shows in tokens of its own: a block
  collection opens with a start token and closes with `blockEnd`, so that the
  grammar above the tokens never looks at columns again.
-/
import SandboxClient.Yaml.Source

namespace SandboxClient.Yaml

inductive Style
  | plain
  | singleQuoted
  | doubleQuoted
  | literal
  | folded
  deriving DecidableEq, Repr

inductive Token
  | versionDirective (major minor : Nat)
  | tagDirective (handle meaning : String)
  | documentStart
  | documentEnd
  | blockSequenceStart
  | blockMappingStart
  | blockEnd
  | flowSequenceStart
  | flowSequenceEnd
  | flowMappingStart
  | flowMappingEnd
  | entryMark
  | comma
  | keyMark
  | valueMark
  | reference (name : String)
  | anchor (name : String)
  | tag (handle suffix : String)
  | scalar (text : String) (style : Style)
  deriving DecidableEq, Repr

/-! ### Line folding

Between two words of a quoted or plain scalar stand blanks or line ends. A
single line end counts as a space; of several, the first is dropped. -/

/-- What stands between two words of a scalar. -/
structure Fold where
  /-- Blanks before the first line end, last first. -/
  blanks : List Char
  /-- Whether a line has ended, visibly or by an escape. -/
  broken : Bool
  /-- The first line end. -/
  first : Option Char
  /-- The line ends after it, last first. -/
  more : List Char
  deriving Repr

def Fold.start : Fold := ⟨[], false, none, []⟩

/-- A line ended by an escape, which leaves no trace in the text. -/
def Fold.escaped : Fold := ⟨[], true, none, []⟩

/-- Reads a blank: kept on the first line, dropped as indentation after it. -/
def Fold.addBlank (f : Fold) (c : Char) : Fold :=
  if f.broken then f else { f with blanks := c :: f.blanks }

def Fold.addBreak (f : Fold) (c : Char) : Fold :=
  if f.broken then { f with more := c :: f.more }
  else { f with blanks := [], broken := true, first := some c }

/-- The text that the fold stands for. -/
def Fold.text (f : Fold) : List Char :=
  if f.broken then
    match f.first with
    | some c => if c == '\n' then (if f.more.isEmpty then [' '] else f.more.reverse)
                else c :: f.more.reverse
    | none => f.more.reverse
  else f.blanks.reverse

end SandboxClient.Yaml
