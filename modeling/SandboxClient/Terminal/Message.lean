/-
  SandboxClient/Terminal/Message.lean
  ===================================
  **Messages.** The outcome of a command is told in lines of three forms. What
  went wrong is told in a box, with its causes as far as they add something.
-/
import SandboxClient.Terminal.Style
import SandboxClient.Terminal.Wrap

namespace SandboxClient.Terminal

/-! ### Lines

The program's `success`, `field` and `hint`. -/

def success (message : String) : String := coloured .green "✓ " ++ line message

def field (label value : String) : String :=
  line ("  " ++ coloured .darkGrey (label ++ ":") ++ " " ++ value)

def hint (message : String) : String := line (coloured .darkGrey message)

/-! ### Errors

The program's `error_message` and `render_error`. The box has a fixed width; a line of it that is
wider than that ends the program. -/

/-- The message of an error with those of its causes, outermost first. A cause that the text
says already is left out. -/
def errorMessage : List String → String
  | [] => ""
  | m :: causes =>
    causes.foldl (fun text c =>
      if Text.occursIn c.toList text.toList then text else text ++ "\n\nCaused by: " ++ c) m

def boxWidth : Nat := 68

def boxRule (left right : String) : String :=
  coloured .red (left ++ String.ofList (List.replicate boxWidth '─') ++ right)

def boxSide : String := coloured .red "│"

def boxTitle : String :=
  let title := " Error "
  coloured .red ("│" ++ title) ++ spaces (boxWidth - Text.displayWidth title) ++ boxSide

/-- A line in the box. A line that is wider than the box has no place in it. -/
def boxLine (s : String) : Option String :=
  -- the width of the blanks would be less than zero
  if Text.displayWidth s + 2 > boxWidth then none
  else some (boxSide ++ "  " ++ coloured .red s ++ spaces (boxWidth - 2 - Text.displayWidth s) ++
    boxSide)

/-- An error message in its box, unless it has a line without a place in it. -/
def errorBox (message : String) : Option String := do
  let body ← (wrap message (boxWidth - 4)).mapM boxLine
  return String.join (([boxRule "╭" "╮", boxTitle, boxRule "├" "┤"] ++ body ++
    [boxRule "╰" "╯"]).map line)

end SandboxClient.Terminal
