/-
  SandboxClient/Terminal/Style.lean
  =================================
  **Colours and weights.** A terminal changes how it writes when it reads an
  escape sequence, until it reads another one that changes it back.
-/

namespace SandboxClient.Terminal

inductive Colour
  | darkGrey | red | green | yellow | cyan | white
  deriving DecidableEq, Repr

/-- The number of a colour in the palette of terminals. -/
def Colour.number : Colour → Nat
  | .darkGrey => 8
  | .red => 9
  | .green => 10
  | .yellow => 11
  | .cyan => 14
  | .white => 15

def escapeSequence (parameters : String) : String := "\x1b[" ++ parameters ++ "m"

def Colour.on (c : Colour) : String := escapeSequence ("38;5;" ++ toString c.number)

def coloured (c : Colour) (s : String) : String := c.on ++ s ++ escapeSequence "39"

def bold (c : Colour) (s : String) : String :=
  c.on ++ escapeSequence "1" ++ s ++ escapeSequence "0"

def underlined (s : String) : String := escapeSequence "4" ++ s ++ escapeSequence "0"

def spaces (n : Nat) : String := String.ofList (List.replicate n ' ')

def line (s : String) : String := s ++ "\n"

end SandboxClient.Terminal
