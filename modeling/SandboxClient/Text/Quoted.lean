/-
  SandboxClient/Text/Quoted.lean
  ==============================
  **Quoted display of a text.** Messages show names that somebody typed between
  double quotes. Quotes, backslashes and the common controls have short escapes;
  every other character that would not show, or that would join the one before
  it, is shown by its number.
-/
import SandboxClient.Unicode.Visible

namespace SandboxClient.Text

open SandboxClient.Unicode

/-- Whether a quoted display names a character by its number. -/
def isShownByNumber (c : Char) : Bool :=
  if 0x20 ≤ c.toNat && c.toNat ≤ 0x7E then false
  else graphemeExtend.contains c || unprintable.contains c

def quotedChar (c : Char) : List Char :=
  match c with
  | '\x00' => ['\\', '0']
  | '\t' => ['\\', 't']
  | '\r' => ['\\', 'r']
  | '\n' => ['\\', 'n']
  | '\\' => ['\\', '\\']
  | '"' => ['\\', '"']
  | c =>
    if isShownByNumber c then
      ['\\', 'u', '\x7b'] ++ Nat.toDigits 16 c.toNat ++ ['\x7d']
    else [c]

/-- A text between double quotes. -/
def quoted (s : String) : String :=
  String.ofList ('"' :: (s.toList.flatMap quotedChar ++ ['"']))

end SandboxClient.Text
