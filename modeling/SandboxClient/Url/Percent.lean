/-
  SandboxClient/Url/Percent.lean
  ==============================
  **Percent notation.** A character that may not stand in a part of an address is
  written octet by octet, each as a percent sign and two hexadecimal digits.
  Each part has its own set of such characters; characters beyond ASCII belong
  to all of them.
-/
import SandboxClient.Text.Utf8

namespace SandboxClient.Url

/-! ### Sets

Each part of an address has a set of its own of what is escaped in it. -/

def isControl (c : Char) : Bool := c.toNat < 0x20 || c.toNat == 0x7F

def escapedInFragment (c : Char) : Bool :=
  isControl c || [' ', '"', '<', '>', '\u0060'].contains c

def escapedInPath (c : Char) : Bool :=
  escapedInFragment c || ['#', '?', '\x7b', '\x7d'].contains c

def escapedInUser (c : Char) : Bool :=
  escapedInPath c || ['/', ':', ';', '=', '@', '[', '\\', ']', '^', '|'].contains c

def escapedInSegment (special : Bool) (c : Char) : Bool :=
  escapedInPath c || c == '/' || c == '%' || (special && c == '\\')

def escapedInQuery (special : Bool) (c : Char) : Bool :=
  isControl c || [' ', '"', '#', '<', '>'].contains c || (special && c == '\'')

/-! ### Writing

Characters are escaped octet by octet. -/

def hexDigit (n : Nat) : Char := if n < 10 then Char.ofNat (0x30 + n) else Char.ofNat (0x37 + n)

def escapedOctet (b : UInt8) : List Char :=
  ['%', hexDigit (b.toNat / 16), hexDigit (b.toNat % 16)]

/-- A character of a part in which `escaped` is written in percent notation. -/
def escapeChar (escaped : Char → Bool) (c : Char) : List Char :=
  if c.toNat ≥ 0x80 || escaped c then (String.utf8EncodeChar c).flatMap escapedOctet else [c]

/-- A part in which `escaped` is written in percent notation. -/
def escape (escaped : Char → Bool) (s : List Char) : List Char := s.flatMap (escapeChar escaped)

/-! ### Reading

Reading never fails. -/

def hexValue? (c : Char) : Option Nat :=
  let n := c.toNat
  if 0x30 ≤ n && n ≤ 0x39 then some (n - 0x30)
  else if 0x41 ≤ n && n ≤ 0x46 then some (n - 0x37)
  else if 0x61 ≤ n && n ≤ 0x66 then some (n - 0x57)
  else none

/-- The octets of a text in percent notation. A percent sign without two digits is itself. -/
def unescape : List Char → List UInt8
  | [] => []
  | '%' :: a :: b :: r =>
    match hexValue? a, hexValue? b with
    | some x, some y => UInt8.ofNat (x * 16 + y) :: unescape r
    | _, _ => UInt8.ofNat '%'.toNat :: unescape (a :: b :: r)
  | c :: r => String.utf8EncodeChar c ++ unescape r

end SandboxClient.Url
