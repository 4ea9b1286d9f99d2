/-
  SandboxClient/Text/Charset.lean
  ===============================
  **Texts in other character sets.** An answer may name the character set of its
  text in the type of its content; without a name, or with one that is not known,
  the text is UTF-8. A byte order mark at the front counts for more than the name
  and is not part of the text. What stands for no character is replaced.

  `contentText` knows the Unicode sets and the western one. It is what a network
  reads bodies with unless it brings a reader of its own (`Remote.Network`), and
  nothing is proved about it.
-/
import SandboxClient.Text.Blank
import SandboxClient.Text.Utf8

namespace SandboxClient.Text

inductive Charset
  | utf8 | utf16Little | utf16Big | western
  deriving DecidableEq, Repr

namespace Charset

/-! ### Names

A character set has several names, and other names count as that of UTF-8. -/

def ofLabel (label : String) : Charset :=
  if ["utf-16", "utf-16le", "csunicode", "iso-10646-ucs-2", "ucs-2", "unicode",
      "unicodefeff"].contains label then .utf16Little
  else if ["utf-16be", "unicodefffe"].contains label then .utf16Big
  else if ["windows-1252", "ansi_x3.4-1968", "ascii", "cp1252", "cp819", "csisolatin1", "ibm819",
      "iso-8859-1", "iso-ir-100", "iso8859-1", "iso88591", "iso_8859-1", "iso_8859-1:1987", "l1",
      "latin1", "us-ascii", "x-cp1252"].contains label then .western
  else .utf8

/-! ### Types of contents

What the header says of a content: a type, and parameters behind it of which one may name a
character set. -/

def isTokenChar (c : Char) : Bool := c.isAlphanum || "!#$%&'*+-.^_`|~".toList.contains c

/-- Where one is in the parameters of a type. What has been read is kept backwards. -/
inductive Reading
  | name (read : List Char)
  | value (name : String) (read : List Char)
  | quoted (name : String) (read : List Char)
  /-- Behind the quote at the end of a value. -/
  | behind

/-- A parameter; its name counts in small letters. -/
def parameter (name : String) (read : List Char) : String × String :=
  (name.toLower, String.ofList read.reverse)

/-- The parameters that are left. There are no blanks around the sign between a name and its value,
and only a value between quotes may have blanks behind it. -/
def parameters? : Reading → List Char → Option (List (String × String))
  | .name read, [] => if read.isEmpty then some [] else none
  | .name read, c :: r =>
    if c == ' ' && read.isEmpty then parameters? (.name []) r
    else if isTokenChar c then parameters? (.name (c :: read)) r
    else if c == '=' && !read.isEmpty then parameters? (.value (String.ofList read.reverse) []) r
    else none
  | .value name read, [] => some [parameter name read]
  | .value name read, c :: r =>
    if c == '"' && read.isEmpty then parameters? (.quoted name []) r
    else if isTokenChar c then parameters? (.value name (c :: read)) r
    else if c == ';' && !read.isEmpty then
      (parameters? (.name []) r).map (fun ps => parameter name read :: ps)
    else none
  | .quoted _ _, [] => none
  | .quoted name read, c :: r =>
    if c == '"' && !read.isEmpty then
      (parameters? .behind r).map (fun ps => parameter name read :: ps)
    else parameters? (.quoted name (c :: read)) r
  | .behind, [] => some []
  | .behind, c :: r =>
    if c == ' ' then parameters? .behind r
    else if c == ';' then parameters? (.name []) r
    else none

def typeParameters? (s : List Char) : Option (List (String × String)) := do
  let (kind, r) ← splitFirst (· == '/') s
  let (form, ps) := (splitFirst (· == ';') r).getD (r, [])
  if kind.isEmpty || form.isEmpty || !(kind ++ form).all isTokenChar then none
  else parameters? (.name []) ps

def ofContentType (contentType : Option String) : Charset :=
  match (contentType.bind (fun t => typeParameters? t.toList)).bind (·.lookup "charset") with
  | some label => ofLabel (trimmed label).toLower
  | none => .utf8

/-- The character set that a byte order mark at the front tells, and the text behind it. -/
def ofMark (bytes : List UInt8) : Option (Charset × List UInt8) :=
  match bytes with
  | 0xEF :: 0xBB :: 0xBF :: r => some (.utf8, r)
  | 0xFF :: 0xFE :: r => some (.utf16Little, r)
  | 0xFE :: 0xFF :: r => some (.utf16Big, r)
  | _ => none

/-! ### Characters

Octets that are no character of their set stand for a replacement. -/

/-- What stands for octets that are no character. -/
def replacement : Char := '\uFFFD'

/-- The characters of units of sixteen bits. -/
def charsOfUnits : List Nat → List Char
  | [] => []
  | [n] => [if 0xD800 ≤ n && n < 0xE000 then replacement else Char.ofNat n]
  | n :: m :: r =>
    if 0xD800 ≤ n && n < 0xDC00 && 0xDC00 ≤ m && m < 0xE000 then
      Char.ofNat (0x10000 + (n - 0xD800) * 0x400 + (m - 0xDC00)) :: charsOfUnits r
    else if 0xD800 ≤ n && n < 0xE000 then replacement :: charsOfUnits (m :: r)
    else Char.ofNat n :: charsOfUnits (m :: r)

/-- The units of sixteen bits of octets, the first octet of each being the great one if `big`;
the flag tells whether an octet is left. -/
def unitsOfOctets (big : Bool) : List UInt8 → List Nat × Bool
  | [] => ([], false)
  | [_] => ([], true)
  | a :: b :: r =>
    let (units, odd) := unitsOfOctets big r
    ((if big then a.toNat * 256 + b.toNat else b.toNat * 256 + a.toNat) :: units, odd)

/-- The characters of the octets from 0x80 to 0x9F in the western set. -/
def westernTable : List Nat :=
  [0x20AC, 0x81, 0x201A, 0x192, 0x201E, 0x2026, 0x2020, 0x2021, 0x2C6, 0x2030, 0x160, 0x2039,
   0x152, 0x8D, 0x17D, 0x8F, 0x90, 0x2018, 0x2019, 0x201C, 0x201D, 0x2022, 0x2013, 0x2014, 0x2DC,
   0x2122, 0x161, 0x203A, 0x153, 0x9D, 0x17E, 0x178]

def westernChar (b : UInt8) : Char :=
  let n := b.toNat
  Char.ofNat (if 0x80 ≤ n && n < 0xA0 then westernTable.getD (n - 0x80) n else n)

def chars (c : Charset) (bytes : List UInt8) : List Char :=
  match c with
  | .utf8 => lenientChars bytes
  | .western => bytes.map westernChar
  | .utf16Little | .utf16Big =>
    let (units, odd) := unitsOfOctets (c == .utf16Big) bytes
    charsOfUnits units ++ (if odd then [replacement] else [])

end Charset

/-- The text of the octets of a content. -/
def contentText (contentType : Option String) (bytes : List UInt8) : String :=
  let (c, bytes) := (Charset.ofMark bytes).getD (Charset.ofContentType contentType, bytes)
  String.ofList (c.chars bytes)

end SandboxClient.Text
