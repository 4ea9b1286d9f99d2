/-
  SandboxClient/Yaml/Tag.lean
  ===========================
  **Names of anchors, tags and directives.** A tag is a handle and a suffix; the
  handle is an abbreviation that a directive may define. The suffix may contain
  octets written as `%` and two hexadecimal digits.
-/
import SandboxClient.Yaml.Quoted

namespace SandboxClient.Yaml

/-! ### Anchors

The names that nodes are given and referred to by. -/

/-- What may follow the name of an anchor or reference. -/
def isAfterAnchor (c : Char) : Bool :=
  isSeparation c || c == '?' || c == ':' || c == ',' || c == ']' || c == '}' || c == '%' ||
    c == '@' || c == '\u0060'

/-- The characters in front that satisfy `p`, as text, and the rest. -/
def takeChars (p : Char → Bool) (s : Source) : List Char × Source :=
  ((s.takeWhile (fun x => p x.char)).map Cell.char, s.dropWhile (fun x => p x.char))

/-- Reads the name of an anchor or a reference from behind its indicator. -/
def scanAnchor (s : Source) : Except Fault (String × Source) :=
  let (name, rest) := takeChars isNameChar s
  if name.isEmpty || !isAfterAnchor (rest.ahead 0) then .error .token
  else .ok (String.ofList name, rest)

/-! ### Tags

Tags in the three forms that the grammar has: as they are, behind a handle, and the single mark. -/

def isTagChar (c : Char) : Bool :=
  isNameChar c || c == ';' || c == '/' || c == '?' || c == ':' || c == '@' || c == '&' ||
    c == '=' || c == '+' || c == '$' || c == '.' || c == '%' || c == '!' || c == '~' ||
    c == '*' || c == '\'' || c == '(' || c == ')'

/-- Characters that a tag may contain where no flow collection can be meant. -/
def isWideTagChar (c : Char) : Bool :=
  isTagChar c || c == ',' || c == '[' || c == ']'

/-- The octets of a tag, with its escapes resolved. -/
def tagOctets : List Char → Option (List UInt8)
  | '%' :: a :: b :: r => do
    let a ← hexValue a
    let b ← hexValue b
    return (a * 16 + b).toUInt8 :: (← tagOctets r)
  | '%' :: _ => none
  | c :: r => do return c.toNat.toUInt8 :: (← tagOctets r)
  | [] => some []

/-- The text of a tag: the octets that its characters and escapes stand for are UTF-8. -/
def tagText (s : List Char) : Except Fault String :=
  match tagOctets s with
  | none => .error .token
  | some octets =>
    match String.fromUTF8? (ByteArray.mk octets.toArray) with
    | some t => .ok t
    | none => .error .token

/-- Reads the characters of a tag behind the given beginning. -/
def scanTagText (wide : Bool) (start : List Char) (s : Source) :
    Except Fault (String × Source) := do
  let (chars, rest) := takeChars (if wide then isWideTagChar else isTagChar) s
  if start.isEmpty && chars.isEmpty then .error .token
  else .ok ((← tagText (start.drop 1 ++ chars)), rest)

/-- The characters of a handle from its exclamation mark on: a name and a second mark may
follow. -/
def scanHandle (s : Source) : List Char × Source :=
  let (name, rest) := takeChars isNameChar (s.drop 1)
  if rest.ahead 0 == '!' then ('!' :: (name ++ ['!']), rest.drop 1) else ('!' :: name, rest)

/-- Whether the characters of a handle end with a second exclamation mark. -/
def isClosedHandle (h : List Char) : Bool := h.length ≥ 2 && h.getLast? == some '!'

/-- Reads a tag from its exclamation mark on. The single mark is a tag of its own, with an empty
handle. -/
def scanTag (inFlow : Bool) (s : Source) : Except Fault (Token × Source) := do
  let (handle, suffix, rest) ←
    if s.ahead 1 == '<' then do
      let (suffix, rest) ← scanTagText true [] (s.drop 2)
      if rest.ahead 0 == '>' then
        (.ok ("", suffix, rest.drop 1) : Except Fault (String × String × Source))
      else .error .token
    else
      let (handle, rest) := scanHandle s
      if isClosedHandle handle then do
        let (suffix, rest) ← scanTagText false [] rest
        .ok (String.ofList handle, suffix, rest)
      else do
        let (suffix, rest) ← scanTagText false handle rest
        if suffix.isEmpty then .ok ("", "!", rest) else .ok ("!", suffix, rest)
  let next := Source.ahead rest 0
  if isSeparation next || (inFlow && next == ',') then .ok (.tag handle suffix, rest)
  else .error .token

/-! ### Directives

Lines in front of a document. Those that are not known are passed over. -/

def dropGaps (s : Source) : Source := s.dropWhile (fun x => isGap x.char)

/-- Drops gaps, a comment if there is one, and the end of the line; anything else on the line
is a fault. -/
def finishLine (s : Source) : Except Fault Source :=
  let s := dropGaps s
  let s : Source := if s.ahead 0 == '#' then s.dropWhile (fun x => !isLineOver x.char) else s
  if isBreak (s.ahead 0) then .ok (s.drop 1)
  else if isEnd (s.ahead 0) then .ok s
  else .error .token

/-- Reads a version number of at most nine digits. -/
def scanVersionNumber (s : Source) : Except Fault (Nat × Source) :=
  let (digits, rest) := takeChars Char.isDigit s
  if digits.isEmpty || digits.length > 9 then .error .token
  else .ok (digits.foldl (fun n c => n * 10 + (c.toNat - 0x30)) 0, rest)

/-- Reads a directive from its percent sign to the end of its line. -/
def scanDirective (s : Source) : Except Fault (Token × Source) := do
  let (name, rest) := takeChars isNameChar (s.drop 1)
  if name.isEmpty || !isSeparation (rest.ahead 0) then .error .token
  else if String.ofList name == "YAML" then
    let (major, rest) ← scanVersionNumber (dropGaps rest)
    if rest.ahead 0 != '.' then .error .token
    let (minor, rest) ← scanVersionNumber (rest.drop 1)
    return (.versionDirective major minor, ← finishLine rest)
  else if String.ofList name == "TAG" then
    let rest := dropGaps rest
    if rest.ahead 0 != '!' then .error .token
    let (handle, rest) := scanHandle rest
    if !isClosedHandle handle && handle != ['!'] then .error .token
    if !isGap (rest.ahead 0) then .error .token
    let (meaning, rest) ← scanTagText true [] (dropGaps rest)
    if !isSeparation (rest.ahead 0) then .error .token
    return (.tagDirective (String.ofList handle) meaning, ← finishLine rest)
  else .error .token

end SandboxClient.Yaml
