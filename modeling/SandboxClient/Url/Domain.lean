/-
  SandboxClient/Url/Domain.lean
  =============================
  **Domain names.** A domain name is a list of labels between dots. It is
  compared and sent in one form only: characters are mapped to those they stand
  for, the text is composed, and a label with characters beyond ASCII is written
  in ASCII with a mark in front. A name that no such form exists for is no
  domain name: one with characters that may not occur, with a label that starts
  with a mark, with joiners that join nothing, or with labels whose parts would
  be read in different directions.
-/
import SandboxClient.Text.Utf8
import SandboxClient.Unicode.Composed
import SandboxClient.Unicode.Direction
import SandboxClient.Unicode.DomainMapping
import SandboxClient.Url.Percent
import SandboxClient.Url.Punycode

namespace SandboxClient.Url.Domain

open SandboxClient.Unicode

/-! ### The tables

What a character of a domain name stands for, and how it is written and joins. -/

/-- What a range of characters stands for: the characters at the same distance from the first
one, of every `step`-th. -/
structure Target where
  step : Nat
  chars : List Char
  deriving Repr

/-- An entry of the mapping. -/
def mappingEntry (f : List Char) : Entry Target :=
  let (source, target) := sidesOfField f
  let (range, step) := match source.splitOnP (· == '/') with
    | [r, s] => (r, hexNumber s)
    | _ => (source, 1)
  let (first, last) := rangeOfField range
  ⟨first, last, ⟨step, charsOfField target⟩⟩

/-- Characters that stand for others. -/
def mapping : Property Target := ⟨((fields domainMappingTable).map mappingEntry).toArray⟩

def ignored : Ranges := Ranges.ofTable domainIgnoredTable

def disallowed : Ranges := Ranges.ofTable domainDisallowedTable

inductive Direction
  | left | right | arabicLetter | arabicNumber | europeanNumber | separator | commonSeparator
  | terminator | neutral | boundary | mark
  deriving DecidableEq, Repr

/-- The class with a number in the table. -/
def Direction.ofNumber : Nat → Direction
  | 1 => .right
  | 2 => .arabicLetter
  | 3 => .arabicNumber
  | 4 => .europeanNumber
  | 5 => .separator
  | 6 => .commonSeparator
  | 7 => .terminator
  | 8 => .neutral
  | 9 => .boundary
  | 10 => .mark
  | _ => .left

/-- The classes of characters that are not left-to-right. -/
def directions : Property Direction :=
  Property.ofTable (fun f => Direction.ofNumber (hexNumber f)) directionTable

/-- How characters join: by number, 1 transparent, 2 to the left, 3 to the right, 4 to both. -/
def joinings : Property Nat := Property.ofTable hexNumber joiningTable

def marks : Ranges := Ranges.ofTable markTable

/-! ### Characters

What has an entry is mapped; what is in none of the tables stands for itself. -/

/-- ASCII characters that no domain name has. -/
def isForbidden (c : Char) : Bool :=
  c.toNat ≤ 0x20 || c.toNat == 0x7F ||
    ['%', '#', '/', ':', '<', '>', '?', '@', '[', '\\', ']', '^', '|'].contains c

/-- What a character without an entry stands for: itself, or nothing at all if it is left out, and
no text if it may not occur. -/
def plainly (disallowed ignored : Bool) (c : Char) : Option (List Char) :=
  if disallowed then none else if ignored then some [] else some [c]

/-- What a character with this entry stands for, or `plain` if there is none for it. -/
def byEntry (e : Option (Entry Target)) (plain : Option (List Char)) (c : Char) :
    Option (List Char) :=
  match e with
  | none => plain
  | some e =>
    if e.first == e.last then some e.value.chars
    else
      let distance := c.toNat - e.first
      if distance % e.value.step != 0 then plain
      else some (e.value.chars.map (fun t => Char.ofNat (t.toNat + distance)))

/-- What a character stands for; nothing for one that may not occur. -/
def mapChar (c : Char) : Option (List Char) :=
  byEntry (mapping.entry? c) (plainly (disallowed.contains c) (ignored.contains c) c) c

/-- Whether a character stands for itself. -/
def isValid (c : Char) : Bool := mapChar c == some [c]

def direction (c : Char) : Direction := (directions.find? c).getD .left

/-! ### Joiners

A joiner is allowed only where it changes how the letters around it are drawn. -/

/-- The class of marks that suppress a vowel. -/
def viramaClass : Nat := 9

/-- Whether the first character that is not transparent joins in one of the given ways. -/
def joinsWith (ways : List Nat) (s : List Char) : Bool :=
  match s.dropWhile (fun c => joinings.find? c == some 1) with
  | [] => false
  | c :: _ => match joinings.find? c with
    | some j => ways.contains j
    | none => false

/-- Whether all joiners of a label join something; `before` is what stands before, in reverse. -/
def joinersFit (before : List Char) : List Char → Bool
  | [] => true
  | c :: r =>
    let afterVirama := match before with
      | b :: _ => combiningClass b == viramaClass
      | [] => false
    let fits :=
      if c == '\u200d' then afterVirama
      else if c == '\u200c' then afterVirama || (joinsWith [2, 4] before && joinsWith [3, 4] r)
      else true
    fits && joinersFit (c :: before) r

/-! ### Directions

The rule of names that are partly read from right to left, which each of their labels has to meet.
-/

/-- Whether a character makes its domain name one that is partly read from right to left. -/
def isRightward (c : Char) : Bool :=
  [.right, .arabicLetter, .arabicNumber].contains (direction c)

/-- Whether a label, in the classes of its characters, can stand in such a domain name. -/
def directionsFit (ds : List Direction) : Bool :=
  let shown := (ds.reverse.dropWhile (· == .mark)).head?
  let common : List Direction :=
    [.europeanNumber, .separator, .commonSeparator, .terminator, .neutral, .boundary, .mark]
  match ds.head? with
  | none => true
  | some .left =>
    ds.all (fun d => d == .left || common.contains d) &&
      (shown == some .left || shown == some .europeanNumber)
  | some d =>
    (d == .right || d == .arabicLetter) &&
      ds.all (fun d => [.right, .arabicLetter, .arabicNumber].contains d || common.contains d) &&
      [some .right, some .arabicLetter, some .europeanNumber, some .arabicNumber].contains shown &&
      !(ds.contains .europeanNumber && ds.contains .arabicNumber)

/-! ### Labels

Labels are mapped and composed before they are looked at, and written in ASCII. -/

/-- The mark in front of labels that are written in ASCII. -/
def asciiMark : List Char := ['x', 'n', '-', '-']

def isAscii (c : Char) : Bool := c.toNat < 0x80

/-- Labels that take longer to write in ASCII are refused. -/
def longestLabel : Nat := 1000

/-- Labels in ASCII that take longer to read are refused. -/
def longestAsciiLabel : Nat := 2000

/-- Whether a label with characters beyond ASCII may stand in a domain name. -/
def isValidLabel (l : List Char) : Bool :=
  l.all (fun c => isValid c && c != '.' && !isForbidden c) && composed l == l &&
    !(l.head?.any marks.contains) && joinersFit [] l

/-- A label with the characters that it stands for. -/
def readLabel (l : List Char) : Option (List Char) :=
  if asciiMark.isPrefixOf l then do
    let written := l.drop asciiMark.length
    if written.length > longestAsciiLabel || !written.all isAscii then none
    else
      let read ← Punycode.decode written
      if read.all isAscii || !isValidLabel read then none else return read
  else if l.all isAscii || isValidLabel l then some l
  else none

/-- A label in ASCII. -/
def writeLabel (l : List Char) : Option (List Char) :=
  if l.all isAscii then some l
  else if l.length > longestLabel then none
  else some (asciiMark ++ Punycode.encode l)

/-- The labels of a domain name, with the characters that they stand for. -/
def labels (s : List Char) : Option (List (List Char)) := do
  let mapped ← s.mapM mapChar
  let text := composed mapped.flatten
  if text.any (fun c => isAscii c && isForbidden c) then none
  else
    let ls ← (text.splitOnP (· == '.')).mapM readLabel
    if ls.any (fun l => l.any isRightward) && !ls.all (fun l => directionsFit (l.map direction))
    then none else return ls

/-- The form of a domain name that is sent. -/
def ascii (s : List Char) : Option (List Char) := do
  let written ← (← labels s).mapM writeLabel
  return List.intercalate ['.'] written

end SandboxClient.Url.Domain
