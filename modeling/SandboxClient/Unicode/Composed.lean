/-
  SandboxClient/Unicode/Composed.lean
  ===================================
  **The composed form of a text.** Two texts that look the same may be spelled
  differently, with a letter and its marks as one character or as several, and
  with the marks in different orders. The composed form is the same for both:
  everything is decomposed, marks are put into the order of their classes, and
  what can be composed is composed again.
-/
import SandboxClient.Unicode.Composition

namespace SandboxClient.Unicode

/-! ### The tables

The tables of the character database, decoded. -/

/-- The two characters that a character is composed of. -/
def composites : Property (List Char) := Property.ofTable charsOfField compositeTable

/-- What characters decompose into that are never composed. -/
def decompositions : Property (List Char) := Property.ofTable charsOfField decompositionTable

def combiningClasses : Property Nat := Property.ofTable hexNumber combiningClassTable

/-- Pairs of characters as single numbers, in ascending order, with what they compose into. -/
def compositions : Property Char :=
  let pairs := composites.entries.toList.filterMap (fun e =>
    match e.value with
    | [a, b] => some (⟨a.toNat * Nat.pow 2 21 + b.toNat, a.toNat * Nat.pow 2 21 + b.toNat,
        Char.ofNat e.first⟩ : Entry Char)
    | _ => none)
  ⟨(pairs.mergeSort (fun x y => x.first ≤ y.first)).toArray⟩

/-- The class of a mark; zero for a character that starts anew. -/
def combiningClass (c : Char) : Nat := (combiningClasses.find? c).getD 0

/-! ### Hangul syllables

Syllables are composed by counting, and are in no table. -/

def syllableParts? (c : Char) : Option (List Char) :=
  let n := c.toNat - 0xAC00
  if 0xAC00 ≤ c.toNat && n < 11172 then
    let front := [Char.ofNat (0x1100 + n / 588), Char.ofNat (0x1161 + n % 588 / 28)]
    some (if n % 28 == 0 then front else front ++ [Char.ofNat (0x11A7 + n % 28)])
  else none

def syllable? (a b : Char) : Option Char :=
  let (l, v, s, t) := (a.toNat - 0x1100, b.toNat - 0x1161, a.toNat - 0xAC00, b.toNat - 0x11A7)
  if 0x1100 ≤ a.toNat && l < 19 && 0x1161 ≤ b.toNat && v < 21 then
    some (Char.ofNat (0xAC00 + (l * 21 + v) * 28))
  else if 0xAC00 ≤ a.toNat && s < 11172 && s % 28 == 0 && 0x11A7 < b.toNat && t < 28 then
    some (Char.ofNat (a.toNat + t))
  else none

/-- What two characters compose into. -/
def compose? (a b : Char) : Option Char :=
  match syllable? a b with
  | some c => some c
  | none =>
    let n := a.toNat * Nat.pow 2 21 + b.toNat
    (searchEntries compositions.entries n 0 compositions.entries.size).map Entry.value

/-! ### Rules

The algorithm is stated for any rules, so that what it keeps can be proved from what the rules say.
-/

/-- What decomposing and composing rest on. -/
structure Rules where
  /-- What a character decomposes into that is never composed. -/
  parts? : Char → Option (List Char)
  /-- The two characters that a character is composed of. -/
  pair? : Char → Option (List Char)
  /-- The class of a mark; zero for a character that starts anew. -/
  classOf : Char → Nat
  /-- What two characters compose into. -/
  whole? : Char → Char → Option Char

namespace Rules

/-! ### Decomposing

Parts are decomposed in turn, and marks are put in the order of their classes. -/

/-- No character has more than this many marks. -/
def mostMarks : Nat := 4

/-- The full decomposition of a character with at most so many marks. -/
def decomposeChar (t : Rules) : Nat → Char → List Char
  | 0, c => [c]
  | n + 1, c =>
    match syllableParts? c with
    | some parts => parts
    | none =>
      match t.parts? c, t.pair? c with
      | some parts, _ => parts
      | none, some [a, b] => t.decomposeChar n a ++ [b]
      | none, _ => [c]

/-- Puts a mark before those of greater class at the end of a reversed list. -/
def putMark (t : Rules) (c : Char) : List Char → List Char
  | [] => [c]
  | d :: ds =>
    if t.classOf c != 0 && t.classOf d > t.classOf c then d :: t.putMark c ds
    else c :: d :: ds

/-- The decomposed form, marks in the order of their classes. -/
def decomposed (t : Rules) (s : List Char) : List Char :=
  ((s.flatMap (t.decomposeChar mostMarks)).foldl (fun done c => t.putMark c done) []).reverse

/-! ### Composing

A mark is composed with the last starter unless a mark of its class or a greater one stands between.
-/

/-- Composes a list in decomposed form behind a character `starter` and the marks `marks` that
follow it uncomposed, in reverse. -/
def composeAfter (t : Rules) (starter : Char) (marks : List Char) : List Char → List Char
  | [] => starter :: marks.reverse
  | c :: r =>
    let free := match marks with
      | [] => true
      | m :: _ => t.classOf m < t.classOf c
    match if free then t.whole? starter c else none with
    | some whole => t.composeAfter whole marks r
    | none =>
      if t.classOf c == 0 then starter :: (marks.reverse ++ t.composeAfter c [] r)
      else t.composeAfter starter (c :: marks) r

def composeAll (t : Rules) : List Char → List Char
  | [] => []
  | c :: r => if t.classOf c == 0 then t.composeAfter c [] r else c :: t.composeAll r

def composed (t : Rules) (s : List Char) : List Char :=
  if s.all (fun c => c.toNat < 0xC0) then s else t.composeAll (t.decomposed s)

end Rules

/-- The rules that the tables give. -/
def rules : Rules := ⟨decompositions.find?, composites.find?, combiningClass, compose?⟩

/-- The composed form. -/
def composed (s : List Char) : List Char := rules.composed s

end SandboxClient.Unicode
