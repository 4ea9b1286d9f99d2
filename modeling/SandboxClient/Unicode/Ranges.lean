/-
  SandboxClient/Unicode/Ranges.lean
  =================================
  **Sets of characters as sorted ranges.** The tables of character properties
  are texts in the manner of the character database: ranges of hexadecimal
  numbers in ascending order, `first-last` or a single number, with spaces
  between. A text is decoded once into an array, in which membership is
  a binary search.
-/

namespace SandboxClient.Unicode

/-! ### Reading tables

Tables are texts, so they are read before they are searched. -/

/-- The value of a hexadecimal digit; other characters count as zero. -/
def hexDigitValue (c : Char) : Nat :=
  let n := c.toNat
  if 0x30 ≤ n && n ≤ 0x39 then n - 0x30
  else if 0x41 ≤ n && n ≤ 0x46 then n - 0x41 + 10
  else if 0x61 ≤ n && n ≤ 0x66 then n - 0x61 + 10
  else 0

/-- The number that hexadecimal digits write. -/
def hexNumber (s : List Char) : Nat := s.foldl (fun n c => n * 16 + hexDigitValue c) 0

/-- The pieces of a text between spaces and line ends. -/
def fields (s : String) : List (List Char) :=
  (s.toList.splitOnP (fun c => c == ' ' || c == '\n')).filter (fun f => !f.isEmpty)

/-- A range as it stands in a table. -/
def rangeOfField (f : List Char) : Nat × Nat :=
  match f.splitOnP (· == '-') with
  | [a, b] => (hexNumber a, hexNumber b)
  | _ => (hexNumber f, hexNumber f)

/-! ### Sets

Membership is a search by halves. -/

/-- A set of characters: disjoint ranges in ascending order, ends included. -/
structure Ranges where
  ranges : Array (Nat × Nat)
  deriving Repr

def Ranges.ofTable (s : String) : Ranges := ⟨((fields s).map rangeOfField).toArray⟩

/-- Whether a number lies in one of the ranges from position `lo` up to `hi`, which are in
ascending order. -/
def searchRanges (a : Array (Nat × Nat)) (n lo hi : Nat) : Bool :=
  if _h : lo < hi then
    let mid := (lo + hi) / 2
    match a[mid]? with
    | none => false
    | some (first, last) =>
      if n < first then searchRanges a n lo mid
      else if last < n then searchRanges a n (mid + 1) hi
      else true
  else false
termination_by hi - lo

def Ranges.contains (r : Ranges) (c : Char) : Bool :=
  searchRanges r.ranges c.toNat 0 r.ranges.size

/-! ### Properties with values

The same search, with a value for each range. -/

/-- A range of numbers with the value that belongs to it. -/
structure Entry (α : Type) where
  first : Nat
  last : Nat
  value : α
  deriving Repr

/-- The entry for a number among those from position `lo` up to `hi`, which are in ascending
order. -/
def searchEntries {α : Type} (a : Array (Entry α)) (n lo hi : Nat) : Option (Entry α) :=
  if _h : lo < hi then
    let mid := (lo + hi) / 2
    match a[mid]? with
    | none => none
    | some e =>
      if n < e.first then searchEntries a n lo mid
      else if e.last < n then searchEntries a n (mid + 1) hi
      else some e
  else none
termination_by hi - lo

/-- A property that has a value for some characters: disjoint ranges in ascending order. -/
structure Property (α : Type) where
  entries : Array (Entry α)
  deriving Repr

def Property.entry? {α : Type} (p : Property α) (c : Char) : Option (Entry α) :=
  searchEntries p.entries c.toNat 0 p.entries.size

def Property.find? {α : Type} (p : Property α) (c : Char) : Option α :=
  (p.entry? c).map Entry.value

/-- The two sides of a field with a colon. -/
def sidesOfField (f : List Char) : List Char × List Char :=
  match f.splitOnP (· == ':') with
  | [a, b] => (a, b)
  | _ => (f, [])

/-- The characters that hexadecimal numbers between commas stand for. -/
def charsOfField (f : List Char) : List Char :=
  (f.splitOnP (· == ',')).map (fun n => Char.ofNat (hexNumber n))

/-- The property that a table lists, its values read by `value`. -/
def Property.ofTable {α : Type} (value : List Char → α) (s : String) : Property α :=
  ⟨((fields s).map (fun f =>
    let (range, v) := sidesOfField f
    let (first, last) := rangeOfField range
    (⟨first, last, value v⟩ : Entry α))).toArray⟩

end SandboxClient.Unicode
