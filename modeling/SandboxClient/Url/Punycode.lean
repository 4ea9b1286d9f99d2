/-
  SandboxClient/Url/Punycode.lean
  ===============================
  **Labels in ASCII.** A label of a domain name may have characters beyond
  ASCII. It is then written as its ASCII characters, a hyphen, and digits that
  say which characters are inserted, in ascending order, and how far apart. The
  digits have base 36, with a threshold for each place that follows the size of
  the distances.
-/

namespace SandboxClient.Url.Punycode

/-! ### Digits

Numbers are written with thirty-six digits; how many values end a number changes from place to
place. -/

def digit (d : Nat) : Char := if d < 26 then Char.ofNat (0x61 + d) else Char.ofNat (0x16 + d)

/-- The value of a digit, in small or capital letters. -/
def digitValue? (c : Char) : Option Nat :=
  let n := c.toNat
  if 0x61 ≤ n && n ≤ 0x7A then some (n - 0x61)
  else if 0x41 ≤ n && n ≤ 0x5A then some (n - 0x41)
  else if 0x30 ≤ n && n ≤ 0x39 then some (n - 0x16)
  else none

/-- The threshold of a place, from one to 26. -/
def threshold (place bias : Nat) : Nat := min 26 (max 1 (place - bias))

theorem threshold_pos (place bias : Nat) : 1 ≤ threshold place bias := by
  unfold threshold; omega

/-- Divides a distance until it is small, and counts the places. -/
def settle (delta places : Nat) : Nat :=
  if 455 < delta then settle (delta / 35) (places + 36) else places + 36 * delta / (delta + 38)
termination_by delta

/-- The bias after a distance, with the number of characters then handled. -/
def adapt (delta handled : Nat) (first : Bool) : Nat :=
  let delta := if first then delta / 700 else delta / 2
  settle (delta + delta / handled) 0

/-! ### Writing

The characters beyond ASCII are inserted in the order of their numbers, each by its distance from
the last one. -/

/-- A distance in digits from a place on. -/
def distance (bias place q : Nat) : List Char :=
  let t := threshold place bias
  if q < t then [digit q]
  else digit (t + (q - t) % (36 - t)) :: distance bias (place + 36) ((q - t) / (36 - t))
termination_by q
decreasing_by
  have pos := threshold_pos place bias
  exact Nat.lt_of_le_of_lt (Nat.div_le_self ..) (by omega)

/-- How far a label is written. -/
structure Writing where
  written : List Char
  delta : Nat
  bias : Nat
  handled : Nat
  deriving Repr

/-- Passes one character of the label while the characters `m` are inserted. -/
def pass (basic m : Nat) (w : Writing) (c : Char) : Writing :=
  if c.toNat < m then { w with delta := w.delta + 1 }
  else if c.toNat == m then
    { written := w.written ++ distance w.bias 36 w.delta
      delta := 0
      bias := adapt w.delta (w.handled + 1) (w.handled == basic)
      handled := w.handled + 1 }
  else w

/-- Inserts the characters with the given numbers, in ascending order; `n` is the least number
that may still come. -/
def insertAll (label : List Char) (basic : Nat) : List Nat → Nat → Writing → Writing
  | [], _, w => w
  | m :: ms, n, w =>
    let w := label.foldl (pass basic m) { w with delta := w.delta + (m - n) * (w.handled + 1) }
    insertAll label basic ms (m + 1) { w with delta := w.delta + 1 }

/-- The numbers of a list in ascending order, each once. -/
def ascending (ns : List Nat) : List Nat :=
  (ns.mergeSort (· ≤ ·)).foldr
    (fun n done => if done.head? == some n then done else n :: done) []

/-- A label in ASCII, without the mark in front. -/
def encode (label : List Char) : List Char :=
  let basic := label.filter (fun c => c.toNat < 0x80)
  let others := (label.filter (fun c => c.toNat ≥ 0x80)).map Char.toNat
  let w := insertAll label basic.length (ascending others) 0x80 ⟨[], 0, 72, basic.length⟩
  basic ++ (if basic.isEmpty then [] else ['-']) ++ w.written

/-! ### Reading

The same distances, read back. Numbers that grow too great are refused. -/

def limit : Nat := Nat.pow 2 32

/-- Reads one distance: its value and what follows its last digit. -/
def readDistance (bias : Nat) : Nat → Nat → Nat → List Char → Option (Nat × List Char)
  | _, _, _, [] => none
  | place, weight, value, c :: r => do
    let d ← digitValue? c
    let value := value + d * weight
    let t := threshold place bias
    if value ≥ limit then none
    else if d < t then return (value, r)
    else
      let weight := weight * (36 - t)
      if weight ≥ limit then none else readDistance bias (place + 36) weight value r

/-- A distance has at least one digit. -/
theorem readDistance_length {bias place weight value : Nat} {s r : List Char} {v : Nat}
    (h : readDistance bias place weight value s = some (v, r)) : r.length < s.length := by
  induction s generalizing place weight value with
  | nil => simp [readDistance] at h
  | cons c s ih =>
    simp only [readDistance, Option.bind_eq_bind, Option.bind_eq_some_iff] at h
    obtain ⟨d, -, h⟩ := h
    split at h
    · cases h
    · split at h
      · simp only [Option.pure_def, Option.some.injEq, Prod.mk.injEq] at h
        rw [← h.2]; simp
      · split at h
        · cases h
        · exact Nat.lt_succ_of_lt (ih h)

/-- Inserts characters as the digits say: `i` is the position reached and `n` the number of the
character reached. -/
def decodeFrom (s : List Char) (n i bias : Nat) (label : List Char) : Option (List Char) :=
  if s.isEmpty then some label
  else
    match _h : readDistance bias 36 1 0 s with
    | none => none
    | some (delta, r) =>
      let handled := label.length + 1
      let number := n + (i + delta) / handled
      let position := (i + delta) % handled
      if number.isValidChar then
        decodeFrom r number (position + 1) (adapt delta handled (i == 0))
          (label.insertIdx position (Char.ofNat number))
      else none
termination_by s.length
decreasing_by exact readDistance_length _h

/-- The ASCII characters of a label and the digits after the last hyphen; a hyphen in front of
all is a digit, though not one with a value. -/
def splitDigits (s : List Char) : List Char × List Char :=
  let digits := (s.reverse.takeWhile (· != '-')).reverse
  let basic := s.take (s.length - digits.length - 1)
  if basic.isEmpty then ([], s) else (basic, digits)

/-- The label that is written in ASCII without the mark in front. -/
def decode (s : List Char) : Option (List Char) :=
  let (basic, digits) := splitDigits s
  decodeFrom digits 0x80 0 72 basic

end SandboxClient.Url.Punycode
