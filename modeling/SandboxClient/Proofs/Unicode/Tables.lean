/-
  SandboxClient/Proofs/Unicode/Tables.lean
  ========================================
  **What the tables of characters say.** A table whose ranges ascend is a
  function on numbers: the search finds the entry with a number if there is one
  (`Property.entry?_eq_some_iff`), and a number is in a set exactly if one of its
  ranges has it (`Ranges.contains_iff`). Whether a table ascends is evaluated on
  its characters.
-/
import SandboxClient.Unicode.Ranges

namespace SandboxClient.Unicode

/-! ### Searching

One induction for each direction: what is found is there, and what is there is found if the table
ascends. -/

section Searching

variable {α : Type} {a : Array (Entry α)} {d e : Entry α} {n lo hi i j : Nat}

/-- The numbers that an entry is about. -/
def Entry.range (e : Entry α) : Nat × Nat := (e.first, e.last)

/-- Ranges that follow each other without meeting. -/
def Ascending (rs : List (Nat × Nat)) : Prop :=
  rs.Pairwise (fun r s => r.2 < s.1) ∧ ∀ r ∈ rs, r.1 ≤ r.2

theorem searchEntries_sound (h : searchEntries a n lo hi = some e) :
    e ∈ a ∧ e.first ≤ n ∧ n ≤ e.last := by
  fun_induction searchEntries a n lo hi with
  | case1 lo hi hlt mid hnone => cases h
  | case2 lo hi hlt mid d hsome hbefore ih => exact ih h
  | case3 lo hi hlt mid d hsome hnot hafter ih => exact ih h
  | case4 lo hi hlt mid d hsome hnot hnot' =>
    cases h
    exact ⟨Array.mem_of_getElem? hsome, by omega⟩
  | case5 lo hi hno => cases h

theorem Ascending.first_le_last (h : Ascending (a.toList.map Entry.range)) (he : e ∈ a) :
    e.first ≤ e.last :=
  h.2 e.range (List.mem_map.mpr ⟨e, Array.mem_toList_iff.mpr he, rfl⟩)

theorem Ascending.last_lt_first (h : Ascending (a.toList.map Entry.range)) (hd : a[i]? = some d)
    (he : a[j]? = some e) (hij : i < j) : d.last < e.first := by
  obtain ⟨hi, rfl⟩ := Array.getElem?_eq_some_iff.mp hd
  obtain ⟨hj, rfl⟩ := Array.getElem?_eq_some_iff.mp he
  exact List.pairwise_iff_getElem.mp (List.pairwise_map.mp h.1) i j hi hj hij

/-- Of two entries one is before the other in the table as its numbers are, or they are one. -/
theorem Ascending.placed (h : Ascending (a.toList.map Entry.range)) (hd : a[i]? = some d)
    (he : a[j]? = some e) :
    i < j ∧ d.last < e.first ∨ d = e ∨ j < i ∧ e.last < d.first := by
  rcases Nat.lt_trichotomy i j with hij | rfl | hji
  · exact Or.inl ⟨hij, h.last_lt_first hd he hij⟩
  · rw [hd] at he
    exact Or.inr (Or.inl (Option.some.inj he))
  · exact Or.inr (Or.inr ⟨hji, h.last_lt_first he hd hji⟩)

/-- In a table that ascends the search finds the entry with the number in every part of the table
that has it. -/
theorem searchEntries_complete (h : Ascending (a.toList.map Entry.range)) (he : a[i]? = some e)
    (hfirst : e.first ≤ n) (hlast : n ≤ e.last) (hlo : lo ≤ i) (hhi : i < hi)
    (hsize : hi ≤ a.size) : searchEntries a n lo hi = some e := by
  fun_induction searchEntries a n lo hi with
  | case1 lo hi hlt mid hnone =>
    have hbeyond := Array.getElem?_eq_none_iff.mp hnone
    omega
  | case2 lo hi hlt mid d hsome hbefore ih =>
    have hd := h.first_le_last (Array.mem_of_getElem? hsome)
    rcases h.placed hsome he with ⟨-, hplaced⟩ | rfl | ⟨hplaced, -⟩
    · omega
    · omega
    · exact ih hlo hplaced (by omega)
  | case3 lo hi hlt mid d hsome hnot hafter ih =>
    have hd := h.first_le_last (Array.mem_of_getElem? hsome)
    rcases h.placed hsome he with ⟨hplaced, -⟩ | rfl | ⟨-, hplaced⟩
    · exact ih hplaced hhi hsize
    · omega
    · omega
  | case4 lo hi hlt mid d hsome hnot hnot' =>
    rcases h.placed hsome he with ⟨-, hplaced⟩ | rfl | ⟨-, hplaced⟩
    · omega
    · rfl
    · omega
  | case5 lo hi hno => omega

/-- **In a table that ascends the search finds the one entry with the number.** -/
theorem Property.entry?_eq_some_iff {p : Property α}
    (h : Ascending (p.entries.toList.map Entry.range)) {c : Char} :
    p.entry? c = some e ↔ e ∈ p.entries ∧ e.first ≤ c.toNat ∧ c.toNat ≤ e.last := by
  constructor
  · intro hentry
    exact searchEntries_sound hentry
  · rintro ⟨hmem, hfirst, hlast⟩
    obtain ⟨i, hi, rfl⟩ := Array.mem_iff_getElem.mp hmem
    exact searchEntries_complete h (Array.getElem?_eq_getElem hi) hfirst hlast (Nat.zero_le i) hi
      (Nat.le_refl _)

/-- A set is searched as a property without values is. -/
def Ranges.property (r : Ranges) : Property Unit := ⟨r.ranges.map (fun x => ⟨x.1, x.2, ()⟩)⟩

theorem Ranges.contains_eq (r : Ranges) (c : Char) :
    r.contains c = (r.property.entry? c).isSome := by
  have hget : ∀ i : Nat, r.property.entries[i]? =
      r.ranges[i]?.map (fun x => (⟨x.1, x.2, ()⟩ : Entry Unit)) := by
    intro i
    exact Array.getElem?_map
  have hsearch : ∀ lo hi, searchRanges r.ranges c.toNat lo hi =
      (searchEntries r.property.entries c.toNat lo hi).isSome := by
    intro lo hi
    fun_induction searchRanges r.ranges c.toNat lo hi with
    | case1 lo hi hlt mid hnone =>
      rw [searchEntries, dif_pos hlt]
      simp [hget, show r.ranges[(lo + hi) / 2]? = none from hnone]
    | case2 lo hi hlt mid first last hsome hbefore ih =>
      rw [searchEntries, dif_pos hlt]
      simp only [hget, show r.ranges[(lo + hi) / 2]? = some (first, last) from hsome,
        Option.map_some, if_pos hbefore]
      exact ih
    | case3 lo hi hlt mid first last hsome hnot hafter ih =>
      rw [searchEntries, dif_pos hlt]
      simp only [hget, show r.ranges[(lo + hi) / 2]? = some (first, last) from hsome,
        Option.map_some, if_neg hnot, if_pos hafter]
      exact ih
    | case4 lo hi hlt mid first last hsome hnot hnot' =>
      rw [searchEntries, dif_pos hlt]
      simp only [hget, show r.ranges[(lo + hi) / 2]? = some (first, last) from hsome,
        Option.map_some, if_neg hnot, if_neg hnot']
      rfl
    | case5 lo hi hno =>
      rw [searchEntries, dif_neg hno]
      rfl
  unfold Ranges.contains Property.entry?
  rw [hsearch]
  simp [Ranges.property]

theorem Ranges.exists_of_contains {r : Ranges} {c : Char} (h : r.contains c = true) :
    ∃ x ∈ r.ranges, x.1 ≤ c.toNat ∧ c.toNat ≤ x.2 := by
  rw [r.contains_eq] at h
  obtain ⟨e, he⟩ := Option.isSome_iff_exists.mp h
  obtain ⟨hmem, hfirst, hlast⟩ := searchEntries_sound he
  obtain ⟨x, hx, rfl⟩ := Array.mem_map.mp hmem
  exact ⟨x, hx, hfirst, hlast⟩

theorem Ranges.contains_iff {r : Ranges} (h : Ascending r.ranges.toList) {c : Char} :
    r.contains c = true ↔ ∃ x ∈ r.ranges, x.1 ≤ c.toNat ∧ c.toNat ≤ x.2 := by
  refine ⟨Ranges.exists_of_contains, ?_⟩
  rintro ⟨x, hx, hfirst, hlast⟩
  have hranges : r.property.entries.toList.map Entry.range = r.ranges.toList := by
    simp [Ranges.property, Entry.range, Function.comp_def]
  rw [r.contains_eq, Option.isSome_iff_exists]
  exact ⟨_, (Property.entry?_eq_some_iff (hranges ▸ h)).mpr
    ⟨Array.mem_map.mpr ⟨x, hx, rfl⟩, hfirst, hlast⟩⟩

/-- No range of a set reaches into a block of numbers. -/
def Ranges.Avoids (r : Ranges) (block : Nat × Nat) : Prop :=
  ∀ x ∈ r.ranges, x.2 < block.1 ∨ block.2 < x.1

theorem Ranges.Avoids.contains {r : Ranges} {first last : Nat} (h : r.Avoids (first, last))
    {c : Char} (hfirst : first ≤ c.toNat) (hlast : c.toNat ≤ last) : r.contains c = false := by
  apply Bool.eq_false_iff.mpr
  intro hc
  obtain ⟨x, hx, hbelow, habove⟩ := Ranges.exists_of_contains hc
  have hapart : x.2 < first ∨ last < x.1 := h x hx
  omega

end Searching

/-! ### Evaluating

Tables are checked in the kernel, once for each statement about them. A text is a list of characters
there, so that nothing of strings has to be evaluated. -/

/-- The pieces of a list of characters between spaces and line ends. -/
def fieldsOf (s : List Char) : List (List Char) :=
  (s.splitOnP (fun c => c == ' ' || c == '\n')).filter (fun f => !f.isEmpty)

/-- A table is evaluated as a list of characters. -/
theorem fields_ofList (s : List Char) : fields (String.ofList s) = fieldsOf s := by
  simp [fields, fieldsOf]

theorem Ranges.toList_ofTable (s : List Char) :
    (Ranges.ofTable (String.ofList s)).ranges.toList = (fieldsOf s).map rangeOfField := by
  simp [Ranges.ofTable, fields_ofList]

/-- Whether the ranges that characters list stay out of some blocks. -/
def avoidBlocks (blocks : List (Nat × Nat)) (s : List Char) : Bool :=
  ((fieldsOf s).map rangeOfField).all (fun x => blocks.all (fun b => x.2 < b.1 || b.2 < x.1))

theorem Ranges.avoids_ofTable {table : String} {blocks : List (Nat × Nat)}
    (h : ∃ s, table = String.ofList s ∧ avoidBlocks blocks s = true) :
    ∀ b ∈ blocks, (Ranges.ofTable table).Avoids b := by
  obtain ⟨s, rfl, hs⟩ := h
  intro b hb x hx
  rw [← Array.mem_toList_iff, Ranges.toList_ofTable] at hx
  have hblocks := List.all_eq_true.mp hs x hx
  simpa using List.all_eq_true.mp hblocks b hb

/-- The entry that a field of a table writes, its value read by `value`. -/
def entryOf {α : Type} (value : List Char → α) (f : List Char) : Entry α :=
  let (range, v) := sidesOfField f
  let (first, last) := rangeOfField range
  ⟨first, last, value v⟩

theorem Property.all_ofTable {α : Type} {value : List Char → α} {table : String}
    {p : Entry α → Bool}
    (h : ∃ s, table = String.ofList s ∧ ((fieldsOf s).map (entryOf value)).all p = true) :
    ∀ e ∈ (Property.ofTable value table).entries, p e = true := by
  obtain ⟨s, rfl, hs⟩ := h
  intro e he
  have hentries : (Property.ofTable value (String.ofList s)).entries.toList =
      (fieldsOf s).map (entryOf value) := by
    simp [Property.ofTable, fields_ofList, entryOf]
  rw [← Array.mem_toList_iff, hentries] at he
  exact List.all_eq_true.mp hs e he

/-- Whether ranges ascend from a number on. -/
def ascendFrom (n : Nat) : List (Nat × Nat) → Bool
  | [] => true
  | r :: rs => decide (n ≤ r.1) && decide (r.1 ≤ r.2) && ascendFrom (r.2 + 1) rs

theorem first_of_ascendFrom {n : Nat} {rs : List (Nat × Nat)} (h : ascendFrom n rs = true) :
    ∀ r ∈ rs, n ≤ r.1 ∧ r.1 ≤ r.2 := by
  induction rs generalizing n with
  | nil => simp
  | cons r rs ih =>
    simp only [ascendFrom, Bool.and_eq_true, decide_eq_true_eq] at h
    intro s hs
    rcases List.mem_cons.mp hs with rfl | hs
    · exact h.1
    · have hlater := ih h.2 s hs
      omega

theorem ascending_of_ascendFrom {n : Nat} {rs : List (Nat × Nat)} (h : ascendFrom n rs = true) :
    Ascending rs := by
  refine ⟨?_, fun r hr => (first_of_ascendFrom h r hr).2⟩
  induction rs generalizing n with
  | nil => exact List.Pairwise.nil
  | cons r rs ih =>
    simp only [ascendFrom, Bool.and_eq_true, decide_eq_true_eq] at h
    refine List.Pairwise.cons ?_ (ih h.2)
    intro s hs
    exact (first_of_ascendFrom h.2 s hs).1

/-- Whether ranges that ascend have some numbers among them. -/
def holdNumbers (ns : List Nat) (rs : List (Nat × Nat)) : Bool :=
  ascendFrom 0 rs && ns.all (fun n => rs.any (fun r => decide (r.1 ≤ n) && decide (n ≤ r.2)))

theorem Ranges.contains_ofTable {table : String} {ns : List Nat}
    (h : ∃ s, table = String.ofList s ∧ holdNumbers ns ((fieldsOf s).map rangeOfField) = true)
    {c : Char} (hc : c.toNat ∈ ns) : (Ranges.ofTable table).contains c = true := by
  obtain ⟨s, rfl, hs⟩ := h
  rw [← Ranges.toList_ofTable, holdNumbers, Bool.and_eq_true] at hs
  obtain ⟨x, hx, hbounds⟩ := List.any_eq_true.mp (List.all_eq_true.mp hs.2 _ hc)
  simp only [Bool.and_eq_true, decide_eq_true_eq] at hbounds
  rw [Ranges.contains_iff (ascending_of_ascendFrom hs.1)]
  exact ⟨x, Array.mem_toList_iff.mp hx, hbounds⟩

end SandboxClient.Unicode
