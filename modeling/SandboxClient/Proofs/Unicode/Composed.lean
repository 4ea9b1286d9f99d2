/-
  SandboxClient/Proofs/Unicode/Composed.lean
  ==========================================
  **Composing keeps controls and spaces.** No character decomposes into one of
  them or is composed of one, so each that stands in a text stands in the
  composed form too (`mem_composed`).
-/
import SandboxClient.Proofs.Unicode.Tables
import SandboxClient.Unicode.Composed

namespace SandboxClient.Unicode

namespace Rules

/-! ### Rules that leave low characters alone -/

/-- The rules say nothing of controls and spaces: they are not parts of others and have none. -/
structure LeaveLow (t : Rules) : Prop where
  parts? : ∀ c : Char, c.toNat ≤ 0x20 → t.parts? c = none
  pair? : ∀ c : Char, c.toNat ≤ 0x20 → t.pair? c = none
  whole? : ∀ a b c : Char, t.whole? a b = some c → 0x20 < a.toNat ∧ 0x20 < b.toNat

theorem mem_putMark {t : Rules} {c d : Char} {s : List Char} :
    d ∈ t.putMark c s ↔ d = c ∨ d ∈ s := by
  induction s with
  | nil => simp [putMark]
  | cons e s ih =>
    rw [putMark]
    split
    · simp only [List.mem_cons, ih]
      exact or_left_comm
    · simp

namespace LeaveLow

variable {t : Rules} (ht : t.LeaveLow) {c : Char} (hc : c.toNat ≤ 0x20) {s : List Char}

include ht hc

theorem decomposeChar_eq (n : Nat) : t.decomposeChar n c = [c] := by
  cases n with
  | zero => rfl
  | succ n =>
    have hsyllable : syllableParts? c = none := by
      unfold syllableParts?
      rw [if_neg]
      simp only [Bool.and_eq_true, decide_eq_true_eq]
      omega
    rw [decomposeChar, hsyllable, ht.parts? c hc, ht.pair? c hc]

theorem mem_decomposed (h : c ∈ s) : c ∈ t.decomposed s := by
  have hfold : ∀ l done : List Char, c ∈ done ∨ c ∈ l →
      c ∈ l.foldl (fun done c => t.putMark c done) done := by
    intro l
    induction l with
    | nil => simp
    | cons d l ih =>
      intro done hmem
      apply ih
      rw [mem_putMark]
      rcases hmem with hdone | hl
      · exact Or.inl (Or.inr hdone)
      · exact (List.mem_cons.mp hl).imp_left Or.inl
  rw [decomposed, List.mem_reverse]
  refine hfold _ _ (Or.inr (List.mem_flatMap.mpr ⟨c, h, ?_⟩))
  rw [ht.decomposeChar_eq hc]
  exact List.mem_singleton_self c

theorem mem_composeAfter {starter : Char} {marks : List Char}
    (h : c = starter ∨ c ∈ marks ∨ c ∈ s) : c ∈ t.composeAfter starter marks s := by
  fun_induction composeAfter t starter marks s with
  | case1 starter marks => simpa using h
  | case2 starter marks d s free whole hwhole ih =>
    have hhigh : 0x20 < starter.toNat ∧ 0x20 < d.toNat := by
      split at hwhole
      · exact ht.whole? _ _ _ hwhole
      · cases hwhole
    have hstarter : c ≠ starter := by
      rintro rfl
      omega
    have hd : c ≠ d := by
      rintro rfl
      omega
    apply ih
    right
    simpa [hstarter, hd] using h
  | case3 starter marks d s free hwhole hclass ih =>
    rcases h with rfl | hmarks | hrest
    · exact List.mem_cons_self
    · simp [hmarks]
    · have hlater := ih ((List.mem_cons.mp hrest).imp_right Or.inr)
      simp [hlater]
  | case4 starter marks d s free hwhole hclass ih =>
    apply ih
    rcases h with rfl | hmarks | hrest
    · exact Or.inl rfl
    · exact Or.inr (Or.inl (List.mem_cons_of_mem d hmarks))
    · rcases List.mem_cons.mp hrest with rfl | hs
      · exact Or.inr (Or.inl List.mem_cons_self)
      · exact Or.inr (Or.inr hs)

theorem mem_composeAll (h : c ∈ s) : c ∈ t.composeAll s := by
  induction s with
  | nil => cases h
  | cons d s ih =>
    rw [composeAll]
    split
    · exact ht.mem_composeAfter hc ((List.mem_cons.mp h).imp_right Or.inr)
    · rcases List.mem_cons.mp h with rfl | hs
      · exact List.mem_cons_self
      · exact List.mem_cons_of_mem d (ih hs)

theorem mem_composed (h : c ∈ s) : c ∈ t.composed s := by
  unfold composed
  split
  · exact h
  · exact ht.mem_composeAll hc (ht.mem_decomposed hc h)

end LeaveLow

end Rules

/-! ### The tables -/

/-- Whether an entry is about characters beyond the space, in its range and its value. -/
def beyondLow (e : Entry (List Char)) : Bool :=
  decide (0x20 < e.first) && e.value.all (fun c => decide (0x20 < c.toNat))

set_option maxRecDepth 100000 in
theorem beyondLow_tables : (∀ e ∈ composites.entries, beyondLow e = true) ∧
    ∀ e ∈ decompositions.entries, beyondLow e = true :=
  ⟨Property.all_ofTable ⟨_, by rfl, by decide +kernel⟩,
    Property.all_ofTable ⟨_, by rfl, by decide +kernel⟩⟩

theorem find?_eq_none_of_low {p : Property (List Char)} (h : ∀ e ∈ p.entries, beyondLow e = true)
    {c : Char} (hc : c.toNat ≤ 0x20) : p.find? c = none := by
  rw [Property.find?, Option.map_eq_none_iff, Option.eq_none_iff_forall_ne_some]
  intro e he
  obtain ⟨hmem, hfirst, -⟩ := searchEntries_sound he
  have hbeyond := h e hmem
  simp only [beyondLow, Bool.and_eq_true, decide_eq_true_eq] at hbeyond
  omega

theorem toNat_lt (c : Char) : c.toNat < 0x200000 := by
  have hvalid : c.toNat < 0xD800 ∨ (0xDFFF < c.toNat ∧ c.toNat < 0x110000) := c.valid
  omega

theorem high_of_compose? {a b whole : Char} (h : compose? a b = some whole) :
    0x20 < a.toNat ∧ 0x20 < b.toNat := by
  unfold compose? at h
  split at h
  · rename_i c hsyllable
    unfold syllable? at hsyllable
    dsimp only at hsyllable
    split at hsyllable
    · rename_i hleading
      simp only [Bool.and_eq_true, decide_eq_true_eq] at hleading
      omega
    · split at hsyllable
      · rename_i htrailing
        simp only [Bool.and_eq_true, decide_eq_true_eq] at htrailing
        omega
      · cases hsyllable
  · obtain ⟨e, he, -⟩ := Option.map_eq_some_iff.mp h
    obtain ⟨hmem, hfirst, hlast⟩ := searchEntries_sound he
    unfold compositions at hmem
    simp only [List.mem_toArray, List.mem_mergeSort, List.mem_filterMap,
      Array.mem_toList_iff] at hmem
    obtain ⟨d, hd, hpair⟩ := hmem
    have hbeyond := beyondLow_tables.1 d hd
    simp only [beyondLow, Bool.and_eq_true, decide_eq_true_eq] at hbeyond
    split at hpair
    · rename_i x y hvalue
      rw [hvalue] at hbeyond
      simp only [List.all_cons, List.all_nil, Bool.and_true, Bool.and_eq_true,
        decide_eq_true_eq] at hbeyond
      cases hpair
      have hx := toNat_lt x
      have hy := toNat_lt y
      have ha := toNat_lt a
      have hb := toNat_lt b
      have hpow : Nat.pow 2 21 = 2097152 := rfl
      simp only [hpow] at hfirst hlast
      omega
    · cases hpair

theorem rules_leaveLow : rules.LeaveLow where
  parts? _ hc := find?_eq_none_of_low beyondLow_tables.2 hc
  pair? _ hc := find?_eq_none_of_low beyondLow_tables.1 hc
  whole? _ _ _ h := high_of_compose? h

/-- **A control or space of a text is one of its composed form.** -/
theorem mem_composed {c : Char} (hc : c.toNat ≤ 0x20) {s : List Char} (h : c ∈ s) :
    c ∈ composed s :=
  rules_leaveLow.mem_composed hc h

end SandboxClient.Unicode
