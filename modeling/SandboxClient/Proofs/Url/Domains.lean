/-
  SandboxClient/Proofs/Url/Domains.lean
  =====================================
  **What ends no host.** A domain name has no blanks and no controls: each of
  them may not occur, or stands for itself or for a space, and what composing
  and reading make of a name with one still has it. A host in brackets ends in a
  bracket. So the last character of a host that is read is neither
  (`isLoose_getLast_of_readHost`), and no blanks or controls can be cut off it.
-/
import SandboxClient.Proofs.Text.Octets
import SandboxClient.Proofs.Unicode.Composed
import SandboxClient.Proofs.Unicode.Tables
import SandboxClient.Proofs.Url.Percent
import SandboxClient.Url.Reader

namespace SandboxClient.Url

/-- Blanks and the controls of ASCII. -/
def isLoose (c : Char) : Bool := Text.isBlank c || decide (c.toNat ≤ 0x20)

namespace Domain

open Unicode

/-! ### What the tables say of them

The tables are evaluated at the few numbers that matter. -/

/-- The blanks that stand for a space. -/
def spaceNumbers : List Nat :=
  [0xA0, 0x2000, 0x2001, 0x2002, 0x2003, 0x2004, 0x2005, 0x2006, 0x2007, 0x2008, 0x2009, 0x200A,
    0x202F, 0x205F, 0x3000]

/-- The blanks that may not occur. -/
def refusedNumbers : List Nat := [0x85, 0x1680, 0x2028, 0x2029]

theorem isLoose_iff {c : Char} :
    isLoose c = true ↔ c.toNat ≤ 0x20 ∨ c.toNat ∈ refusedNumbers ∨ c.toNat ∈ spaceNumbers := by
  simp only [isLoose, Text.isBlank, refusedNumbers, spaceNumbers, Bool.or_eq_true,
    Bool.and_eq_true, decide_eq_true_eq, beq_iff_eq, List.mem_cons, List.not_mem_nil, or_false]
  omega

/-- Whether entries map each of the blanks that stand for a space to it alone, and have nothing for
the controls and for the blanks that may not occur. -/
def mapsLoose (es : Array (Entry Target)) : Bool :=
  (List.range 0x21 ++ refusedNumbers).all (fun n => (searchEntries es n 0 es.size).isNone) &&
    spaceNumbers.all (fun n => (searchEntries es n 0 es.size).any
      (fun e => decide (e.first = e.last ∧ e.value.chars = [' '])))

/-- What the three tables have for blanks and controls. -/
structure TreatLoose (mapping : Property Target) (disallowed ignored : Ranges) : Prop where
  maps : mapsLoose mapping.entries = true
  refuses : ∀ c : Char, c.toNat ∈ refusedNumbers → disallowed.contains c = true
  keeps : ignored.Avoids (0, 0x20)

set_option maxRecDepth 100000 in
theorem tables_treatLoose : TreatLoose mapping disallowed ignored where
  maps := by
    have htable : ∃ s, domainMappingTable = String.ofList s ∧
        mapsLoose ((fieldsOf s).map mappingEntry).toArray = true := ⟨_, by rfl, by decide +kernel⟩
    obtain ⟨s, htable, hs⟩ := htable
    rw [mapping, htable, fields_ofList]
    exact hs
  refuses _ hc := Ranges.contains_ofTable ⟨_, by rfl, by decide +kernel⟩ hc
  keeps := Ranges.avoids_ofTable ⟨_, by rfl, by decide +kernel⟩ _ (List.mem_singleton_self _)

section Searched

variable {c : Char}

theorem entry?_eq_none (hc : c.toNat ≤ 0x20 ∨ c.toNat ∈ refusedNumbers) :
    mapping.entry? c = none := by
  have hmaps := tables_treatLoose.maps
  rw [mapsLoose, Bool.and_eq_true] at hmaps
  have hmem : c.toNat ∈ List.range 0x21 ++ refusedNumbers := by
    rw [List.mem_append, List.mem_range]
    exact hc.imp_left Nat.lt_succ_of_le
  exact Option.isNone_iff_eq_none.mp (List.all_eq_true.mp hmaps.1 _ hmem)

theorem exists_entry_of_space (hc : c.toNat ∈ spaceNumbers) :
    ∃ e, mapping.entry? c = some e ∧ e.first = e.last ∧ e.value.chars = [' '] := by
  have hmaps := tables_treatLoose.maps
  rw [mapsLoose, Bool.and_eq_true] at hmaps
  obtain ⟨e, hentry, hspace⟩ := (Option.any_eq_true ..).mp (List.all_eq_true.mp hmaps.2 _ hc)
  exact ⟨e, hentry, of_decide_eq_true hspace⟩

end Searched

/-! ### What they stand for -/

/-- What a blank or control stands for has a control or space, unless it may not occur at all. -/
theorem exists_low_of_mapChar {c : Char} {m : List Char} (hc : isLoose c = true)
    (h : mapChar c = some m) : ∃ d ∈ m, d.toNat ≤ 0x20 := by
  rw [mapChar] at h
  rcases isLoose_iff.mp hc with hlow | hrefused | hspace
  · rw [entry?_eq_none (Or.inl hlow),
      tables_treatLoose.keeps.contains (Nat.zero_le _) hlow] at h
    have hplain : plainly (disallowed.contains c) false c = some m := h
    cases hdisallowed : disallowed.contains c with
    | true => simp [hdisallowed, plainly] at hplain
    | false =>
      rw [hdisallowed] at hplain
      cases hplain
      exact ⟨c, List.mem_singleton_self c, hlow⟩
  · rw [entry?_eq_none (Or.inr hrefused), tables_treatLoose.refuses c hrefused] at h
    cases h
  · obtain ⟨e, hentry, hsingle, hchars⟩ := exists_entry_of_space hspace
    rw [hentry] at h
    simp only [byEntry, hsingle, beq_self_eq_true, if_true, hchars] at h
    cases h
    exact ⟨' ', List.mem_singleton_self _, by decide⟩

/-! ### Names with one of them

A blank in a name becomes a space when the name is mapped, or stops it; a space is forbidden. -/

theorem mem_of_mapM {α β : Type} {f : α → Option β} {l : List α} {r : List β}
    (h : l.mapM f = some r) {a : α} (ha : a ∈ l) : ∃ b ∈ r, f a = some b := by
  induction l generalizing r with
  | nil => cases ha
  | cons x l ih =>
    rw [List.mapM_cons] at h
    obtain ⟨y, hy, h⟩ := Option.bind_eq_some_iff.mp h
    obtain ⟨ys, hys, h⟩ := Option.bind_eq_some_iff.mp h
    cases h
    rcases List.mem_cons.mp ha with rfl | ha
    · exact ⟨y, List.mem_cons_self, hy⟩
    · obtain ⟨b, hb, hfa⟩ := ih hys ha
      exact ⟨b, List.mem_cons_of_mem _ hb, hfa⟩

theorem labels_eq_none {s : List Char} {c : Char} (hc : c ∈ s) (hloose : isLoose c = true) :
    labels s = none := by
  refine Option.bind_eq_none_iff.mpr ?_
  intro mapped hmapped
  obtain ⟨m, hm, hchar⟩ := mem_of_mapM hmapped hc
  obtain ⟨d, hd, hlow⟩ := exists_low_of_mapChar hloose hchar
  have hmem : d ∈ composed mapped.flatten := mem_composed hlow (List.mem_flatten.mpr ⟨m, hm, hd⟩)
  have hforbidden : (composed mapped.flatten).any (fun c => isAscii c && isForbidden c) = true := by
    refine List.any_eq_true.mpr ⟨d, hmem, ?_⟩
    simp [isAscii, isForbidden, hlow]
    omega
  simp only [hforbidden, if_true]

theorem ascii_eq_none {s : List Char} {c : Char} (hc : c ∈ s) (hloose : isLoose c = true) :
    ascii s = none := by
  rw [ascii, labels_eq_none hc hloose]
  rfl

end Domain

/-! ### Hosts -/

theorem not_graphic_of_isLoose {c : Char} (h : isLoose c = true) :
    c.toNat ≤ 0x20 ∨ 0x80 ≤ c.toNat := by
  rw [Domain.isLoose_iff] at h
  simp only [Domain.refusedNumbers, Domain.spaceNumbers, List.mem_cons, List.not_mem_nil,
    or_false] at h
  omega

theorem hexValue?_of_isLoose {c : Char} (h : isLoose c = true) : hexValue? c = none := by
  have houtside := not_graphic_of_isLoose h
  simp only [hexValue?, Bool.and_eq_true, decide_eq_true_eq]
  rw [if_neg (by omega), if_neg (by omega), if_neg (by omega)]

/-- The last character of a host is neither blank nor a control. -/
theorem isLoose_getLast_of_readHost {s : List Char} {host : Host} (h : readHost s = .ok host)
    {c : Char} (hc : s.getLast? = some c) : isLoose c = false := by
  unfold readHost at h
  split at h
  · unfold readBracketed at h
    split at h
    · cases h
    · rename_i hbracket
      rw [hc] at hbracket
      obtain rfl : c = ']' := by simpa using hbracket
      decide
  · cases hloose : isLoose c with
    | false => rfl
    | true =>
      have hpercent : c ≠ '%' := by
        rintro rfl
        exact absurd hloose (by decide)
      obtain ⟨front, rfl⟩ := List.getLast?_eq_some_iff.mp hc
      have hnone : (Text.strictChars (unescape (front ++ [c]))).bind Domain.ascii = none := by
        rw [Option.bind_eq_none_iff]
        intro cs hcs
        rw [unescape_append_cons hpercent (hexValue?_of_isLoose hloose)] at hcs
        exact Domain.ascii_eq_none (Text.mem_of_strictChars hcs) hloose
      rw [hnone] at h
      cases h

end SandboxClient.Url
