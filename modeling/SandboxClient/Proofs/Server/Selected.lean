/-
  SandboxClient/Proofs/Server/Selected.lean
  =========================================
  **Selecting and removing servers.** In a store without doubles a key names the
  same entry for every operation: the one that `find?` gives. Selecting it makes
  it the current one, also if it was named by its address and another entry has
  that text as alias; removing it takes away this entry alone, and whatever else
  is current stays so: `selects_and_removes`.
-/
import SandboxClient.Proofs.Server.Runs

namespace SandboxClient.Server

namespace Config

variable {c c' : Config} {key : String} {e cur : Entry} {before after : List Entry}

/-! ### Which entry is meant

Aliases and addresses share one space of keys, so one key may fit two entries. -/

theorem use_iff : c.use key = .ok (c', e) ↔ c.find? key = some e ∧ c' = ⟨e.key, c.servers⟩ := by
  refine ⟨use_eq_ok, ?_⟩
  rintro ⟨hfind, rfl⟩
  simp [use, hfind]

theorem find?_eq_some_iff_position :
    c.find? key = some e ↔ ∃ i, c.position? key = some i ∧ c.servers[i]? = some e := by
  simp only [find?, Option.bind_eq_bind, Option.bind_eq_some_iff]

theorem find?_of_remove (h : c.remove key = .ok (c', e)) : c.find? key = some e := by
  rw [find?_eq_some_iff_position]
  unfold remove at h
  split at h
  · cases h
  · rename_i i hposition
    split at h
    · cases h
    · rename_i s hget
      cases h
      exact ⟨i, hposition, hget⟩

theorem remove_of_find? (h : c.find? key = some e) : ∃ c', c.remove key = .ok (c', e) := by
  obtain ⟨i, hposition, hget⟩ := find?_eq_some_iff_position.mp h
  exact ⟨⟨if c.isCurrent e then "" else c.currentKey, c.servers.eraseIdx i⟩,
    by simp only [remove, hposition, hget]⟩

/-! ### What is current after a selection -/

theorem key_ne_empty (hkey : key ≠ "") (h : e.isNamed key = true ∨ e.server = key) :
    e.key ≠ "" := by
  rcases e.key_cases with ⟨hne, heq⟩ | ⟨hempty, heq⟩
  · rw [heq]
    exact hne
  · rcases h with hnamed | hserver
    · obtain ⟨hname, -⟩ := Entry.isNamed_iff.mp hnamed
      exact absurd (hname.symm.trans hempty) hkey
    · rw [heq, hserver]
      exact hkey

/-- What a key finds is found by its own key too. -/
theorem find?_key (hc : c.Unambiguous) (h : c.find? key = some e) : c.find? e.key = some e := by
  obtain ⟨hmem, hnames⟩ := mem_of_find? h
  rcases e.key_cases with ⟨hne, heq⟩ | ⟨hempty, heq⟩
  · exact find?_eq_of_named hc hmem (Entry.isNamed_iff.mpr ⟨heq.symm, heq ▸ hne⟩)
  · -- an entry without alias has been found by its address, which is its key
    rcases hnames with hnamed | hserver
    · obtain ⟨hname, hkey⟩ := Entry.isNamed_iff.mp hnamed
      exact absurd (hname.symm.trans hempty) hkey
    · rw [heq, hserver]
      exact h

theorem current?_of_use (hc : c.Unambiguous) (hkey : key ≠ "") (h : c.use key = .ok (c', e)) :
    c'.current? = some e := by
  obtain ⟨hfind, rfl⟩ := use_iff.mp h
  rw [current?_eq_find? (key_ne_empty hkey (mem_of_find? hfind).2)]
  exact find?_key hc hfind

/-! ### What is current after a removal -/

/-- A key that names another entry, or none, goes on naming it when an entry is taken away. -/
theorem find?_without (hc : c.Unambiguous) (hservers : c.servers = before ++ e :: after)
    (hafter : c'.servers = before ++ after) (hne : c.find? key ≠ some e) :
    c'.find? key = c.find? key := by
  have hless : ∀ s, s ∈ c'.servers → s ∈ c.servers := by
    intro s hs
    rw [hservers]
    rw [hafter] at hs
    simp only [List.mem_append, List.mem_cons] at hs ⊢
    exact hs.imp_right Or.inr
  cases hfind : c.find? key with
  | none =>
    rw [← Option.not_isSome_iff_eq_none, find?_isSome_iff] at hfind ⊢
    rintro ⟨s, hs, hnames⟩
    exact hfind ⟨s, hless s hs, hnames⟩
  | some cur =>
    obtain ⟨hmem, hnames⟩ := mem_of_find? hfind
    have hcur : cur ≠ e := by
      rintro rfl
      exact hne hfind
    have hstays : cur ∈ c'.servers := by
      rw [hafter]
      rw [hservers] at hmem
      simpa [hcur] using hmem
    have hc' : c'.Unambiguous := by
      refine List.Pairwise.sublist ?_ hc
      rw [hservers, hafter]
      exact (List.Sublist.refl before).append (List.sublist_cons_self e after)
    by_cases hnamed : ∃ s ∈ c.servers, s.isNamed key = true
    · -- aliases come first, so the entry that is found is the one with the alias
      obtain ⟨s, hs, hsnamed⟩ := hnamed
      obtain rfl : s = cur := Option.some.inj ((find?_eq_of_named hc hs hsnamed).symm.trans hfind)
      exact find?_eq_of_named hc' hstays hsnamed
    · rcases hnames with hcurnamed | hserver
      · exact absurd ⟨cur, hmem, hcurnamed⟩ hnamed
      · refine find?_eq_of_server hc' hstays hserver ?_
        intro s hs hsnamed
        exact hnamed ⟨s, hless s hs, hsnamed⟩

/-- The entry with the address of the current one is the current one. -/
theorem isCurrent_iff_current? (hc : c.Unambiguous) (he : e ∈ c.servers) :
    c.isCurrent e = true ↔ c.current? = some e := by
  rw [isCurrent_iff]
  constructor
  · rintro ⟨cur, hcur, hserver⟩
    rw [hcur, hc.eq_of_server (mem_of_current? hcur).2.1 he hserver]
  · intro hcur
    exact ⟨e, hcur, rfl⟩

theorem current?_of_remove (hc : c.Unambiguous) (h : c.remove key = .ok (c', e)) :
    (c.current? = some e → c'.currentKey = "" ∧ c'.current? = none) ∧
      (c.current? ≠ some e → c'.currentKey = c.currentKey ∧ c'.current? = c.current?) := by
  obtain ⟨before, after, hservers, hc'⟩ := remove_eq_ok h
  have hcurrent := isCurrent_iff_current? hc (e := e) (by simp [hservers])
  rw [hc']
  constructor
  · intro hcur
    have hempty : (if c.isCurrent e then "" else c.currentKey) = "" := if_pos (hcurrent.mpr hcur)
    exact ⟨hempty, current?_eq_none hempty⟩
  · intro hother
    rw [if_neg (fun hcur => hother (hcurrent.mp hcur))]
    refine ⟨rfl, ?_⟩
    by_cases hk : c.currentKey = ""
    · rw [current?_eq_none hk]
      exact current?_eq_none hk
    · rw [current?_eq_find? hk] at hother ⊢
      have hfind : (⟨c.currentKey, before ++ after⟩ : Config).find? c.currentKey =
          c.find? c.currentKey := find?_without hc hservers rfl hother
      rw [← hfind]
      exact current?_eq_find? hk

/-! ### Both operations -/

/-- **Selecting and removing.** In a store without doubles, whatever its current key is, a key that
is not empty is selected exactly if it finds an entry; the entries stay as they are and that one
is current. A key is removed exactly if it finds an entry; that one alone is gone. If it was the
current one then none is, and otherwise the current key and the current entry, if there was one,
stay what they were. -/
theorem selects_and_removes {c : Config} (hc : c.Unambiguous) (key : String) :
    (key ≠ "" →
      ((∃ r, c.use key = .ok r) ↔ (c.find? key).isSome = true) ∧
      ∀ c' e, c.use key = .ok (c', e) →
        c.find? key = some e ∧ c'.servers = c.servers ∧ c'.current? = some e) ∧
    ((∃ r, c.remove key = .ok r) ↔ (c.find? key).isSome = true) ∧
    ∀ c' e, c.remove key = .ok (c', e) →
      c.find? key = some e ∧
      (∃ before after, c.servers = before ++ e :: after ∧ c'.servers = before ++ after) ∧
      (c.current? = some e → c'.currentKey = "" ∧ c'.current? = none) ∧
      (c.current? ≠ some e → c'.currentKey = c.currentKey ∧ c'.current? = c.current?) := by
  refine ⟨?_, ?_, ?_⟩
  · intro hkey
    refine ⟨?_, ?_⟩
    · rw [Option.isSome_iff_exists]
      constructor
      · rintro ⟨⟨c', e⟩, huse⟩
        exact ⟨e, (use_iff.mp huse).1⟩
      · rintro ⟨e, hfind⟩
        exact ⟨_, use_iff.mpr ⟨hfind, rfl⟩⟩
    · intro c' e huse
      obtain ⟨hfind, hservers⟩ := use_iff.mp huse
      exact ⟨hfind, by rw [hservers], current?_of_use hc hkey huse⟩
  · rw [Option.isSome_iff_exists]
    constructor
    · rintro ⟨⟨c', e⟩, hremove⟩
      exact ⟨e, find?_of_remove hremove⟩
    · rintro ⟨e, hfind⟩
      obtain ⟨c', hremove⟩ := remove_of_find? hfind
      exact ⟨_, hremove⟩
  · intro c' e hremove
    obtain ⟨before, after, hservers, hc'⟩ := remove_eq_ok hremove
    exact ⟨find?_of_remove hremove, ⟨before, after, hservers, by rw [hc']⟩,
      current?_of_remove hc hremove⟩

/-- A store whose second entry has no alias, while the first has an alias that is spelt like an
address; it points at the second one by its address. -/
def addressAsAlias : Config :=
  ⟨"https://b.example", [⟨"https://a.example", "https://c.example", "s", true⟩,
    ⟨"", "https://b.example", "t", false⟩, ⟨"a", "https://a.example", "u", false⟩]⟩

/-- The address of the third entry names the first one, which is selected; when it is removed
instead, the second one stays current. -/
theorem alias_before_address :
    addressAsAlias.Unambiguous ∧
    (∃ c', addressAsAlias.use "https://a.example" =
        .ok (c', ⟨"https://a.example", "https://c.example", "s", true⟩) ∧
      c'.current? = some ⟨"https://a.example", "https://c.example", "s", true⟩) ∧
    ∃ c', addressAsAlias.remove "https://a.example" =
        .ok (c', ⟨"https://a.example", "https://c.example", "s", true⟩) ∧
      c'.current? = some ⟨"", "https://b.example", "t", false⟩ := by
  have hc : addressAsAlias.Unambiguous := unambiguous_iff.mpr (by decide)
  have hfind : addressAsAlias.find? "https://a.example" =
      some ⟨"https://a.example", "https://c.example", "s", true⟩ := by decide
  have hcurrent : addressAsAlias.current? = some ⟨"", "https://b.example", "t", false⟩ := by decide
  obtain ⟨hselects, -, hremoves⟩ := selects_and_removes hc "https://a.example"
  refine ⟨hc, ⟨_, use_iff.mpr ⟨hfind, rfl⟩, ?_⟩, ?_⟩
  · exact ((hselects (by decide)).2 _ _ (use_iff.mpr ⟨hfind, rfl⟩)).2.2
  · obtain ⟨c', hremove⟩ := remove_of_find? hfind
    have hother : addressAsAlias.current? ≠
        some ⟨"https://a.example", "https://c.example", "s", true⟩ := by
      rw [hcurrent]
      decide
    exact ⟨c', hremove, ((hremoves c' _ hremove).2.2.2 hother).2.trans hcurrent⟩

end Config

end SandboxClient.Server
