/-
  SandboxClient/Proofs/Server/Lookup.lean
  =======================================
  **What a key finds.** In a store whose entries are apart from each other a key
  is the alias of at most one entry and the address of at most one, and looking
  it up finds the first of the two. `Config.find?_eq_of_named` and
  `Config.find?_eq_of_server` say so; they are all that later modules need to
  know about positions in the list.
-/
import SandboxClient.Server.Config
import Mathlib.Data.List.Nodup
import Mathlib.Data.List.Pairwise

namespace SandboxClient.Server

/-! ### Entries side by side -/

/-- Two entries that may stand in one store: their addresses differ, and so do their aliases
unless both have none. -/
def Entry.Apart (a b : Entry) : Prop := a.server ≠ b.server ∧ (a.name ≠ "" → a.name ≠ b.name)

theorem Entry.Apart.symm {a b : Entry} (h : a.Apart b) : b.Apart a := by
  refine ⟨h.1.symm, ?_⟩
  intro hb heq
  exact h.2 (heq ▸ hb) heq.symm

instance : Std.Symm Entry.Apart := ⟨fun _ _ => Entry.Apart.symm⟩

theorem Entry.isNamed_iff {e : Entry} {name : String} :
    e.isNamed name = true ↔ e.name = name ∧ name ≠ "" := by
  simp only [Entry.isNamed, Bool.and_eq_true, Bool.not_eq_true', beq_iff_eq,
    ← Bool.not_eq_true, String.isEmpty_iff]
  constructor
  · rintro ⟨hne, rfl⟩
    exact ⟨rfl, hne⟩
  · rintro ⟨rfl, hne⟩
    exact ⟨hne, rfl⟩

/-- The key of an entry is its alias, or its address if it has none. -/
theorem Entry.key_cases (e : Entry) :
    (e.name ≠ "" ∧ e.key = e.name) ∨ (e.name = "" ∧ e.key = e.server) := by
  by_cases h : e.name = ""
  · exact Or.inr ⟨h, by simp [Entry.key, h]⟩
  · exact Or.inl ⟨h, by simp [Entry.key, String.isEmpty_iff, h]⟩

theorem Config.staysBeside_iff {kept e : Entry} :
    Config.staysBeside kept e = true ↔ kept.Apart e := by
  simp only [Config.staysBeside, Bool.and_eq_true, Bool.or_eq_true, bne_iff_ne,
    String.isEmpty_iff, Entry.Apart]
  constructor
  · rintro ⟨hs, hn⟩
    exact ⟨hs.symm, fun hk heq => hn.elim hk (fun hne => hne heq.symm)⟩
  · rintro ⟨hs, hn⟩
    refine ⟨hs.symm, ?_⟩
    by_cases hk : kept.name = ""
    · exact Or.inl hk
    · exact Or.inr (hn hk).symm

namespace Config

/-! ### Stores without doubles

In such a store a key finds at most one entry by alias and one by address. -/

/-- All entries are apart from each other. -/
def Unambiguous (c : Config) : Prop := c.servers.Pairwise Entry.Apart

/-- A store is unambiguous when its aliases, as far as there are any, and its addresses are
distinct. -/
theorem unambiguous_iff {c : Config} :
    c.Unambiguous ↔ ((c.servers.map Entry.name).filter (· ≠ "")).Nodup ∧
      (c.servers.map Entry.server).Nodup := by
  simp only [Unambiguous, List.Nodup, List.pairwise_filter, List.pairwise_map, decide_eq_true_eq]
  constructor
  · intro h
    refine ⟨h.imp ?_, h.imp And.left⟩
    intro a b hab ha _
    exact hab.2 ha
  · rintro ⟨hn, hs⟩
    refine (hn.and hs).imp ?_
    rintro a b ⟨hab, hne⟩
    refine ⟨hne, ?_⟩
    intro ha heq
    exact hab ha (heq ▸ ha) heq

/-- Entries of an unambiguous store that are not apart are the same entry. -/
theorem Unambiguous.eq_of_not_apart {c : Config} {a b : Entry} (h : c.Unambiguous)
    (ha : a ∈ c.servers) (hb : b ∈ c.servers) (hab : ¬ a.Apart b) : a = b := by
  by_contra hne
  exact hab (List.Pairwise.forall h ha hb hne)

theorem Unambiguous.eq_of_server {c : Config} {a b : Entry} (h : c.Unambiguous)
    (ha : a ∈ c.servers) (hb : b ∈ c.servers) (hab : a.server = b.server) : a = b :=
  h.eq_of_not_apart ha hb (fun hap => hap.1 hab)

theorem Unambiguous.eq_of_named {c : Config} {a b : Entry} {name : String} (h : c.Unambiguous)
    (ha : a ∈ c.servers) (hb : b ∈ c.servers) (hna : a.isNamed name = true)
    (hnb : b.isNamed name = true) : a = b := by
  rw [Entry.isNamed_iff] at hna hnb
  refine h.eq_of_not_apart ha hb ?_
  intro hap
  exact hap.2 (hna.1 ▸ hna.2) (hna.1.trans hnb.1.symm)

/-! ### Looking up -/

/-- Aliases are looked up before addresses. -/
theorem find?_eq (c : Config) (key : String) :
    c.find? key = (c.servers.find? (fun e => e.isNamed key)).or
      (c.servers.find? (fun e => e.server == key)) := by
  simp only [find?, position?, List.find?_eq_bind_findIdx?_getElem?]
  cases hn : c.servers.findIdx? (fun e => e.isNamed key) with
  | none => simp [Option.bind_eq_bind]
  | some i =>
    obtain ⟨hi, -, -⟩ := List.findIdx?_eq_some_iff_getElem.mp hn
    simp [List.getElem?_eq_getElem hi]

theorem mem_of_find? {c : Config} {key : String} {e : Entry} (h : c.find? key = some e) :
    e ∈ c.servers ∧ (e.isNamed key = true ∨ e.server = key) := by
  rw [find?_eq, Option.or_eq_some_iff] at h
  rcases h with h | ⟨-, h⟩
  · exact ⟨List.mem_of_find?_eq_some h, Or.inl (by simpa using List.find?_some h)⟩
  · exact ⟨List.mem_of_find?_eq_some h, Or.inr (by simpa using List.find?_some h)⟩

theorem find?_isSome_iff {c : Config} {key : String} :
    (c.find? key).isSome = true ↔ ∃ e ∈ c.servers, e.isNamed key = true ∨ e.server = key := by
  constructor
  · intro h
    obtain ⟨e, he⟩ := Option.isSome_iff_exists.mp h
    exact ⟨e, mem_of_find? he⟩
  · rintro ⟨e, he, hk⟩
    rw [find?_eq, Option.isSome_or, Bool.or_eq_true, List.find?_isSome, List.find?_isSome]
    rcases hk with hk | hk
    · exact Or.inl ⟨e, he, hk⟩
    · exact Or.inr ⟨e, he, by simpa using hk⟩

theorem find?_eq_of_named {c : Config} {key : String} {e : Entry} (h : c.Unambiguous)
    (he : e ∈ c.servers) (hk : e.isNamed key = true) : c.find? key = some e := by
  have hsome : (c.servers.find? (fun s => s.isNamed key)).isSome := by
    rw [List.find?_isSome]
    exact ⟨e, he, hk⟩
  obtain ⟨s, hs⟩ := Option.isSome_iff_exists.mp hsome
  have hsk : s.isNamed key = true := by simpa using List.find?_some hs
  have hse : s = e := h.eq_of_named (List.mem_of_find?_eq_some hs) he hsk hk
  rw [find?_eq, hs, hse]
  rfl

theorem find?_eq_of_server {c : Config} {key : String} {e : Entry} (h : c.Unambiguous)
    (he : e ∈ c.servers) (hk : e.server = key) (hno : ∀ s ∈ c.servers, s.isNamed key ≠ true) :
    c.find? key = some e := by
  have hnone : c.servers.find? (fun s => s.isNamed key) = none := by
    rw [List.find?_eq_none]
    exact hno
  have hsome : (c.servers.find? (fun s => s.server == key)).isSome := by
    rw [List.find?_isSome]
    exact ⟨e, he, by simpa using hk⟩
  obtain ⟨s, hs⟩ := Option.isSome_iff_exists.mp hsome
  have hsk : s.server = key := by simpa using List.find?_some hs
  have hse : s = e := h.eq_of_server (List.mem_of_find?_eq_some hs) he (hsk.trans hk.symm)
  rw [find?_eq, hnone, hs, hse]
  rfl

/-! ### The current entry -/

theorem current?_eq_find? {c : Config} (h : c.currentKey ≠ "") :
    c.current? = c.find? c.currentKey := by
  simp [current?, String.isEmpty_iff, h]

theorem current?_eq_none {c : Config} (h : c.currentKey = "") : c.current? = none := by
  simp [current?, h]

theorem mem_of_current? {c : Config} {e : Entry} (h : c.current? = some e) :
    c.currentKey ≠ "" ∧ e ∈ c.servers ∧ (e.isNamed c.currentKey = true ∨ e.server = c.currentKey) := by
  by_cases hk : c.currentKey = ""
  · rw [current?_eq_none hk] at h
    exact absurd h (by simp)
  · rw [current?_eq_find? hk] at h
    exact ⟨hk, mem_of_find? h⟩

theorem isCurrent_iff {c : Config} {e : Entry} :
    c.isCurrent e = true ↔ ∃ cur, c.current? = some cur ∧ cur.server = e.server := by
  unfold isCurrent
  cases c.current? with
  | none => simp
  | some cur => simp

end Config

end SandboxClient.Server
