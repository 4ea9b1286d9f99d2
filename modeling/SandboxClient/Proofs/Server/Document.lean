/-
  SandboxClient/Proofs/Server/Document.lean
  =========================================
  **Stores as documents.** The value that a written store stands for is a document
  of today's layout, and every field of it is read as it was. All that can keep
  the store from being read again is the check for doubles, which compares
  addresses as `normalizeUrl` gives them and not as they are stored.
-/
import SandboxClient.Server.Layout
import SandboxClient.Proofs.Server.Operations
import SandboxClient.Proofs.Yaml.Blocks
import Mathlib.Data.List.TakeWhile

namespace SandboxClient.Server

open SandboxClient.Yaml (Node Block lookupField itemNodes fieldNodes writeFields)

/-! ### Fields

What is left out when it is written has the value that a missing field has. -/

@[simp] theorem same_text (a b : String) : (Node.text a).same (.text b) = (a == b) := by
  unfold Node.same
  rfl

@[simp] theorem lookupField_nil (key : String) : lookupField key [] = none := rfl

@[simp] theorem lookupField_cons_text (key k : String) (v : Node) (entries : List (Node × Node)) :
    lookupField key ((.text k, v) :: entries) =
      if k == key then some v else lookupField key entries := by
  unfold lookupField
  rw [List.find?_cons]
  simp only [same_text]
  split <;> simp_all

/-- Every field of an entry is read as it was written. -/
theorem entryOf_block (e : Entry) : entryOf e.block.node = some e := by
  obtain ⟨name, server, token, insecure⟩ := e
  by_cases hname : name = "" <;> by_cases htoken : token = "" <;> cases insecure <;>
    simp [entryOf, Entry.block, textField, Block.node, fieldNodes, knownFields, Node.untagged,
      textOf, requiredText, textOrEmpty, flagOrFalse, hname, htoken, List.lookup_cons]

theorem mapM_entryOf_blocks (entries : List Entry) :
    (itemNodes (entries.map Entry.block)).mapM entryOf = some entries := by
  induction entries with
  | nil => rfl
  | cons e es ih => simp [itemNodes, entryOf_block, ih]

/-! ### Documents -/

/-- The value of a written store has today's layout. -/
theorem detect_block (c : Config) : Layout.detect c.block.node = some .current := by
  unfold Layout.detect
  rw [List.find?_cons_of_pos]
  by_cases hkey : c.currentKey = "" <;> by_cases hservers : c.servers = [] <;>
    simp [Layout.fits, Config.block, textField, Block.node, fieldNodes, hkey, hservers]

/-- A written store is read as it was, before it is checked. -/
theorem readCurrent_block (c : Config) : readCurrent c.block.node = some c := by
  obtain ⟨key, servers⟩ := c
  by_cases hkey : key = "" <;> by_cases hservers : servers = [] <;>
    simp [readCurrent, Config.block, textField, Block.node, fieldNodes, dropNull, knownFields,
      Node.untagged, textOrEmpty, textOf, itemsOf, mapM_entryOf_blocks, hkey, hservers,
      List.lookup_cons]

theorem ofDocument_block (c : Config) :
    ofDocument c.block.node = (checkUnique c).map (·, .current) := by
  unfold ofDocument
  rw [detect_block]
  simp only [Layout.convert, readCurrent_block]

/-- A text that begins with a visible character is not blank. -/
theorem isBlankText_of_head? {s : String} {c : Char} (h : s.toList.head? = some c)
    (hc : Text.isBlank c = false) : Text.isBlankText s = false := by
  obtain ⟨r, hr⟩ : ∃ r, s.toList = c :: r := List.head?_eq_some_iff.mp h
  have hstart : Text.trimStart (c :: r) = c :: r := by simp [Text.trimStart, hc]
  have hend : Text.trimEnd (c :: r) ≠ [] := by
    intro hnil
    have hall := List.dropWhile_eq_nil_iff.mp (List.reverse_eq_nil_iff.mp hnil) c (by simp)
    simp [hc] at hall
  unfold Text.isBlankText Text.trim
  rw [hr, hstart]
  simpa using hend

/-- A written store begins with a brace or with the name of a field. -/
theorem isBlankText_text (c : Config) : Text.isBlankText c.text = false := by
  by_cases hkey : c.currentKey = ""
  · by_cases hservers : c.servers = []
    · have hhead : c.text.toList.head? = some '\x7b' := by
        simp [Config.text, Config.block, textField, Block.write, hkey, hservers]
      exact isBlankText_of_head? hhead (by decide)
    · have hhead : c.text.toList.head? = some 's' := by
        simp [Config.text, Config.block, textField, Block.write, writeFields, hkey, hservers]
      exact isBlankText_of_head? hhead (by decide)
  · have hhead : c.text.toList.head? = some 'c' := by
      by_cases hservers : c.servers = [] <;>
        simp [Config.text, Config.block, textField, Block.write, writeFields, hkey, hservers]
    exact isBlankText_of_head? hhead (by decide)

/-- The text of a store is read as that store, as far as the check lets it pass. -/
theorem parse_text {c : Config} (h : c.block.ReadsBack) :
    parse c.text = (checkUnique c).map (·, .current) := by
  have hread : Yaml.read c.text.toList = .ok c.block.node := h
  unfold parse
  rw [isBlankText_text, if_neg Bool.false_ne_true, hread]
  exact ofDocument_block c

/-! ### The check for doubles

Stored addresses are compared as they are by the operations, and in their normal form by the check.
-/

theorem Entry.normalized_apart {a b : Entry} : a.normalized.Apart b.normalized ↔
    normalizeUrl a.server ≠ normalizeUrl b.server ∧ (a.name ≠ "" → a.name ≠ b.name) := by
  simp only [Entry.Apart, Entry.normalized_server, Entry.normalized_name]

/-- Entries whose normalised addresses differ have different addresses. -/
theorem Entry.Apart.of_normalized {a b : Entry} (h : a.normalized.Apart b.normalized) :
    a.Apart b := by
  obtain ⟨hserver, hname⟩ := Entry.normalized_apart.mp h
  refine ⟨?_, hname⟩
  intro heq
  exact hserver (congrArg normalizeUrl heq)

theorem firstDuplicate_cons (earlier es : List Entry) (e : Entry) :
    firstDuplicate earlier (e :: es) =
      if !e.name.isEmpty && earlier.any (fun s => s.name == e.name) then
        some (.duplicateAlias e.name)
      else if earlier.any (fun s => normalizeUrl s.server == normalizeUrl e.server) then
        some (.duplicateServer (normalizeUrl e.server))
      else firstDuplicate (earlier ++ [e]) es := rfl

theorem firstDuplicate_cons_eq_none {earlier es : List Entry} {e : Entry} :
    firstDuplicate earlier (e :: es) = none ↔
      (∀ s ∈ earlier, s.normalized.Apart e.normalized) ∧
        firstDuplicate (earlier ++ [e]) es = none := by
  have hname : (!e.name.isEmpty && earlier.any (fun s => s.name == e.name)) = true ↔
      e.name ≠ "" ∧ ∃ s ∈ earlier, s.name = e.name := by
    simp [List.any_eq_true]
  have hserver : earlier.any (fun s => normalizeUrl s.server == normalizeUrl e.server) = true ↔
      ∃ s ∈ earlier, normalizeUrl s.server = normalizeUrl e.server := by
    simp [List.any_eq_true]
  rw [firstDuplicate_cons]
  constructor
  · intro h
    split at h
    · cases h
    · rename_i hn
      split at h
      · cases h
      · rename_i hs
        rw [hname] at hn
        rw [hserver] at hs
        refine ⟨?_, h⟩
        intro s hmem
        refine Entry.normalized_apart.mpr ⟨fun heq => hs ⟨s, hmem, heq⟩, ?_⟩
        intro hne heq
        exact hn ⟨heq ▸ hne, s, hmem, heq⟩
  · rintro ⟨hapart, h⟩
    rw [if_neg, if_neg]
    · exact h
    · rw [hserver]
      rintro ⟨s, hmem, heq⟩
      exact (Entry.normalized_apart.mp (hapart s hmem)).1 heq
    · rw [hname]
      rintro ⟨hne, s, hmem, heq⟩
      have hs : s.name ≠ "" := by
        rw [heq]
        exact hne
      exact (Entry.normalized_apart.mp (hapart s hmem)).2 hs heq

/-- The check passes when entries are apart by their normalised addresses. -/
theorem firstDuplicate_eq_none {earlier es : List Entry} :
    firstDuplicate earlier es = none ↔
      (∀ s ∈ earlier, ∀ e ∈ es, s.normalized.Apart e.normalized) ∧
        es.Pairwise (fun a b => a.normalized.Apart b.normalized) := by
  induction es generalizing earlier with
  | nil => simp [firstDuplicate]
  | cons e es ih =>
    rw [firstDuplicate_cons_eq_none, ih, List.pairwise_cons]
    constructor
    · rintro ⟨he, hes, hpairs⟩
      refine ⟨?_, fun t ht => hes e (by simp) t ht, hpairs⟩
      intro s hs t ht
      rcases List.mem_cons.mp ht with rfl | ht
      · exact he s hs
      · exact hes s (by simp [hs]) t ht
    · rintro ⟨h, he, hpairs⟩
      refine ⟨fun s hs => h s hs e (by simp), ?_, hpairs⟩
      intro s hs t ht
      rcases List.mem_append.mp hs with hs | hs
      · exact h s hs t (List.mem_cons_of_mem e ht)
      · rw [List.mem_singleton.mp hs]
        exact he t ht

/-- Of entries that are apart as they are stored, only two addresses that differ in nothing that
`normalizeUrl` keeps are found to be double. -/
theorem firstDuplicate_eq_some {earlier es : List Entry} {fault : LayoutFault}
    (hapart : (earlier ++ es).Pairwise Entry.Apart) (h : firstDuplicate earlier es = some fault) :
    ∃ s ∈ earlier ++ es, ∃ e ∈ earlier ++ es, s.server ≠ e.server ∧
      normalizeUrl s.server = normalizeUrl e.server ∧
      fault = .duplicateServer (normalizeUrl e.server) := by
  -- on the entries that are left; the ones before them grow at their end
  induction es generalizing earlier with
  | nil => cases h
  | cons e es ih =>
    have hbefore : ∀ s ∈ earlier, s.Apart e := by
      intro s hs
      exact (List.pairwise_append.mp hapart).2.2 s hs e (by simp)
    rw [firstDuplicate_cons] at h
    split at h
    · rename_i hn
      simp only [Bool.and_eq_true, Bool.not_eq_true', List.any_eq_true, beq_iff_eq] at hn
      obtain ⟨hne, s, hs, heq⟩ := hn
      have hsn : s.name ≠ "" := by
        rw [heq]
        simpa [← Bool.not_eq_true] using hne
      exact absurd heq ((hbefore s hs).2 hsn)
    · split at h
      · rename_i hs
        obtain ⟨s, hs, heq⟩ := List.any_eq_true.mp hs
        cases h
        exact ⟨s, by simp [hs], e, by simp, (hbefore s hs).1, by simpa using heq, rfl⟩
      · rw [List.append_cons] at hapart ⊢
        exact ih hapart h

/-- A store that passes the check is the one that was checked. -/
theorem checkUnique_eq_ok {c c' : Config} : checkUnique c = .ok c' ↔
    c' = c ∧ c.servers.Pairwise (fun a b => a.normalized.Apart b.normalized) := by
  unfold checkUnique
  cases h : firstDuplicate [] c.servers with
  | none =>
    have hpairs := (firstDuplicate_eq_none.mp h).2
    simp [hpairs, eq_comm]
  | some fault =>
    have hno : ¬ c.servers.Pairwise (fun a b => a.normalized.Apart b.normalized) := by
      intro hpairs
      rw [firstDuplicate_eq_none.mpr ⟨by simp, hpairs⟩] at h
      cases h
    simp [hno]

/-- An unambiguous store passes the check when its normalised addresses are distinct. -/
theorem checkUnique_of_unambiguous {c : Config} (h : c.Unambiguous) :
    checkUnique c = .ok c ↔ (c.servers.map (fun e => normalizeUrl e.server)).Nodup := by
  rw [checkUnique_eq_ok, List.Nodup, List.pairwise_map]
  constructor
  · rintro ⟨-, hpairs⟩
    exact hpairs.imp (fun hab => (Entry.normalized_apart.mp hab).1)
  · intro hpairs
    refine ⟨rfl, (hpairs.and h).imp ?_⟩
    rintro a b ⟨hserver, hab⟩
    exact Entry.normalized_apart.mpr ⟨hserver, hab.2⟩

/-- The check of an unambiguous store finds no alias twice. Where it fails, two addresses of the
store are different texts that `normalizeUrl` makes the same. -/
theorem checkUnique_eq_error {c : Config} {fault : LayoutFault} (h : c.Unambiguous)
    (hfault : checkUnique c = .error fault) : ∃ s ∈ c.servers, ∃ e ∈ c.servers,
      s.server ≠ e.server ∧ normalizeUrl s.server = normalizeUrl e.server ∧
      fault = .duplicateServer (normalizeUrl e.server) := by
  unfold checkUnique at hfault
  split at hfault
  · rename_i f hf
    cases hfault
    exact @firstDuplicate_eq_some [] c.servers fault h hf
  · cases hfault

theorem checkUnique_of_parse {text : String} {c : Config} {layout : Layout}
    (h : parse text = .ok (c, layout)) : checkUnique c = .ok c := by
  unfold parse at h
  split at h
  · cases h
    rfl
  · split at h
    · cases h
    · unfold ofDocument at h
      split at h
      · cases h
      · split at h
        · cases h
        · rename_i c₀ _
          cases hc : checkUnique c₀ with
          | error fault =>
            rw [hc] at h
            cases h
          | ok c₁ =>
            obtain ⟨rfl, -⟩ := checkUnique_eq_ok.mp hc
            rw [hc] at h
            cases h
            exact hc

theorem parse_unambiguous {text : String} {c : Config} {l : Layout} (h : parse text = .ok (c, l)) :
    c.Unambiguous :=
  (checkUnique_eq_ok.mp (checkUnique_of_parse h)).2.imp Entry.Apart.of_normalized

end SandboxClient.Server
