/-
  SandboxClient/Proofs/Server/Written.lean
  ========================================
  **Written stores are read back.** Whatever texts a store holds, its block has the
  regular form that documents are read back in, so that no store is lost or
  changed by the way its texts are written.
-/
import SandboxClient.Server.Layout
import SandboxClient.Proofs.Yaml.WrittenDocuments

namespace SandboxClient.Server

open SandboxClient.Yaml (Block IsKey depthLimit)

/-! ### The names of fields -/

/-- The fields of a written store. -/
def storeFields : List String := ["current_server", "servers"]

/-- The fields of a written entry. -/
def entryFields : List String := ["alias", "server", "token", "insecure"]

theorem isKey_of_mem {k : String} (h : k ∈ storeFields ++ entryFields) : IsKey k := by
  simp only [storeFields, entryFields, List.cons_append, List.nil_append, List.mem_cons,
    List.not_mem_nil, or_false] at h
  rcases h with rfl | rfl | rfl | rfl | rfl | rfl
  all_goals exact ⟨⟨by decide, by decide⟩, by decide, by decide +kernel⟩

/-- Fields whose names are some of the known ones in their order are those of a regular mapping. -/
theorem regular_fields {fs : List (String × Block)} {known : List String} {depth : Nat}
    (hne : fs ≠ []) (hnames : (fs.map Prod.fst).Sublist known) (hknown : known.Nodup)
    (hkeys : ∀ k ∈ known, k ∈ storeFields ++ entryFields)
    (hregular : ∀ f ∈ fs, f.2.Regular depth) : (Block.fields fs).Regular (depth + 1) := by
  refine .fields hne ?_ (hknown.sublist hnames) hregular
  intro f hf
  exact isKey_of_mem (hkeys f.1 (hnames.mem (List.mem_map_of_mem hf)))

theorem textField_sublist (name s : String) : ((textField name s).map Prod.fst).Sublist [name] := by
  unfold textField
  split
  · exact List.nil_sublist _
  · exact List.Sublist.refl _

theorem regular_textField {name s : String} {depth : Nat} :
    ∀ f ∈ textField name s, f.2.Regular depth := by
  intro f hf
  unfold textField at hf
  split at hf
  · cases hf
  · obtain rfl := List.mem_singleton.mp hf
    exact .text _ _

/-! ### Blocks of stores

The writer and the reader of documents are proved inverse for blocks of this shape, not assumed to
be. -/

theorem Entry.regular_block (e : Entry) (depth : Nat) : e.block.Regular (depth + 1) := by
  refine @regular_fields _ entryFields _ (by simp) ?_ (by decide) (by decide) ?_
  · have hflag : ((if e.insecure then [("insecure", Block.flag true)] else []).map Prod.fst).Sublist
        ["insecure"] := by
      split
      · exact List.Sublist.refl _
      · exact List.nil_sublist _
    simp only [List.map_append]
    exact (((textField_sublist _ _).append (List.Sublist.refl ["server"])).append
      (textField_sublist _ _)).append hflag
  · intro f hf
    simp only [List.mem_append, List.mem_singleton] at hf
    rcases hf with ((hf | rfl) | hf) | hf
    · exact regular_textField f hf
    · exact .text _ _
    · exact regular_textField f hf
    · split at hf
      · obtain rfl := List.mem_singleton.mp hf
        exact .flag _ _
      · cases hf

theorem Config.regular_block {c : Config} (h : c ≠ Config.empty) : c.block.Regular depthLimit := by
  refine @regular_fields _ storeFields _ ?_ ?_ (by decide) (by decide) ?_
  · intro hnil
    obtain ⟨key, servers⟩ := c
    obtain ⟨hkey, hservers⟩ := List.append_eq_nil_iff.mp hnil
    have hkey' : key = "" := by simpa [textField] using hkey
    have hservers' : servers = [] := by simpa using hservers
    exact h (by rw [hkey', hservers']; rfl)
  · have hlist : ((if c.servers.isEmpty then [] else
        [("servers", Block.items (c.servers.map Entry.block))]).map Prod.fst).Sublist
          ["servers"] := by
      split
      · exact List.nil_sublist _
      · exact List.Sublist.refl _
    rw [List.map_append]
    exact (textField_sublist _ _).append hlist
  · intro f hf
    rcases List.mem_append.mp hf with hf | hf
    · exact regular_textField f hf
    · split at hf
      · cases hf
      · rename_i hservers
        obtain rfl := List.mem_singleton.mp hf
        refine .items ?_ ?_ ?_
        · simpa using hservers
        · intro b hb
          obtain ⟨e, -, rfl⟩ := List.mem_map.mp hb
          exact ⟨_, rfl⟩
        · intro b hb
          obtain ⟨e, -, rfl⟩ := List.mem_map.mp hb
          exact e.regular_block _

/-- **A written store is read back**, whatever its texts are. -/
theorem Config.readsBack (c : Config) : c.block.ReadsBack := by
  by_cases h : c = Config.empty
  · rw [h]
    decide +kernel
  · exact (Config.regular_block h).readsBack

end SandboxClient.Server
