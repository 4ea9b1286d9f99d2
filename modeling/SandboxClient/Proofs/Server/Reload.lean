/-
  SandboxClient/Proofs/Server/Reload.lean
  =======================================
  **Saved stores that are loaded again.** A store is checked when its file is read
  and never when it is written. What is written passes the check unless two
  addresses that are stored as different texts have the same normalised form,
  which `Config.add` and `Config.set` do not look for.
-/
import SandboxClient.Server.Stored
import SandboxClient.Proofs.Files.Replaced
import SandboxClient.Proofs.Server.Document
import SandboxClient.Proofs.Server.Provenance
import SandboxClient.Proofs.Text.Octets

namespace SandboxClient.Server

open SandboxClient.Files (Path Disk DiskFault DiskCall bind_of_ok bind_eq_ok pure_eq_ok
  throw_ne_ok)

/-- Whether two outcomes are the same can be decided. -/
instance outcomeDecidableEq {ε α : Type} [DecidableEq ε] [DecidableEq α] :
    DecidableEq (Except ε α)
  | .ok a, .ok b => decidable_of_iff (a = b) (by simp)
  | .error e, .error f => decidable_of_iff (e = f) (by simp)
  | .ok _, .error _ => isFalse (by simp)
  | .error _, .ok _ => isFalse (by simp)

/-! ### Saving and loading -/

section Calls

variable {path text : String} {c : Config} {d d' : Disk}

theorem outcome_eq_ok {α : Type} {call : DiskCall α} {r : Except DiskFault α} :
    outcome call d = (.ok r, d') ↔ call d = (r, d') := by
  have hcall : outcome call d = (.ok (call d).1, (call d).2) := rfl
  rw [hcall]
  rcases call d with ⟨result, e⟩
  constructor
  · intro h
    cases h
    rfl
  · intro h
    cases h
    rfl

theorem save_eq_ok : c.save path d = (.ok (), d') ↔
    Files.replace (Path.read path) (Text.octets c.text) d = (.ok (), d') := by
  unfold Config.save
  rw [bind_eq_ok]
  constructor
  · rintro ⟨result, e, hreplace, h⟩
    cases result with
    | error reason => exact absurd h throw_ne_ok
    | ok u =>
      obtain ⟨-, rfl⟩ := pure_eq_ok.mp h
      exact outcome_eq_ok.mp hreplace
  · intro h
    exact ⟨.ok (), d', outcome_eq_ok.mpr h, pure_eq_ok.mpr ⟨rfl, rfl⟩⟩

/-- What is loaded is the empty store, or has been read in a text. -/
theorem loadFrom_parsed (h : (loadFrom path d).1 = .ok c) :
    c = .empty ∨ ∃ text layout, parse text = .ok (c, layout) := by
  have hload : loadFrom path d = (.ok c, (loadFrom path d).2) := Prod.ext h rfl
  unfold loadFrom at hload
  obtain ⟨result, e, -, hload⟩ := bind_eq_ok.mp hload
  cases result with
  | error reason =>
    cases reason with
    | missing =>
      obtain ⟨rfl, -⟩ := pure_eq_ok.mp hload
      exact Or.inl rfl
    | _ => exact absurd hload throw_ne_ok
  | ok bytes =>
    cases htext : Text.strictText bytes with
    | none =>
      simp only [htext] at hload
      exact absurd hload throw_ne_ok
    | some text =>
      simp only [htext, adoptText] at hload
      cases hparse : parse text with
      | error reason =>
        simp only [hparse] at hload
        exact absurd hload throw_ne_ok
      | ok r =>
        obtain ⟨c₁, layout⟩ := r
        simp only [hparse] at hload
        have hc : c₁ = c := by
          by_cases hl : (layout != .current) = true
          · simp only [if_pos hl, bind_eq_ok] at hload
            obtain ⟨-, e', -, hload⟩ := hload
            exact (pure_eq_ok.mp hload).1.symm
          · simp only [if_neg hl] at hload
            exact (pure_eq_ok.mp hload).1.symm
        exact Or.inr ⟨text, layout, hc ▸ hparse⟩

/-- Only a store that passes the check for doubles is ever loaded. -/
theorem loadFrom_checked (h : (loadFrom path d).1 = .ok c) : checkUnique c = .ok c := by
  rcases loadFrom_parsed h with rfl | ⟨text, layout, hparse⟩
  · rfl
  · exact checkUnique_of_parse hparse

theorem loadFrom_unambiguous (h : (loadFrom path d).1 = .ok c) : c.Unambiguous :=
  (checkUnique_eq_ok.mp (loadFrom_checked h)).2.imp Entry.Apart.of_normalized

/-- A file of today's layout is loaded, or is found corrupt, as its text says. -/
theorem loadFrom_of_readFile
    (hread : Files.readFile (Path.read path) d = (.ok (Text.octets text), d')) :
    (∀ c, parse text = .ok (c, .current) → loadFrom path d = (.ok c, d')) ∧
    (∀ reason, parse text = .error reason →
      loadFrom path d = (.error (.corrupt path reason), d')) := by
  have hload : loadFrom path d = adoptText path text d' := by
    unfold loadFrom
    rw [bind_of_ok (outcome_eq_ok.mpr hread)]
    simp only [Text.strictText_octets]
  constructor
  · intro c hc
    rw [hload]
    unfold adoptText
    rw [hc]
    rfl
  · intro reason hreason
    rw [hload]
    unfold adoptText
    rw [hreason]
    rfl

end Calls

/-! ### Addresses in their normal form

Operations normalise what they store, but a file may have been written by somebody else. -/

/-- The address that an operation may store, as it is given. -/
def Operation.address? : Operation → Option String
  | .add e => some e.server
  | .set _ url _ => some url
  | _ => none

/-- A step stores nothing but the address it is given, in its normal form. -/
theorem Step.stores_address {s : Step} {url : String} (h : s.stores url = true) :
    ∃ u, s.op.address? = some u ∧ normalizeUrl u = url := by
  obtain ⟨c, op⟩ := s
  cases op with
  | add e =>
    simp only [Step.stores, Step.adds, Step.logsIn, Bool.or_false, Bool.and_eq_true,
      beq_iff_eq] at h
    exact ⟨e.server, rfl, h.2⟩
  | set name u token =>
    simp only [Step.stores, Step.adds, Step.logsIn, Bool.false_or, beq_iff_eq] at h
    exact ⟨u, rfl, h⟩
  | remove key => cases h
  | use key => cases h

namespace Config

/-- Where the addresses of a store are in their normal form, and those that operations give need
to be normalised only once, they stay in it. -/
theorem run_normal {c : Config} {ops : List Operation}
    (hc : ∀ e ∈ c.servers, normalizeUrl e.server = e.server)
    (hops : ∀ op ∈ ops, ∀ url, op.address? = some url →
      normalizeUrl (normalizeUrl url) = normalizeUrl url) :
    ∀ e ∈ (c.run ops).servers, normalizeUrl e.server = e.server := by
  induction ops generalizing c with
  | nil => exact hc
  | cons op ops ih =>
    refine ih ?_ (fun o ho => hops o (List.mem_cons_of_mem op ho))
    intro e he
    have hstored : e ∈ c.servers ∨ (Step.mk c op).stores e.server = true := by
      rcases mem_perform he with ⟨hold, -⟩ | ⟨hadds, -⟩ | ⟨hlogs, -⟩
      · exact Or.inl hold
      · exact Or.inr (by simp [Step.stores, hadds])
      · exact Or.inr (by simp [Step.stores, hlogs])
    rcases hstored with hold | hstores
    · exact hc e hold
    · obtain ⟨u, hu, hurl⟩ := Step.stores_address hstores
      rw [← hurl]
      exact hops op (by simp) u hu

/-! ### Saved and loaded again -/

/-- **What is saved and loaded again.** A store that was loaded and changed by any operations can
be saved, and what is loaded then is the same store if its addresses are distinct in their normal
form. If they are not, two of them are different texts with the same normal form, and the file is
found corrupt because of them. This cannot happen when all addresses of the loaded store are in
their normal form and no operation gives one that has to be normalised twice. -/
theorem reload_run_iff {path₀ path : String} {d₀ : Disk} {c₀ : Config}
    (hload : (loadFrom path₀ d₀).1 = .ok c₀) (ops : List Operation)
    (hyaml : (c₀.run ops).block.ReadsBack) :
    (∀ d, d.Ready (Path.read path) →
      ∃ d', (c₀.run ops).save path d = (.ok (), d') ∧ ∀ n, d'.trouble n = none) ∧
    (∀ d d', (c₀.run ops).save path d = (.ok (), d') → d'.trouble d'.calls = none →
      ((loadFrom path d').1 = .ok (c₀.run ops) ↔
        ((c₀.run ops).servers.map (fun e => normalizeUrl e.server)).Nodup) ∧
      ((loadFrom path d').1 ≠ .ok (c₀.run ops) →
        ∃ s ∈ (c₀.run ops).servers, ∃ e ∈ (c₀.run ops).servers, s.server ≠ e.server ∧
          normalizeUrl s.server = normalizeUrl e.server ∧
          (loadFrom path d').1 =
            .error (.corrupt path (.duplicateServer (normalizeUrl e.server))))) ∧
    ((∀ e ∈ c₀.servers, normalizeUrl e.server = e.server) →
      (∀ op ∈ ops, ∀ url, op.address? = some url →
        normalizeUrl (normalizeUrl url) = normalizeUrl url) →
      ((c₀.run ops).servers.map (fun e => normalizeUrl e.server)).Nodup) := by
  have hunambiguous : (c₀.run ops).Unambiguous :=
    run_keeps perform_unambiguous (loadFrom_unambiguous hload) ops
  refine ⟨?_, ?_, ?_⟩
  · intro d hready
    obtain ⟨d', hreplace, htrouble⟩ :=
      Files.replace_succeeds hready (Text.octets (c₀.run ops).text)
    exact ⟨d', save_eq_ok.mpr hreplace, htrouble⟩
  · intro d d' hsave htrouble
    obtain ⟨q, n, mode, hq, hi⟩ := Files.replace_content (save_eq_ok.mp hsave)
    obtain ⟨hok, herror⟩ := loadFrom_of_readFile (Files.readFile_eq_ok.mpr
      ⟨htrouble, rfl, q, n, mode, hq, hi⟩)
    -- what is read is what was written, so the check alone decides
    rw [parse_text hyaml] at hok herror
    rw [← checkUnique_of_unambiguous hunambiguous]
    cases hcheck : checkUnique (c₀.run ops) with
    | ok c =>
      obtain ⟨rfl, -⟩ := checkUnique_eq_ok.mp hcheck
      rw [hok _ (by rw [hcheck]; rfl)]
      exact ⟨⟨fun _ => rfl, fun _ => rfl⟩, fun hne => absurd rfl hne⟩
    | error fault =>
      obtain ⟨s, hs, e, he, hne, heq, rfl⟩ := checkUnique_eq_error hunambiguous hcheck
      rw [herror _ (by rw [hcheck]; rfl)]
      constructor
      · constructor
        · intro h
          cases h
        · intro h
          cases h
      · intro _
        exact ⟨s, hs, e, he, hne, heq, rfl⟩
  · intro hc hops
    have hsame : (c₀.run ops).servers.map (fun e => normalizeUrl e.server) =
        (c₀.run ops).servers.map Entry.server := List.map_congr_left (run_normal hc hops)
    rw [hsame]
    exact (unambiguous_iff.mp hunambiguous).2

/-- A disk without trouble on which there is nothing. -/
def blankDisk : Disk := ⟨[], [], 0, 0, fun _ => none⟩

/-- A login that is stored where no file was yet is there when the file is loaded. -/
theorem reload_first_login :
    ∃ d', (empty.run [.set "work" "https://a.example/" "t"]).save "servers.yaml" blankDisk =
        (.ok (), d') ∧
      (loadFrom "servers.yaml" d').1 =
        .ok ⟨"work", [⟨"work", "https://a.example", "t", false⟩]⟩ := by
  have hload : (loadFrom "servers.yaml" blankDisk).1 = .ok empty := by decide +kernel
  have hyaml : (empty.run [.set "work" "https://a.example/" "t"]).block.ReadsBack := by
    decide +kernel
  obtain ⟨hsave, hreload, -⟩ := @reload_run_iff "servers.yaml" "servers.yaml" blankDisk empty hload
    [.set "work" "https://a.example/" "t"] hyaml
  have hready : blankDisk.Ready (Path.read "servers.yaml") :=
    Disk.ready_of_find (fun _ => rfl) (q := ["servers.yaml"]) (t := ["servers.yaml.tmp"])
      (by decide +kernel) (by decide +kernel) (by decide +kernel) (by decide +kernel)
  obtain ⟨d', hd', htrouble⟩ := hsave blankDisk hready
  exact ⟨d', hd', (hreload blankDisk d' hd' (htrouble _)).1.mpr (by decide +kernel)⟩

/-- A disk with a file that somebody has written by hand. The address in it ends with a slash. -/
def handWritten : Disk :=
  { blankDisk with
    items := [(["servers.yaml"],
      .file 0 (Text.octets "servers:\n- server: https://a.example/\n") 0o600)]
    nextSerial := 1 }

/-- From a file an address is taken as it stands, and the same address without its slash can be
added to it. The file that is saved then is refused, although it is read as what was written. -/
theorem slash_in_file_locks_out :
    (loadFrom "servers.yaml" handWritten).1 =
      .ok ⟨"", [⟨"", "https://a.example/", "", false⟩]⟩ ∧
    (Config.run ⟨"", [⟨"", "https://a.example/", "", false⟩]⟩
        [.add ⟨"b", "https://a.example", "", false⟩]).block.ReadsBack ∧
    ∃ d', (Config.run ⟨"", [⟨"", "https://a.example/", "", false⟩]⟩
          [.add ⟨"b", "https://a.example", "", false⟩]).save "servers.yaml" handWritten =
        (.ok (), d') ∧
      (loadFrom "servers.yaml" d').1 =
        .error (.corrupt "servers.yaml" (.duplicateServer "https://a.example")) := by
  refine ⟨by decide +kernel, by decide +kernel, _, Prod.ext ?_ rfl, ?_⟩
  · show _ = Except.ok ()
    decide +kernel
  · decide +kernel

end Config

end SandboxClient.Server
