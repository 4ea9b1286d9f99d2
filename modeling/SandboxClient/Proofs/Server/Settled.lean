/-
  SandboxClient/Proofs/Server/Settled.lean
  ========================================
  **Files that have settled.** The text of a store is read as that store, in
  today's layout, exactly if its aliases and its normalised addresses are
  distinct; otherwise the double is named. A file that has been loaded once, of
  whatever layout it was, has such a text or a text of today's layout that says
  the same, and however often it is loaded and saved from then on the store
  stays what it is: `saves_and_loads_settle`.
-/
import SandboxClient.Proofs.Server.Kept

namespace SandboxClient.Server

open SandboxClient.Files (Path Disk Place temporary bind_of_ok bind_eq_ok pure_eq_ok throw_ne_ok
  bind_eq_error throw_eq_error)

/-! ### Doubles -/

namespace Config

/-- No two entries share an alias, unless they have none, and no two share an address when it is
normalised. -/
def Distinct (c : Config) : Prop :=
  ((c.servers.map Entry.name).filter (· ≠ "")).Nodup ∧
    (c.servers.map (fun e => normalizeUrl e.server)).Nodup

theorem distinct_iff {c : Config} :
    c.Distinct ↔ c.servers.Pairwise (fun a b => a.normalized.Apart b.normalized) := by
  have hnames : (c.servers.map Entry.normalized).map Entry.name = c.servers.map Entry.name := by
    simp [Function.comp_def]
  have hservers : (c.servers.map Entry.normalized).map Entry.server =
      c.servers.map (fun e => normalizeUrl e.server) := by
    simp [Function.comp_def]
  have hpairs := @unambiguous_iff ⟨c.currentKey, c.servers.map Entry.normalized⟩
  rw [Unambiguous, List.pairwise_map, hnames, hservers] at hpairs
  exact hpairs.symm

theorem checkUnique_iff {c : Config} : checkUnique c = .ok c ↔ c.Distinct := by
  rw [checkUnique_eq_ok, distinct_iff]
  exact and_iff_right rfl

end Config

/-- What a fault about doubles says of a store: two of its entries share the alias or the
normalised address that it names. -/
def LayoutFault.IsDouble (c : Config) : LayoutFault → Prop
  | .duplicateAlias name => name ≠ "" ∧ 2 ≤ (c.servers.map Entry.name).count name
  | .duplicateServer url => 2 ≤ (c.servers.map (fun e => normalizeUrl e.server)).count url
  | _ => False

/-- A value that an entry shares with an earlier one occurs twice. -/
theorem two_le_count {β : Type} [BEq β] [LawfulBEq β] {f : Entry → β} {earlier es : List Entry}
    {e : Entry} (h : ∃ s ∈ earlier, f s = f e) : 2 ≤ ((earlier ++ e :: es).map f).count (f e) := by
  obtain ⟨s, hs, heq⟩ := h
  have hearlier : 0 < (earlier.map f).count (f e) := by
    rw [List.count_pos_iff, ← heq]
    exact List.mem_map_of_mem hs
  rw [List.map_append, List.map_cons, List.count_append, List.count_cons_self]
  omega

theorem firstDuplicate_isDouble {earlier es : List Entry} {fault : LayoutFault} (key : String)
    (h : firstDuplicate earlier es = some fault) : fault.IsDouble ⟨key, earlier ++ es⟩ := by
  -- on the entries that are left; the ones before them grow at their end
  induction es generalizing earlier with
  | nil => cases h
  | cons e es ih =>
    rw [firstDuplicate_cons] at h
    split at h
    · rename_i hname
      rw [Bool.and_eq_true, List.any_eq_true] at hname
      obtain ⟨hne, s, hs, heq⟩ := hname
      cases h
      refine ⟨by simpa [String.isEmpty_iff] using hne, two_le_count ⟨s, hs, ?_⟩⟩
      exact beq_iff_eq.mp heq
    · split at h
      · rename_i hserver
        obtain ⟨s, hs, heq⟩ := List.any_eq_true.mp hserver
        cases h
        exact two_le_count (f := fun e => normalizeUrl e.server) ⟨s, hs, beq_iff_eq.mp heq⟩
      · rw [List.append_cons]
        exact ih h

theorem checkUnique_isDouble {c : Config} {fault : LayoutFault}
    (h : checkUnique c = .error fault) : fault.IsDouble c := by
  unfold checkUnique at h
  split at h
  · rename_i f hf
    cases h
    exact firstDuplicate_isDouble c.currentKey hf
  · cases h

/-! ### Written texts -/

/-- The text of a store is a document of today's layout, which is read as the store or found to
have a double that the store has. -/
theorem parse_text_cases (c : Config) :
    (∃ n, Yaml.read c.text.toList = .ok n ∧ Layout.detect n = some .current) ∧
    (c.Distinct → parse c.text = .ok (c, .current)) ∧
    (¬ c.Distinct → ∃ fault, parse c.text = .error fault ∧ fault.IsDouble c) := by
  have hparse := parse_text c.readsBack
  refine ⟨⟨c.block.node, c.readsBack, detect_block c⟩, ?_, ?_⟩
  · intro h
    rw [hparse, Config.checkUnique_iff.mpr h]
    rfl
  · intro h
    cases hcheck : checkUnique c with
    | ok c' =>
      obtain ⟨rfl, -⟩ := checkUnique_eq_ok.mp hcheck
      exact absurd (Config.checkUnique_iff.mp hcheck) h
    | error fault =>
      refine ⟨fault, ?_, checkUnique_isDouble hcheck⟩
      rw [hparse, hcheck]
      rfl

/-! ### What a path leads to -/

section Stored

variable {path : String} {p : Path} {c c' : Config} {d d' : Disk} {bytes : List UInt8}

theorem storedAt_eq_some : storedAt p d = some bytes ↔
    ∃ q n mode, d.find p = .ok q ∧ d.item? q = some (.file n bytes mode) := by
  constructor
  · intro h
    unfold storedAt at h
    cases hq : d.find p with
    | error fault =>
      rw [hq] at h
      cases h
    | ok q =>
      simp only [hq] at h
      unfold Disk.content? at h
      split at h
      · rename_i n content mode hi
        cases h
        exact ⟨q, n, mode, rfl, hi⟩
      · cases h
  · rintro ⟨q, n, mode, hq, hi⟩
    rw [storedAt_of_find hq]
    simp [Disk.content?, hi]

@[simp] theorem storedAt_counted : storedAt p d.counted = storedAt p d := by
  unfold storedAt
  rw [Disk.counted_find]
  rfl

theorem readFile_of_storedAt (h : storedAt p d = some bytes) :
    Files.readFile p d =
      (if d.trouble d.calls = none then .ok bytes else .error .trouble, d.counted) := by
  by_cases ht : d.trouble d.calls = none
  · rw [if_pos ht]
    exact Files.readFile_eq_ok.mpr ⟨ht, rfl, storedAt_eq_some.mp h⟩
  · rw [if_neg ht]
    obtain ⟨written, hw⟩ := Option.ne_none_iff_exists'.mp ht
    have hbegin : Files.beginWhole d = (.error .trouble, d.counted) := by
      unfold Files.beginWhole
      rw [bind_of_ok (Files.begin_eq_ok.mpr ⟨rfl, rfl⟩), hw]
      rfl
    exact bind_eq_error.mpr (Or.inl hbegin)

/-- The path leads to a file of today's layout that says a store. -/
def Holds (path : String) (c : Config) (d : Disk) : Prop :=
  ∃ text, storedAt (Path.read path) d = some (Text.octets text) ∧ parse text = .ok (c, .current)

theorem Holds.distinct (h : Holds path c d) : c.Distinct := by
  obtain ⟨text, -, hparse⟩ := h
  exact Config.checkUnique_iff.mp (checkUnique_of_parse hparse)

theorem Holds.counted (h : Holds path c d) : Holds path c d.counted := by
  obtain ⟨text, hstored, hparse⟩ := h
  exact ⟨text, by rw [storedAt_counted, hstored], hparse⟩

/-- What a file says is loaded from it, and loading it changes nothing. -/
theorem Holds.loadFrom_eq (h : Holds path c d) (ht : d.trouble d.calls = none) :
    loadFrom path d = (.ok c, d.counted) := by
  obtain ⟨text, hstored, hparse⟩ := h
  have hread := readFile_of_storedAt hstored
  rw [if_pos ht] at hread
  exact (loadFrom_of_readFile hread).1 c hparse

theorem Holds.of_loadFrom (h : Holds path c d) (hload : loadFrom path d = (.ok c', d')) :
    c' = c ∧ d' = d.counted := by
  by_cases ht : d.trouble d.calls = none
  · rw [h.loadFrom_eq ht] at hload
    cases hload
    exact ⟨rfl, rfl⟩
  · obtain ⟨text, hstored, -⟩ := h
    have hread := readFile_of_storedAt hstored
    rw [if_neg ht] at hread
    unfold loadFrom at hload
    rw [bind_of_ok (outcome_eq_ok.mpr hread)] at hload
    exact absurd hload throw_ne_ok

/-- A store without doubles is what its file says after it has been saved. -/
theorem holds_of_save (hc : c.Distinct) (h : c.save path d = (.ok (), d')) : Holds path c d' := by
  have hstored := storedAt_eq_some.mpr (Files.replace_content (save_eq_ok.mp h))
  exact ⟨c.text, hstored, (parse_text_cases c).2.1 hc⟩

/-- What has been saved is loaded as it was if it has no doubles, and refused otherwise. -/
theorem loadFrom_of_save (h : c.save path d = (.ok (), d')) (ht : d'.trouble d'.calls = none) :
    (loadFrom path d').1 = .ok c' ↔ c' = c ∧ c.Distinct := by
  by_cases hc : c.Distinct
  · rw [(holds_of_save hc h).loadFrom_eq ht, Except.ok.injEq, eq_comm, and_iff_left hc]
  · have hstored := storedAt_eq_some.mpr (Files.replace_content (save_eq_ok.mp h))
    have hread := readFile_of_storedAt hstored
    rw [if_pos ht] at hread
    obtain ⟨fault, hparse, -⟩ := (parse_text_cases c).2.2 hc
    rw [(loadFrom_of_readFile hread).2 fault hparse]
    constructor
    · rintro ⟨⟩
    · rintro ⟨-, hdistinct⟩
      exact absurd hdistinct hc

/-- What a file said when it was loaded: its text was the store, in some layout, and it has been
saved if that was not today's. -/
theorem loadFrom_stored {text : String} {e : Disk}
    (hstored : storedAt (Path.read path) d = some (Text.octets text))
    (hload : loadFrom path d = (.ok c, e)) :
    ∃ layout, parse text = .ok (c, layout) ∧
      ((layout = .current ∧ e = d.counted) ∨
        (layout ≠ .current ∧ c.save path d.counted = (.ok (), e))) := by
  have hread := readFile_of_storedAt hstored
  unfold loadFrom at hload
  by_cases ht : d.trouble d.calls = none
  · rw [if_pos ht] at hread
    rw [bind_of_ok (outcome_eq_ok.mpr hread)] at hload
    simp only [Text.strictText_octets] at hload
    unfold adoptText at hload
    cases hparse : parse text with
    | error reason =>
      simp only [hparse] at hload
      exact absurd hload throw_ne_ok
    | ok r =>
      obtain ⟨c₀, layout⟩ := r
      simp only [hparse] at hload
      by_cases hlayout : layout = .current
      · rw [if_neg (by simp [hlayout])] at hload
        obtain ⟨rfl, rfl⟩ := pure_eq_ok.mp hload
        exact ⟨layout, rfl, Or.inl ⟨hlayout, rfl⟩⟩
      · rw [if_pos (by simpa using hlayout)] at hload
        obtain ⟨⟨⟩, e', hsave, hrest⟩ := bind_eq_ok.mp hload
        obtain ⟨rfl, rfl⟩ := pure_eq_ok.mp hrest
        exact ⟨layout, rfl, Or.inr ⟨hlayout, hsave⟩⟩
  · rw [if_neg ht] at hread
    rw [bind_of_ok (outcome_eq_ok.mpr hread)] at hload
    exact absurd hload throw_ne_ok

theorem save_trouble (h : c.save path d = (.ok (), d')) : d'.trouble = d.trouble :=
  (Files.replace_leaves_room (save_eq_ok.mp h)).1

/-- Once a file has been loaded it says what was loaded, in today's layout. -/
theorem holds_of_loadFrom {text : String}
    (hstored : storedAt (Path.read path) d = some (Text.octets text))
    (hload : loadFrom path d = (.ok c, d')) : Holds path c d' := by
  obtain ⟨layout, hparse, ⟨rfl, rfl⟩ | ⟨-, hsave⟩⟩ := loadFrom_stored hstored hload
  · exact Holds.counted ⟨text, hstored, hparse⟩
  · exact holds_of_save (Config.checkUnique_iff.mp (checkUnique_of_parse hparse)) hsave

end Stored

/-! ### Loading and saving on and on

Once a file is of today's layout and without doubles, nothing moves it any more. -/

/-- A use of the file of a store. -/
inductive Use
  | load
  | save
  deriving DecidableEq, Repr

/-- Uses the file of a store again and again; a store that is loaded takes the place of the one
before it. -/
def Config.keepUsing (path : String) (c : Config) : List Use → StoreCall Config
  | [] => pure c
  | .load :: uses => do (← loadFrom path).keepUsing path uses
  | .save :: uses => do
    c.save path
    c.keepUsing path uses

/-- The temporary file for a path can stand where it goes. -/
def HasRoom (p : Path) (d : Disk) : Prop :=
  ∃ t, d.find (temporary p) = .ok t ∧ d.isDirectory t = false

theorem HasRoom.counted {p : Path} {d : Disk} (h : HasRoom p d) : HasRoom p d.counted := by
  obtain ⟨t, ht, htd⟩ := h
  exact ⟨t, by rw [Disk.counted_find, ht], htd⟩

section Using

variable {path : String} {c c' : Config} {d d' : Disk}

/-- Where a file says a store, it says that store after any uses of it, and so does whoever has
used it. -/
theorem Holds.keepUsing (h : Holds path c d) (uses : List Use)
    (hrun : c.keepUsing path uses d = (.ok c', d')) : c' = c ∧ Holds path c d' := by
  induction uses generalizing d with
  | nil =>
    obtain ⟨rfl, rfl⟩ := pure_eq_ok.mp hrun
    exact ⟨rfl, h⟩
  | cons use uses ih =>
    cases use with
    | load =>
      obtain ⟨c₁, e, hload, hrest⟩ := bind_eq_ok.mp hrun
      obtain ⟨rfl, rfl⟩ := h.of_loadFrom hload
      exact ih h.counted hrest
    | save =>
      obtain ⟨⟨⟩, e, hsave, hrest⟩ := bind_eq_ok.mp hrun
      exact ih (holds_of_save h.distinct hsave) hrest

theorem Holds.save_succeeds (h : Holds path c d) (htrouble : ∀ k, d.trouble k = none)
    (hroom : HasRoom (Path.read path) d) :
    ∃ d', c.save path d = (.ok (), d') := by
  obtain ⟨text, hstored, -⟩ := h
  obtain ⟨q, n, mode, hq, hi⟩ := storedAt_eq_some.mp hstored
  obtain ⟨t, ht, htd⟩ := hroom
  have hready : d.Ready (Path.read path) :=
    Disk.ready_of_find htrouble hq (Files.isDirectory_of_file hi) ht htd
  obtain ⟨d', hreplace, -⟩ := Files.replace_succeeds hready (Text.octets c.text)
  exact ⟨d', save_eq_ok.mpr hreplace⟩

theorem hasRoom_of_save (h : c.save path d = (.ok (), d')) : HasRoom (Path.read path) d' :=
  (Files.replace_leaves_room (save_eq_ok.mp h)).2.2

/-- Without trouble nothing keeps a file from being used on and on. -/
theorem Holds.keepUsing_succeeds (h : Holds path c d) (htrouble : ∀ k, d.trouble k = none)
    (uses : List Use) (hroom : .save ∈ uses → HasRoom (Path.read path) d) :
    ∃ d', c.keepUsing path uses d = (.ok c, d') := by
  induction uses generalizing d with
  | nil => exact ⟨d, rfl⟩
  | cons use uses ih =>
    cases use with
    | load =>
      have hload := h.loadFrom_eq (htrouble _)
      obtain ⟨d', hrest⟩ := ih h.counted htrouble
        (fun hsave => (hroom (List.mem_cons_of_mem _ hsave)).counted)
      exact ⟨d', bind_eq_ok.mpr ⟨c, d.counted, hload, hrest⟩⟩
    | save =>
      obtain ⟨e, hsave⟩ := h.save_succeeds htrouble (hroom List.mem_cons_self)
      have hafter : ∀ k, e.trouble k = none := by
        rw [save_trouble hsave]
        exact htrouble
      obtain ⟨d', hrest⟩ := ih (holds_of_save h.distinct hsave) hafter
        (fun _ => hasRoom_of_save hsave)
      exact ⟨d', bind_eq_ok.mpr ⟨(), e, hsave, hrest⟩⟩

end Using

/-- **Saving and loading are inverse.** The text of any store is a document of today's layout. It
is read as the store if no alias and no normalised address of it is double, and otherwise a double
is named. A file of any layout that has been loaded, and written anew if its layout was an older
one, says in today's layout what was loaded. It goes on saying so however often it is loaded and
saved, and nothing but trouble with the disk keeps it from being used in this way. -/
theorem saves_and_loads_settle :
    (∀ c : Config,
      (∃ n, Yaml.read c.text.toList = .ok n ∧ Layout.detect n = some .current) ∧
      (c.Distinct → parse c.text = .ok (c, .current)) ∧
      (¬ c.Distinct → ∃ fault, parse c.text = .error fault ∧ fault.IsDouble c)) ∧
    ∀ path text c d d₁, storedAt (Path.read path) d = some (Text.octets text) →
      loadFrom path d = (.ok c, d₁) →
      ∃ layout, parse text = .ok (c, layout) ∧ Holds path c d₁ ∧
        ∀ uses,
          (∀ c' d', c.keepUsing path uses d₁ = (.ok c', d') → c' = c ∧ Holds path c d') ∧
          ((∀ k, d.trouble k = none) →
            (.save ∈ uses → layout = .current → HasRoom (Path.read path) d) →
            ∃ d', c.keepUsing path uses d₁ = (.ok c, d')) := by
  refine ⟨parse_text_cases, ?_⟩
  intro path text c d d₁ hstored hload
  obtain ⟨layout, hparse, hwritten⟩ := loadFrom_stored hstored hload
  have hholds := holds_of_loadFrom hstored hload
  refine ⟨layout, hparse, hholds, fun uses => ⟨fun c' d' hrun => hholds.keepUsing uses hrun, ?_⟩⟩
  intro htrouble hroom
  obtain ⟨hlayout, rfl⟩ | ⟨-, hsaved⟩ := hwritten
  · exact hholds.keepUsing_succeeds htrouble uses (fun hsave => (hroom hsave hlayout).counted)
  · refine hholds.keepUsing_succeeds ?_ uses (fun _ => hasRoom_of_save hsaved)
    rw [save_trouble hsaved]
    exact htrouble

/-- A file of the layout with a mapping, as the second version wrote it. -/
def mappedText : String :=
  "current_server: prod\nservers:\n  prod:\n    url: https://prod.example.com/\n    token: tok\n"

/-- A disk with that file. -/
def mappedDisk : Disk :=
  { Config.blankDisk with
    items := [(["servers.yaml"], .file 0 (Text.octets mappedText) 0o600)]
    nextSerial := 1 }

/-- The file is loaded, and stays what it has become when it is saved and loaded again. -/
theorem mapped_file_settles :
    ∃ d₁ d', storedAt (Path.read "servers.yaml") mappedDisk = some (Text.octets mappedText) ∧
      loadFrom "servers.yaml" mappedDisk =
        (.ok ⟨"prod", [⟨"prod", "https://prod.example.com", "tok", false⟩]⟩, d₁) ∧
      Config.keepUsing "servers.yaml"
          ⟨"prod", [⟨"prod", "https://prod.example.com", "tok", false⟩]⟩ [.save, .load, .save] d₁ =
        (.ok ⟨"prod", [⟨"prod", "https://prod.example.com", "tok", false⟩]⟩, d') := by
  have hstored : storedAt (Path.read "servers.yaml") mappedDisk = some (Text.octets mappedText) := by
    decide +kernel
  have hload : (loadFrom "servers.yaml" mappedDisk).1 =
      .ok ⟨"prod", [⟨"prod", "https://prod.example.com", "tok", false⟩]⟩ := by
    decide +kernel
  have hlayout : parse mappedText =
      .ok (⟨"prod", [⟨"prod", "https://prod.example.com", "tok", false⟩]⟩, .serverMap) := by
    decide +kernel
  obtain ⟨layout, hparse, -, huses⟩ :=
    saves_and_loads_settle.2 "servers.yaml" mappedText _ mappedDisk _ hstored (Prod.ext hload rfl)
  have hother : layout = .serverMap := by
    rw [hlayout] at hparse
    cases hparse
    rfl
  obtain ⟨d', hd'⟩ := (huses [.save, .load, .save]).2 (fun _ => rfl)
    (fun _ hcurrent => by rw [hother] at hcurrent; cases hcurrent)
  exact ⟨_, d', hstored, Prod.ext hload rfl, hd'⟩

end SandboxClient.Server
