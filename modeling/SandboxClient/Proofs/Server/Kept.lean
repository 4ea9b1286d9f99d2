/-
  SandboxClient/Proofs/Server/Kept.lean
  =====================================
  **Stores that keep their meaning.** Reading a store may write its file anew, and
  writing it may fail at any call. Neither changes what the file says, and a file
  of today's layout, or one that is no store at all, is not touched.
-/
import SandboxClient.Proofs.Files.Spared
import SandboxClient.Proofs.Files.Ways
import SandboxClient.Proofs.Server.Reload
import SandboxClient.Proofs.Server.Written

namespace SandboxClient.Server

open SandboxClient.Files (Path Disk Place DiskFault DiskCall NotTemporary OpensWay bind_of_ok
  bind_eq_ok pure_eq_ok throw_ne_ok bind_eq_error pure_ne_error throw_eq_error)

/-! ### What a file says

Two files say the same if the same store or the same fault is read in them; the layout does not
matter. -/

/-- The store that the octets of a file say, or why they say none, if they are a text at all. -/
def reading (bytes : List UInt8) : Option (Except LayoutFault Config) :=
  (Text.strictText bytes).map (fun text => (parse text).map Prod.fst)

/-- A file has a store of an older layout in it. -/
def HasOlder (content : Option (List UInt8)) (c : Config) : Prop :=
  ∃ bytes text layout, content = some bytes ∧ Text.strictText bytes = some text ∧
    parse text = .ok (c, layout) ∧ layout ≠ .current

/-- A file says what it said, and has been written anew only if it had an older layout. -/
structure SameStore (before after : Option (List UInt8)) : Prop where
  reading : after.map reading = before.map reading
  content : (∀ c, ¬ HasOlder before c) → after = before

theorem SameStore.refl (content : Option (List UInt8)) : SameStore content content :=
  ⟨rfl, fun _ => rfl⟩

/-- An older layout that is left was there before. -/
theorem SameStore.older {before after : Option (List UInt8)} (h : SameStore before after)
    {c : Config} (hafter : HasOlder after c) : HasOlder before c := by
  by_cases hno : ∀ c, ¬ HasOlder before c
  · rw [h.content hno] at hafter
    exact hafter
  · obtain ⟨c', hc'⟩ := Classical.not_forall_not.mp hno
    have hsame := h.reading
    obtain ⟨bytes, text, layout, rfl, htext, hparse, -⟩ := hafter
    obtain ⟨bytes', text', layout', rfl, htext', hparse', hlayout'⟩ := hc'
    simp only [Option.map_some, Server.reading, htext, htext', hparse, hparse', Except.map,
      Option.some.injEq, Except.ok.injEq] at hsame
    exact ⟨bytes', text', layout', rfl, htext', hsame ▸ hparse', hlayout'⟩

theorem SameStore.trans {a b c : Option (List UInt8)} (h : SameStore a b) (h' : SameStore b c) :
    SameStore a c := by
  refine ⟨h'.reading.trans h.reading, ?_⟩
  intro hno
  have hb : ∀ s, ¬ HasOlder b s := fun s hs => hno s (h.older hs)
  rw [h'.content hb, h.content hno]

/-- A store of an older layout says the same when it is written in today's. -/
theorem SameStore.of_older {bytes : List UInt8} {c : Config} (h : HasOlder (some bytes) c) :
    SameStore (some bytes) (some (Text.octets c.text)) := by
  obtain ⟨_, text, layout, hbytes, htext, hparse, hlayout⟩ := h
  cases hbytes
  have hback : parse c.text = .ok (c, .current) := by
    rw [parse_text c.readsBack, checkUnique_of_parse hparse]
    rfl
  refine ⟨?_, fun hno => absurd ⟨_, text, layout, rfl, htext, hparse, hlayout⟩ (hno c)⟩
  simp [Server.reading, Text.strictText_octets, hback, htext, hparse, Except.map]

/-! ### Disks -/

/-- A sound disk that has come out of another one, on which all files but the temporary one of a
path say what they said. -/
structure KeepsStore (p : Path) (d d' : Disk) : Prop where
  sound : d'.Sound
  here : d'.here = d.here
  directories : ∀ q, d.isDirectory q = true → d'.isDirectory q = true
  store : ∀ q, NotTemporary p q → SameStore (d.content? q) (d'.content? q)

section Disks

variable {p : Path} {path : String} {c : Config} {d d' : Disk}

theorem KeepsStore.of_spares (h : d.Spares (NotTemporary p) d') : KeepsStore p d d' := by
  refine ⟨h.sound, h.here, h.directories, ?_⟩
  intro q hq
  rw [h.content q hq]
  exact .refl _

theorem KeepsStore.refl (h : d.Sound) : KeepsStore p d d := .of_spares (.refl h)

theorem KeepsStore.counted (h : d.Sound) : KeepsStore p d d.counted := .of_spares (.counted h)

theorem KeepsStore.trans {d₁ d₂ d₃ : Disk} (h : KeepsStore p d₁ d₂) (h' : KeepsStore p d₂ d₃) :
    KeepsStore p d₁ d₃ :=
  ⟨h'.sound, h'.here.trans h.here, fun q hq => h'.directories q (h.directories q hq),
    fun q hq => (h.store q hq).trans (h'.store q hq)⟩

theorem KeepsStore.find (h : KeepsStore p d d') {r : Path} {q : Place} (hq : d.find r = .ok q) :
    d'.find r = .ok q :=
  Disk.find_of_isDirectory h.here h.directories hq

theorem keepsStore_of_save_error {fault : Fault} (hd : d.Sound)
    (h : c.save path d = (.error fault, d')) : KeepsStore (Path.read path) d d' := by
  unfold Config.save at h
  obtain houtcome | ⟨result, e, houtcome, hrest⟩ := bind_eq_error.mp h
  · cases houtcome
  · cases result with
    | ok u => exact absurd hrest pure_ne_error
    | error reason =>
      obtain ⟨-, rfl⟩ := throw_eq_error.mp hrest
      have hspares := Files.replace_spares (Files.leadsAside_temporary _) hd
        (outcome_eq_ok.mp houtcome)
      refine .of_spares ⟨hspares.sound, hspares.here, hspares.directories, ?_⟩
      intro q hq
      exact hspares.content q ⟨hq, fun hboth => by cases hboth.1⟩

/-- A store that is written anew keeps its meaning. -/
theorem keepsStore_of_save_ok {q : Place} {bytes : List UInt8} (hd : d.Sound)
    (hq : d.find (Path.read path) = .ok q) (hbytes : d.content? q = some bytes)
    (holder : HasOlder (some bytes) c) (h : c.save path d = (.ok (), d')) :
    KeepsStore (Path.read path) d d' := by
  have hreplace := save_eq_ok.mp h
  have hspares := Files.replace_spares (Files.leadsAside_temporary _) hd hreplace
  refine ⟨hspares.sound, hspares.here, hspares.directories, ?_⟩
  intro r hr
  have hfind := hspares.find hq
  by_cases hrq : r = q
  · obtain ⟨q', n, mode, hq', hi⟩ := Files.replace_content hreplace
    obtain rfl : q = q' := Except.ok.inj (hfind.symm.trans hq')
    have hafter : d'.content? q = some (Text.octets c.text) := by simp [Disk.content?, hi]
    rw [hrq, hbytes, hafter]
    exact .of_older holder
  · rw [hspares.content r ⟨hr, fun hboth => hrq (Except.ok.inj (hboth.2.symm.trans hfind))⟩]
    exact .refl _

/-- Reading a store changes nothing, or the file has an older layout and is written anew. -/
theorem loadFrom_cases {result : Except Fault Config} (h : loadFrom path d = (result, d')) :
    d' = d.counted ∨ ∃ bytes text c layout,
      Files.readFile (Path.read path) d = (.ok bytes, d.counted) ∧
      Text.strictText bytes = some text ∧ parse text = .ok (c, layout) ∧ layout ≠ .current ∧
      ((c.save path d.counted = (.ok (), d') ∧ result = .ok c) ∨
        ∃ fault, c.save path d.counted = (.error fault, d') ∧ result = .error fault) := by
  unfold loadFrom at h
  rcases hread : Files.readFile (Path.read path) d with ⟨reason | bytes, e⟩
  · rw [bind_of_ok (outcome_eq_ok.mpr hread)] at h
    obtain rfl := Files.readFile_error hread
    left
    cases reason <;> exact (congrArg Prod.snd h).symm
  · rw [bind_of_ok (outcome_eq_ok.mpr hread)] at h
    obtain rfl : e = d.counted := (Files.readFile_eq_ok.mp hread).2.1
    cases htext : Text.strictText bytes with
    | none =>
      simp only [htext] at h
      exact Or.inl (congrArg Prod.snd h).symm
    | some text =>
      simp only [htext] at h
      unfold adoptText at h
      cases hparse : parse text with
      | error reason =>
        simp only [hparse] at h
        exact Or.inl (congrArg Prod.snd h).symm
      | ok r =>
        obtain ⟨c, layout⟩ := r
        simp only [hparse] at h
        by_cases hlayout : layout = .current
        · rw [if_neg (by simp [hlayout])] at h
          exact Or.inl (congrArg Prod.snd h).symm
        · rw [if_pos (by simpa using hlayout)] at h
          refine Or.inr ⟨bytes, text, c, layout, rfl, htext, hparse, hlayout, ?_⟩
          rcases hsave : c.save path d.counted with ⟨fault | u, e⟩
          · rw [bind_eq_error.mpr (Or.inl hsave)] at h
            cases h
            exact Or.inr ⟨fault, rfl, rfl⟩
          · rw [bind_of_ok hsave] at h
            cases h
            exact Or.inl ⟨rfl, rfl⟩

/-- Reading a store, with whatever outcome, keeps its meaning. -/
theorem loadFrom_keepsStore {result : Except Fault Config} (hd : d.Sound)
    (h : loadFrom path d = (result, d')) : KeepsStore (Path.read path) d d' := by
  have hcounted : KeepsStore (Path.read path) d d.counted := .counted hd
  rcases loadFrom_cases h with rfl | ⟨bytes, text, c, layout, hread, htext, hparse, hlayout, hsave⟩
  · exact hcounted
  · obtain ⟨-, -, q, n, mode, hq, hi⟩ := Files.readFile_eq_ok.mp hread
    have hbytes : d.content? q = some bytes := by simp [Disk.content?, hi]
    have holder : HasOlder (some bytes) c := ⟨bytes, text, layout, rfl, htext, hparse, hlayout⟩
    refine hcounted.trans ?_
    rcases hsave with ⟨hsave, -⟩ | ⟨fault, hsave, -⟩
    · have hq' : d.counted.find (Path.read path) = .ok q := (Disk.counted_find d _).trans hq
      exact keepsStore_of_save_ok hd.counted hq' hbytes holder hsave
    · exact keepsStore_of_save_error hd.counted hsave

/-! ### What a path leads to

The path is walked again on the disk afterwards, so a way that has opened has to be spoken of. -/

/-- The content of the file that a path leads to. -/
def storedAt (p : Path) (d : Disk) : Option (List UInt8) :=
  match d.find p with
  | .ok q => d.content? q
  | .error _ => none

/-- A store has been left as it was: every file but the temporary one says what it said, the path
leads where it led, and so what is stored where it leads says what it said. Only a path that led
nowhere and goes up out of a directory that has been made may lead to another file now. -/
structure LeavesStore (p : Path) (d d' : Disk) : Prop where
  files : ∀ q, NotTemporary p q → SameStore (d.content? q) (d'.content? q)
  way : ∀ q, d.find p = .ok q → d'.find p = .ok q
  stored : SameStore (storedAt p d) (storedAt p d') ∨ OpensWay p d d'

theorem storedAt_of_find {q : Place} (hq : d.find p = .ok q) : storedAt p d = d.content? q := by
  unfold storedAt
  rw [hq]

theorem storedAt_of_error {fault : DiskFault} (hq : d.find p = .error fault) :
    storedAt p d = none := by
  unfold storedAt
  rw [hq]

/-- What relates the contents of the files that a path leads to relates what is stored there, before
and after, unless the way has opened. -/
theorem storedAt_related {R : Option (List UInt8) → Option (List UInt8) → Prop} (hd : d.Sound)
    (hhere : d'.here = d.here) (hfind : ∀ q, d.find p = .ok q → d'.find p = .ok q)
    (hnone : R none none)
    (hfile : ∀ q, d'.find p = .ok q → d.find p = .ok q ∨ d.content? q = none →
      R (d.content? q) (d'.content? q)) :
    R (storedAt p d) (storedAt p d') ∨ OpensWay p d d' := by
  cases hq : d.find p with
  | ok q =>
    rw [storedAt_of_find hq, storedAt_of_find (hfind q hq)]
    exact Or.inl (hfile q (hfind q hq) (Or.inl hq))
  | error fault =>
    rw [storedAt_of_error hq]
    cases hq' : d'.find p with
    | error fault' =>
      rw [storedAt_of_error hq']
      exact Or.inl hnone
    | ok q =>
      have hlost : ∀ r, d.find p ≠ .ok r := by
        intro r hr
        cases hq.symm.trans hr
      refine (Files.item?_or_opensWay hd hhere hlost hq').imp_left ?_
      intro hi
      have hnew : d.content? q = none := by simp [Disk.content?, hi]
      rw [storedAt_of_find hq', ← hnew]
      exact hfile q hq' (Or.inr hnew)

theorem leavesStore_of_keepsStore (hd : d.Sound) (h : KeepsStore p d d') : LeavesStore p d d' := by
  refine ⟨h.store, fun q hq => h.find hq, ?_⟩
  refine storedAt_related hd h.here (fun q hq => h.find hq) (.refl _) ?_
  rintro q hq' (hq | hnone)
  · rcases Files.notTemporary_of_find hd hq with hdir | hplace
    · rw [Disk.content?_of_isDirectory hdir, Disk.content?_of_isDirectory (h.directories q hdir)]
      exact .refl _
    · exact h.store q hplace
  · rcases Files.notTemporary_of_find h.sound hq' with hdir | hplace
    · rw [hnone, Disk.content?_of_isDirectory hdir]
      exact .refl _
    · exact h.store q hplace

end Disks

end SandboxClient.Server
