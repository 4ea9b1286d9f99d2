/-
  SandboxClient/Proofs/Files/AtOnce.lean
  ======================================
  **Replacements at once.** Several programs may replace one file at the same time:
  between two calls of one of them the others make calls of theirs. They all use
  the same temporary file. As long as nobody opens it between another's opening it
  and moving it, the file is at every moment what it was at first or one of the
  whole contents, whatever trouble there is: `run_whole`. Where two of them do use
  it together, the one that moves it may move what the other has just emptied:
  `opened_again`.

  `calls_keep` says what one call of one of them can do; the run follows by
  induction on the order of the calls.
-/
import SandboxClient.Proofs.Files.AllOrNothing

namespace SandboxClient.Files

/-! ### Replacements under way

An order of calls is a list of the numbers of those that make them. -/

/-- Whether the temporary file has been opened and is still to be moved. -/
def Stage.usesTemporary : Stage → Bool
  | .restricting _ | .writing _ | .syncing | .moving => true
  | _ => false

/-- Replacements that are under way at once, and the disk that they share. -/
structure Writers where
  replacements : List Replacement
  disk : Disk

namespace Writers

def planned (p : Path) (contents : List (List UInt8)) (d : Disk) : Writers :=
  ⟨contents.map (Replacement.planned p), d⟩

/-- One of the replacements makes its next call. -/
def advance (s : Writers) (i : Nat) : Writers :=
  match s.replacements[i]? with
  | none => s
  | some r => ⟨s.replacements.set i (r.step s.disk).1, (r.step s.disk).2⟩

/-- The replacements make their calls in some order. -/
def run (s : Writers) (order : List Nat) : Writers := order.foldl advance s

theorem run_steps (n : Nat) (r : Replacement) (d : Disk) :
    run ⟨[r], d⟩ (List.replicate n 0) = ⟨[(r.steps n d).1], (r.steps n d).2⟩ := by
  induction n generalizing r d with
  | zero => rfl
  | succ n ih => exact ih (r.step d).1 (r.step d).2

/-- A replacement that nobody interrupts is the one that `replace` makes. -/
theorem run_uninterrupted (p : Path) (content : List UInt8) (d : Disk) :
    ((planned p [content] d).run (List.replicate enoughSteps 0)).disk = (replace p content d).2 := by
  rw [planned, List.map_cons, List.map_nil, run_steps]
  rfl

/-- At most one of the replacements uses the temporary file. -/
def Alone (s : Writers) : Prop :=
  s.replacements.Pairwise (fun r r' => ¬ (r.stage.usesTemporary ∧ r'.stage.usesTemporary))

/-- At most one of the replacements uses the temporary file at a time. -/
def TakeTurns : Writers → List Nat → Prop
  | s, [] => s.Alone
  | s, i :: order => s.Alone ∧ (s.advance i).TakeTurns order

instance (s : Writers) : Decidable s.Alone := inferInstanceAs (Decidable (List.Pairwise _ _))

instance decidableTakeTurns : (s : Writers) → (order : List Nat) → Decidable (s.TakeTurns order)
  | s, [] => inferInstanceAs (Decidable s.Alone)
  | s, i :: order =>
    have := decidableTakeTurns (s.advance i) order
    inferInstanceAs (Decidable (s.Alone ∧ (s.advance i).TakeTurns order))

theorem TakeTurns.alone {s : Writers} {order : List Nat} (h : s.TakeTurns order) : s.Alone := by
  cases order with
  | nil => exact h
  | cons i order => exact h.1

theorem TakeTurns.take {s : Writers} {order : List Nat} (h : s.TakeTurns order) (k : Nat) :
    s.TakeTurns (order.take k) := by
  induction order generalizing s k with
  | nil =>
    rw [List.take_nil]
    exact h
  | cons i order ih =>
    cases k with
    | zero => exact h.1
    | succ k => exact ⟨h.1, ih h.2 k⟩

theorem Alone.not_uses {s : Writers} {i j : Nat} {r r' : Replacement} (h : s.Alone) (hij : i ≠ j)
    (hi : s.replacements[i]? = some r) (hj : s.replacements[j]? = some r')
    (huses : r.stage.usesTemporary = true) : r'.stage.usesTemporary = false := by
  rw [Alone, List.pairwise_iff_getElem] at h
  obtain ⟨hi', rfl⟩ := List.getElem?_eq_some_iff.mp hi
  obtain ⟨hj', rfl⟩ := List.getElem?_eq_some_iff.mp hj
  rw [← Bool.not_eq_true]
  intro huses'
  rcases Nat.lt_or_gt_of_ne hij with hlt | hlt
  · exact h i j hi' hj' hlt ⟨huses, huses'⟩
  · exact h j i hj' hi' hlt ⟨huses', huses⟩

end Writers

/-! ### Calls that bring nothing new -/

/-- Paths lead where they led, and what is a file was the same file with the same content. -/
structure Disk.NothingNew (d d' : Disk) : Prop where
  find : ∀ (p : Path) (q : Place), d.find p = .ok q → d'.find p = .ok q
  files : ∀ q n content mode, d'.item? q = some (.file n content mode) →
    ∃ kept, d.item? q = some (.file n content kept)

section NothingNew

variable {d d' : Disk} {p : Path}

theorem Disk.NothingNew.refl (d : Disk) : d.NothingNew d :=
  ⟨fun _ _ hq => hq, fun _ _ _ mode hi => ⟨mode, hi⟩⟩

theorem Disk.NothingNew.counted (d : Disk) : d.NothingNew d.counted :=
  ⟨fun _ _ hq => (Disk.Keeps.counted d).find hq, fun _ _ _ mode hi => ⟨mode, hi⟩⟩

theorem makeDirectories_nothingNew {mode : Nat} {result : Except DiskFault Unit} (hd : d.Sound)
    (hrun : makeDirectories mode p d = (result, d')) : d.NothingNew d' := by
  have hspares : d.Spares (fun _ => True) d' := makeDirectories_spares hd hrun
  refine ⟨fun p q hq => hspares.find hq, ?_⟩
  have hfiles := makeDirectories_keeps
    (P := fun e => e.Sound ∧ ∀ q n content kept, e.item? q = some (.file n content kept) →
      d.item? q = some (.file n content kept))
    (fun e he => he.1) (fun e he => ⟨he.1.counted, he.2⟩) ?_ ⟨hd, fun _ _ _ _ hi => hi⟩ hrun
  · intro q n content kept hi
    exact ⟨kept, hfiles.2 q n content kept hi⟩
  · rintro e t ⟨he, hold⟩ hparent -
    refine ⟨he.putDirectory hparent mode, ?_⟩
    intro q n content kept hi
    rw [Disk.item?_put] at hi
    split at hi
    · cases hi
    · exact hold q n content kept hi

theorem setMode_nothingNew {mode : Nat} {result : Except DiskFault Unit} (hd : d.Sound)
    (hrun : setMode mode p d = (result, d')) : d.NothingNew d' := by
  have hspares : d.Spares (fun _ => False) d' :=
    (setMode_spares (fun _ _ _ _ h => h.elim) hd hrun).1
  refine ⟨fun p q hq => hspares.find hq, ?_⟩
  intro q m bytes kept hi
  cases result with
  | error fault =>
    rw [setMode_error hrun] at hi
    exact ⟨kept, hi⟩
  | ok u =>
    obtain ⟨-, t, -, ⟨n, content, old, hold, rfl⟩ | ⟨old, -, rfl⟩⟩ := setMode_eq_ok.mp hrun
    · rw [Disk.item?_put] at hi
      split at hi
      · rename_i hboth
        cases hi
        exact ⟨old, hboth.2 ▸ hold⟩
      · exact ⟨kept, hi⟩
    · rw [Disk.item?_put] at hi
      split at hi
      · cases hi
      · exact ⟨kept, hi⟩

theorem remove_nothingNew {result : Except DiskFault Unit} (hrun : remove p d = (result, d')) :
    d.NothingNew d' := by
  cases result with
  | error fault =>
    rw [remove_error hrun]
    exact .counted d
  | ok u =>
    obtain ⟨-, t, n, content, mode, ht, hi, rfl⟩ := remove_eq_ok.mp hrun
    have hkeeps := (Disk.Keeps.counted d).trans
      (Disk.Keeps.without (d := d.counted) (isDirectory_of_file hi))
    refine ⟨fun p q hq => hkeeps.find hq, ?_⟩
    intro q m bytes kept hi'
    rw [Disk.item?_without] at hi'
    split at hi'
    · cases hi'
    · exact ⟨kept, hi'⟩

end NothingNew

/-! ### One call

Each stage has a lemma of its own about its call. What a replacement relies on is spoilt by another
one only if both use the temporary file. -/

namespace Replacement

/-- What a replacement that uses the temporary file relies on: if there is a file, it is the one
that has been opened and it is empty, and once that has been written it has the whole content. -/
def Relies (r : Replacement) (d : Disk) : Prop :=
  match r.stage with
  | .restricting n | .writing n => ∃ t, d.find (temporary r.path) = .ok t ∧
      (∀ q, d.serial? q = some n → q = t) ∧
      ∀ m content mode, d.item? t = some (.file m content mode) → m = n ∧ content = []
  | .syncing | .moving => ∃ t, d.find (temporary r.path) = .ok t ∧
      ∀ m content mode, d.item? t = some (.file m content mode) → content = r.content
  | _ => True

variable {d d' : Disk} {r r' : Replacement}

theorem relies_of_not_uses (h : r.stage.usesTemporary = false) : r.Relies d := by
  unfold Relies
  cases hstage : r.stage <;> simp [hstage, Stage.usesTemporary] at h ⊢

theorem Relies.of_nothingNew (h : r.Relies d) (hnew : d.NothingNew d') : r.Relies d' := by
  have hserial : ∀ q n, d'.serial? q = some n → d.serial? q = some n := by
    intro q n hn
    obtain ⟨i, hi, hin⟩ := Option.bind_eq_some_iff.mp hn
    cases i with
    | directory mode => cases hin
    | file m content mode =>
      cases hin
      obtain ⟨kept, hold⟩ := hnew.files q _ content mode hi
      exact Disk.serial?_of_item? hold
  have hopened : ∀ n, (∃ t, d.find (temporary r.path) = .ok t ∧
        (∀ q, d.serial? q = some n → q = t) ∧
        ∀ m content mode, d.item? t = some (.file m content mode) → m = n ∧ content = []) →
      ∃ t, d'.find (temporary r.path) = .ok t ∧ (∀ q, d'.serial? q = some n → q = t) ∧
        ∀ m content mode, d'.item? t = some (.file m content mode) → m = n ∧ content = [] := by
    rintro n ⟨t, ht, hn, hempty⟩
    refine ⟨t, hnew.find _ _ ht, fun q hq => hn q (hserial q n hq), ?_⟩
    intro m content mode hi
    obtain ⟨kept, hold⟩ := hnew.files t m content mode hi
    exact hempty m content kept hold
  have hwritten : (∃ t, d.find (temporary r.path) = .ok t ∧
        ∀ m content mode, d.item? t = some (.file m content mode) → content = r.content) →
      ∃ t, d'.find (temporary r.path) = .ok t ∧
        ∀ m content mode, d'.item? t = some (.file m content mode) → content = r.content := by
    rintro ⟨t, ht, hwhole⟩
    refine ⟨t, hnew.find _ _ ht, ?_⟩
    intro m content mode hi
    obtain ⟨kept, hold⟩ := hnew.files t m content mode hi
    exact hwhole m content kept hold
  unfold Relies at h ⊢
  cases hstage : r.stage with
  | restricting n =>
    rw [hstage] at h
    exact hopened n h
  | writing n =>
    rw [hstage] at h
    exact hopened n h
  | syncing =>
    rw [hstage] at h
    exact hwritten h
  | moving =>
    rw [hstage] at h
    exact hwritten h
  | _ => trivial

theorem after_of_ok {α : Type} {next : α → Stage} {otherwise : DiskFault → Stage}
    {call : DiskCall α} {a : α} (h : call d = (.ok a, d')) :
    r.after next otherwise call d = ({ r with stage := next a }, d') := by
  have hrun : call.run d = (.ok a, d') := h
  unfold after
  rw [hrun]

/-- What one call of a replacement does for all of them: what the replacement relies on holds
again, the call brings nothing new unless the replacement used the temporary file before or uses
it now, and where its path may lead there is what was there or the whole content. -/
structure CallKeeps (r : Replacement) (d : Disk) (r' : Replacement) (d' : Disk) : Prop where
  sound : d'.Sound
  here : d'.here = d.here
  directories : ∀ q, d.isDirectory q = true → d'.isDirectory q = true
  relies : r'.Relies d'
  others : d.NothingNew d' ∨ r.stage.usesTemporary = true ∨ r'.stage.usesTemporary = true
  stored : ∀ q, r.path.MayLead q →
    d'.content? q = d.content? q ∨ d'.content? q = some r.content

theorem CallKeeps.of_spares (h : d.Spares r.path.MayLead d') (hrelies : r'.Relies d')
    (hothers : d.NothingNew d' ∨ r.stage.usesTemporary = true ∨ r'.stage.usesTemporary = true) :
    CallKeeps r d r' d' :=
  ⟨h.sound, h.here, h.directories, hrelies, hothers, fun q hq => Or.inl (h.content q hq)⟩

theorem CallKeeps.counted (hd : d.Sound) (hrelies : r'.Relies d) : CallKeeps r d r' d.counted :=
  .of_spares (.counted hd) (hrelies.of_nothingNew (.counted d)) (Or.inl (.counted d))

def NextKeeps (r : Replacement) (d : Disk) : Prop := CallKeeps r d (r.step d).1 (r.step d).2

section Stages

variable {p : Path} {content : List UInt8} {n : Nat}

theorem directory_keeps (hd : d.Sound) : NextKeeps ⟨p, content, .directory⟩ d := by
  refine after_cases (P := CallKeeps _ d) ?_ ?_
  · intro a d' hrun
    exact .of_spares (makeDirectories_spares hd hrun) (relies_of_not_uses rfl)
      (Or.inl (makeDirectories_nothingNew hd hrun))
  · intro fault d' hrun
    exact .of_spares (makeDirectories_spares hd hrun) (relies_of_not_uses rfl)
      (Or.inl (makeDirectories_nothingNew hd hrun))

/-- The file that has just been opened is empty, and no other one has its number. -/
theorem relies_of_opened {mode : Nat} (hd' : d'.Sound)
    (hrun : openEmpty mode (temporary p) d = (.ok n, d')) :
    Relies ⟨p, content, .restricting n⟩ d' := by
  obtain ⟨-, t, kept, ht, hi⟩ := openEmpty_left hrun
  refine ⟨t, ht, ?_, ?_⟩
  · intro q hq
    exact hd'.serial_inj q t n hq (Disk.serial?_of_item? hi)
  · intro m bytes mode hi'
    cases hi.symm.trans hi'
    exact ⟨rfl, rfl⟩

theorem opening_keeps (hd : d.Sound) : NextKeeps ⟨p, content, .opening⟩ d := by
  refine after_cases (P := CallKeeps _ d) ?_ ?_
  · intro n d' hrun
    obtain ⟨hspares, -⟩ := openEmpty_spares (leadsAside_mayLead p) hd hrun
    exact .of_spares hspares (relies_of_opened hspares.sound hrun) (Or.inr (Or.inr rfl))
  · intro fault d' hrun
    rw [openEmpty_error hrun]
    exact .counted hd (relies_of_not_uses rfl)

theorem restricting_keeps (hd : d.Sound) (h : Relies ⟨p, content, .restricting n⟩ d) :
    NextKeeps ⟨p, content, .restricting n⟩ d := by
  refine after_cases (P := CallKeeps _ d) ?_ ?_
  · intro a d' hrun
    have hnew := setMode_nothingNew hd hrun
    exact .of_spares (setMode_spares (leadsAside_mayLead p) hd hrun).1 (h.of_nothingNew hnew)
      (Or.inl hnew)
  · intro fault d' hrun
    rw [setMode_error hrun]
    exact .counted hd (relies_of_not_uses rfl)

/-- The file that is written does not stand where the path may lead. -/
theorem Relies.not_mayLead (hd : d.Sound) (h : Relies ⟨p, content, .writing n⟩ d) {q : Place}
    (hq : d.serial? q = some n) : ¬ p.MayLead q := by
  obtain ⟨t, ht, hn, -⟩ := h
  intro hmay
  obtain rfl := hn q hq
  have hdir := leadsAside_mayLead p d q hd ht hmay
  rw [Disk.isDirectory_of_serial? hq] at hdir
  cases hdir

/-- An empty file has the whole content once that has been written. -/
theorem Relies.of_written {u : Unit} (h : Relies ⟨p, content, .writing n⟩ d)
    (hrun : write n content d = (.ok u, d')) : Relies ⟨p, content, .syncing⟩ d' := by
  obtain ⟨t, ht, -, hempty⟩ := h
  obtain ⟨-, rfl⟩ := write_eq_ok.mp hrun
  have hkeeps := (Disk.Keeps.counted d).trans
    (Disk.Keeps.change d.counted n (writtenOver content))
  refine ⟨t, hkeeps.find ht, ?_⟩
  intro m bytes mode hi
  rw [Disk.item?_change, Option.map_eq_some_iff] at hi
  obtain ⟨i, hi, hchanged⟩ := hi
  cases i with
  | directory kept => cases hchanged
  | file k old kept =>
    obtain ⟨rfl, rfl⟩ := hempty k old kept hi
    simp only [Item.changed, if_true, Item.file.injEq, writtenOver_nil] at hchanged
    exact hchanged.2.1.symm

theorem writing_keeps (hd : d.Sound) (h : Relies ⟨p, content, .writing n⟩ d) :
    NextKeeps ⟨p, content, .writing n⟩ d := by
  have haway : ∀ q, d.serial? q = some n → ¬ p.MayLead q := fun q hq => h.not_mayLead hd hq
  refine after_cases (P := CallKeeps _ d) ?_ ?_
  · intro a d' hrun
    exact .of_spares (write_spares hd haway hrun) (h.of_written hrun) (Or.inr (Or.inl rfl))
  · intro fault d' hrun
    exact .of_spares (write_spares hd haway hrun) (relies_of_not_uses rfl) (Or.inr (Or.inl rfl))

theorem syncing_keeps (hd : d.Sound) (h : Relies ⟨p, content, .syncing⟩ d) :
    NextKeeps ⟨p, content, .syncing⟩ d := by
  refine after_cases (P := CallKeeps _ d) ?_ ?_
  · intro a d' hrun
    obtain ⟨-, rfl⟩ := beginWhole_eq_ok.mp hrun
    exact .counted hd h
  · intro fault d' hrun
    rw [beginWhole_error hrun]
    exact .counted hd (relies_of_not_uses rfl)

/-- What is moved to the path has the whole content. -/
theorem Relies.content?_of_moved {u : Unit} (h : Relies ⟨p, content, .moving⟩ d)
    (hrun : move (temporary p) p d = (.ok u, d')) {q : Place} (hq : d'.find p = .ok q) :
    d'.content? q = some content := by
  obtain ⟨t, ht, hwhole⟩ := h
  obtain ⟨-, s, -, n, bytes, mode, hs, -, hi, -⟩ := move_eq_ok.mp hrun
  obtain rfl : t = s := Except.ok.inj (ht.symm.trans hs)
  obtain ⟨-, r, hr, hi'⟩ := move_left hrun hs hi
  obtain rfl : q = r := Except.ok.inj (hq.symm.trans hr)
  obtain rfl : bytes = content := hwhole n bytes mode hi
  simp [Disk.content?, hi']

theorem moving_keeps (hd : d.Sound) (h : Relies ⟨p, content, .moving⟩ d) :
    NextKeeps ⟨p, content, .moving⟩ d := by
  refine after_cases (P := CallKeeps _ d) ?_ ?_
  · intro a d' hrun
    have hspares := move_spares (leadsAside_mayLead p) hd hrun
    refine ⟨hspares.sound, hspares.here, hspares.directories, relies_of_not_uses rfl,
      Or.inr (Or.inl rfl), ?_⟩
    intro q hq
    by_cases htarget : d'.find p = .ok q
    · exact Or.inr (h.content?_of_moved hrun htarget)
    · exact Or.inl (hspares.content q ⟨hq, fun hboth => htarget hboth.2⟩)
  · intro fault d' hrun
    rw [move_error hrun]
    exact .counted hd (relies_of_not_uses rfl)

theorem cleaning_keeps {cause : DiskFault} (hd : d.Sound) :
    NextKeeps ⟨p, content, .cleaning cause⟩ d := by
  refine after_cases (P := CallKeeps _ d) ?_ ?_
  · intro a d' hrun
    exact .of_spares (remove_spares (leadsAside_mayLead p) hd hrun) (relies_of_not_uses rfl)
      (Or.inl (remove_nothingNew hrun))
  · intro fault d' hrun
    exact .of_spares (remove_spares (leadsAside_mayLead p) hd hrun) (relies_of_not_uses rfl)
      (Or.inl (remove_nothingNew hrun))

end Stages

/-- One call, whatever becomes of it. -/
theorem calls_keep (hd : d.Sound) (h : r.Relies d) : NextKeeps r d := by
  obtain ⟨p, content, stage⟩ := r
  cases stage with
  | directory => exact directory_keeps hd
  | opening => exact opening_keeps hd
  | restricting n => exact restricting_keeps hd h
  | writing n => exact writing_keeps hd h
  | syncing => exact syncing_keeps hd h
  | moving => exact moving_keeps hd h
  | cleaning cause => exact cleaning_keeps hd
  | done => exact .of_spares (.refl hd) trivial (Or.inl (.refl d))
  | failed cause => exact .of_spares (.refl hd) trivial (Or.inl (.refl d))

end Replacement

/-! ### Whole runs -/

namespace Writers

/-- What holds of replacements that use the temporary file by turns. -/
structure Whole (p : Path) (contents : List (List UInt8)) (d₀ : Disk) (s : Writers) : Prop where
  sound : s.disk.Sound
  here : s.disk.here = d₀.here
  directories : ∀ q, d₀.isDirectory q = true → s.disk.isDirectory q = true
  same : ∀ r ∈ s.replacements, r.path = p ∧ r.content ∈ contents
  relies : ∀ r ∈ s.replacements, r.Relies s.disk
  stored : ∀ q, p.MayLead q → s.disk.content? q = d₀.content? q ∨
    ∃ content ∈ contents, s.disk.content? q = some content

variable {p : Path} {contents : List (List UInt8)} {d₀ : Disk} {s : Writers}

theorem whole_planned {d : Disk} (hd : d.Sound) : Whole p contents d (planned p contents d) := by
  refine ⟨hd, rfl, fun _ hq => hq, ?_, ?_, fun q _ => Or.inl rfl⟩
  · intro r hr
    obtain ⟨content, hcontent, rfl⟩ := List.mem_map.mp hr
    exact ⟨rfl, hcontent⟩
  · intro r hr
    obtain ⟨content, -, rfl⟩ := List.mem_map.mp hr
    exact Replacement.relies_of_not_uses rfl

theorem advance_whole (h : Whole p contents d₀ s) (i : Nat) (hnow : s.Alone)
    (hnext : (s.advance i).Alone) : Whole p contents d₀ (s.advance i) := by
  unfold advance at hnext ⊢
  cases hi : s.replacements[i]? with
  | none => exact h
  | some r =>
    simp only [hi] at hnext ⊢
    have hr := List.mem_of_getElem? hi
    obtain ⟨rfl, hcontent⟩ := h.same r hr
    have hcall := Replacement.calls_keep h.sound (h.relies r hr)
    have hnew : (s.replacements.set i (r.step s.disk).1)[i]? = some (r.step s.disk).1 := by
      rw [List.getElem?_set_self (List.getElem?_eq_some_iff.mp hi).1]
    refine ⟨hcall.sound, hcall.here.trans h.here,
      fun q hq => hcall.directories q (h.directories q hq), ?_, ?_, ?_⟩
    · intro r' hr'
      rcases List.mem_or_eq_of_mem_set hr' with hold | rfl
      · exact h.same r' hold
      · obtain ⟨hpath, hbytes⟩ := Replacement.same_step r s.disk
        exact ⟨hpath, hbytes ▸ hcontent⟩
    · intro r' hr'
      obtain ⟨j, hj⟩ := List.getElem?_of_mem hr'
      by_cases hij : i = j
      · rw [← hij, hnew] at hj
        cases hj
        exact hcall.relies
      · have hold : s.replacements[j]? = some r' := by
          rw [List.getElem?_set_ne hij] at hj
          exact hj
        rcases hcall.others with hnothing | huses | huses
        · exact (h.relies r' (List.mem_of_getElem? hold)).of_nothingNew hnothing
        · exact Replacement.relies_of_not_uses (hnow.not_uses hij hi hold huses)
        · exact Replacement.relies_of_not_uses (hnext.not_uses hij hnew hj huses)
    · intro q hq
      rcases hcall.stored q hq with hsame | hwhole
      · rw [hsame]
        exact h.stored q hq
      · exact Or.inr ⟨r.content, hcontent, hwhole⟩

theorem Whole.find (h : Whole p contents d₀ s) {q : Place} (hq : d₀.find p = .ok q) :
    s.disk.find p = .ok q :=
  Disk.find_of_isDirectory h.here h.directories hq

theorem whole_run (order : List Nat) (h : Whole p contents d₀ s) (hturns : s.TakeTurns order) :
    Whole p contents d₀ (s.run order) := by
  induction order generalizing s with
  | nil => exact h
  | cons i order ih =>
    exact ih (advance_whole h i hturns.1 hturns.2.alone) hturns.2

/-- **Files are whole while the temporary one is used by turns.** Wherever the path leads after so
many calls, there is what was there at first or one of the contents. -/
theorem run_whole {d : Disk} {order : List Nat} (hd : d.Sound)
    (hturns : (planned p contents d).TakeTurns order) (k : Nat) {q : Place}
    (hq : ((planned p contents d).run (order.take k)).disk.find p = .ok q) :
    ((planned p contents d).run (order.take k)).disk.content? q = d.content? q ∨
      ∃ content ∈ contents,
        ((planned p contents d).run (order.take k)).disk.content? q = some content := by
  have hwhole := whole_run (order.take k) (whole_planned hd) (hturns.take k)
  exact hwhole.stored q ⟨_, hwhole.sound, hq⟩

/-! ### Two at once

Each of the two succeeds alone; the order is what does the damage. -/

theorem advance_first (r r' : Replacement) (d : Disk) :
    advance ⟨[r, r'], d⟩ 0 = ⟨[(r.step d).1, r'], (r.step d).2⟩ := rfl

theorem advance_second (r r' : Replacement) (d : Disk) :
    advance ⟨[r, r'], d⟩ 1 = ⟨[r, (r'.step d).1], (r'.step d).2⟩ := rfl

/-- The calls of two replacements, of which the second opens the temporary file right before the
first moves it. -/
def openedAgain : List Nat := [0, 0, 0, 0, 0, 1, 1, 0]

/-- **Used together, the temporary file may be moved empty.** Whatever two contents replace a file
that each of them alone could replace, there is an order of their calls after which the path leads
to an empty file, and every call has succeeded. -/
theorem opened_again {d : Disk} (h : d.Ready p) (first second : List UInt8) :
    ∃ d' q, ((planned p [first, second] d).run openedAgain).disk = d' ∧
      d'.find p = .ok q ∧ d'.content? q = some [] ∧ ∀ k, d'.trouble k = none := by
  obtain ⟨d₁, n, d₂, d₃, d₄, q, t, mode, hmake, hopen, hmode, hwrite, hsync, hno, hq, hqd, ht,
    hi⟩ := writing_succeeds h first
  -- the second one finds the directory and the temporary file of the first one
  have hmake' : makeDirectories privateDirectory p.parent d₄.counted = (.ok (), d₄.counted) := by
    simp only [makeDirectories, bind_eq_ok, get_eq_ok]
    exact ⟨_, _, ⟨rfl, rfl⟩, makeDirectoriesFrom_of_walk hq⟩
  obtain ⟨m, d₆, hopen'⟩ : ∃ m d₆, openEmpty privateFile (temporary p) d₄.counted = (.ok m, d₆) :=
    openEmpty_succeeds (hno _) ht (isDirectory_of_file hi)
  obtain ⟨hkeeps, t', kept, ht', hi'⟩ := openEmpty_left hopen'
  have hno' : ∀ k, d₆.trouble k = none := by
    intro k
    rw [hkeeps.trouble]
    exact hno k
  obtain ⟨d₇, hmove⟩ : ∃ d₇, move (temporary p) p d₆ = (.ok (), d₇) :=
    ⟨_, move_eq_ok.mpr ⟨hno' _, t', q, m, [], kept, ht', hkeeps.find hq, hi',
      (hkeeps.isDirectory q).trans hqd, rfl⟩⟩
  obtain ⟨hkeeps', q', hq', hi'⟩ := move_left hmove ht' hi'
  have hlast : ((planned p [first, second] d).run openedAgain).disk = d₇ := by
    simp only [planned, List.map_cons, List.map_nil, Replacement.planned, run, openedAgain,
      List.foldl_cons, List.foldl_nil, advance_first, advance_second, Replacement.step,
      Replacement.after_of_ok hmake, Replacement.after_of_ok hopen,
      Replacement.after_of_ok hmode, Replacement.after_of_ok hwrite,
      Replacement.after_of_ok hsync, Replacement.after_of_ok hmake',
      Replacement.after_of_ok hopen', Replacement.after_of_ok hmove]
  refine ⟨d₇, q', hlast, hq', by simp [Disk.content?, hi'], ?_⟩
  intro k
  rw [hkeeps'.trouble]
  exact hno' k

end Writers

end SandboxClient.Files
