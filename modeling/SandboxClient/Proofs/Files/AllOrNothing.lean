/-
  SandboxClient/Proofs/Files/AllOrNothing.lean
  ============================================
  **All or nothing.** A replacement has ended after at most seven calls, in one of
  two ways. It is done, and then the path leads to the whole content and nothing
  stands where the temporary file was: `replace_done`. Or it has failed, at
  whatever call, and then whatever the path leads to is what it was, and the
  removal of the temporary file has been tried unless none was opened:
  `replace_undone`.
-/
import SandboxClient.Proofs.Files.Replaced
import SandboxClient.Proofs.Files.Spared

namespace SandboxClient.Files

/-! ### Where a path may lead -/

section Places

variable {p : Path} {q : Place}

/-- A path that ends with a name for a file. -/
def Path.HasFileName (p : Path) : Prop := ∃ name, p.names.getLast? = some name ∧ name ≠ above

theorem temporary_ne (h : p.HasFileName) : temporary p ≠ p := by
  obtain ⟨name, hlast, hname⟩ := h
  intro heq
  have htmp := getLast?_temporary hlast hname
  rw [heq, hlast] at htmp
  exact stem_append_ne (by decide) (Option.some.inj htmp).symm

theorem temporary_eq_self (h : ¬ p.HasFileName) : temporary p = p := by
  unfold temporary Path.withEnding
  cases hlast : p.names.getLast? with
  | none => rfl
  | some name =>
    have hname : name = above := by
      apply Classical.byContradiction
      intro hne
      exact h ⟨name, hlast, hne⟩
    simp [hname]

/-- The temporary file does not stand where the path leads, on whatever disk. -/
theorem ne_of_find {d e : Disk} {t : Place} (h : p.HasFileName) (hq : d.find p = .ok q)
    (ht : e.find (temporary p) = .ok t) : t ≠ q := by
  obtain ⟨name, hlast, hname⟩ := h
  rintro rfl
  have hend : stem name ++ "." ++ temporaryEnding ≠ above := by
    intro heq
    have hdots := congrArg (fun s : String => s.toList.length) heq
    simp [String.toList_append, above, temporaryEnding] at hdots
  have hboth := (getLast?_of_find hlast hname hq).symm.trans
    (getLast?_of_find (getLast?_temporary hlast hname) hend ht)
  exact stem_append_ne (by decide) (Option.some.inj hboth).symm

/-- A path may lead to a place: it does on some sound disk. -/
def Path.MayLead (p : Path) (q : Place) : Prop := ∃ d : Disk, d.Sound ∧ d.find p = .ok q

theorem leadsAside_mayLead (p : Path) : LeadsAside p.MayLead (temporary p) := by
  rintro d t hd ht ⟨e, -, hp⟩
  by_cases h : p.HasFileName
  · exact absurd rfl (ne_of_find h hp ht)
  · rw [temporary_eq_self h] at ht
    rcases find_cases hd ht with hdir | ⟨name, hname, hlast, -⟩
    · exact hdir
    · exact absurd ⟨name, hlast, hname⟩ h

end Places

/-! ### The end of a replacement

What has not ended says nothing of itself, so the statement about an end is carried along all
stages. -/

/-- How many calls are made at most from a stage on. -/
def Stage.left : Stage → Nat
  | .directory => 7
  | .opening => 6
  | .restricting _ => 5
  | .writing _ => 4
  | .syncing => 3
  | .moving => 2
  | .cleaning _ => 1
  | .done | .failed _ => 0

namespace Replacement

theorem left_step (r : Replacement) (d : Disk) : (r.step d).1.stage.left ≤ r.stage.left - 1 := by
  unfold step
  cases hstage : r.stage with
  | done => simp [hstage, Stage.left]
  | failed cause => simp [hstage, Stage.left]
  | _ =>
    refine after_cases (P := fun r _ => r.stage.left ≤ _) ?_ ?_
    · intro a d' _
      simp [Stage.left]
    · intro fault d' _
      simp [Stage.left]

theorem left_steps (n : Nat) (r : Replacement) (d : Disk) :
    (r.steps n d).1.stage.left ≤ r.stage.left - n := by
  induction n generalizing r d with
  | zero => exact Nat.le_refl _
  | succ n ih =>
    have hrest := ih (r.step d).1 (r.step d).2
    have hstep := left_step r d
    simp only [steps]
    omega

/-- What a replacement that began on another disk has done when it fails: the directory could not
be made, or it has tried to remove the temporary file. -/
structure Ending (d₀ : Disk) (r : Replacement) (d : Disk) : Prop where
  start : r.stage = .directory → d = d₀
  failed : ∀ cause, r.stage = .failed cause →
    makeDirectories privateDirectory r.path.parent d₀ = (.error cause, d) ∨
      ∃ e removal, remove (temporary r.path) e = (removal, d)

/-- A stage between the first and the last says nothing yet. -/
theorem Ending.of_between {d₀ d : Disk} {r : Replacement} (hstart : r.stage ≠ .directory)
    (hfailed : ∀ cause, r.stage ≠ .failed cause) : Ending d₀ r d :=
  ⟨fun h => absurd h hstart, fun cause h => absurd h (hfailed cause)⟩

theorem step_ending {d₀ d : Disk} {r : Replacement} (h : Ending d₀ r d) :
    Ending d₀ (r.step d).1 (r.step d).2 := by
  obtain ⟨p, content, stage⟩ := r
  cases stage with
  | directory =>
    refine after_cases (P := Ending d₀) ?_ ?_
    · intro a d' hrun
      exact .of_between (by simp) (by simp)
    · intro fault d' hrun
      obtain rfl := h.start rfl
      refine ⟨fun hstage => absurd hstage (by simp), ?_⟩
      rintro cause ⟨⟩
      exact Or.inl hrun
  | cleaning cause =>
    refine after_cases (P := Ending d₀) ?_ ?_
    · intro a d' hrun
      exact ⟨fun hstage => absurd hstage (by simp), fun _ _ => Or.inr ⟨d, _, hrun⟩⟩
    · intro fault d' hrun
      exact ⟨fun hstage => absurd hstage (by simp), fun _ _ => Or.inr ⟨d, _, hrun⟩⟩
  | done => exact h
  | failed cause => exact h
  | _ =>
    refine after_cases (P := Ending d₀) ?_ ?_
    · intro a d' hrun
      exact .of_between (by simp) (by simp)
    · intro fault d' hrun
      exact .of_between (by simp) (by simp)

theorem steps_ending {d₀ d : Disk} {r : Replacement} (n : Nat) (h : Ending d₀ r d) :
    Ending d₀ (r.steps n d).1 (r.steps n d).2 := by
  induction n generalizing r d with
  | zero => exact h
  | succ n ih => exact ih (step_ending h)

end Replacement

/-- A replacement that fails could not make the directory, or has tried to remove the temporary
file last. -/
theorem replace_eq_error {p : Path} {content : List UInt8} {d d' : Disk} {fault : DiskFault}
    (h : replace p content d = (.error fault, d')) :
    makeDirectories privateDirectory p.parent d = (.error fault, d') ∨
      ∃ e removal, remove (temporary p) e = (removal, d') := by
  have hending : Replacement.Ending d (.planned p content) d :=
    ⟨fun _ => rfl, fun cause hstage => by cases hstage⟩
  have hlast := Replacement.steps_ending enoughSteps hending
  have hleft := Replacement.left_steps enoughSteps (.planned p content) d
  have hpath := Replacement.path_steps enoughSteps (.planned p content) d
  have hrun : (((Replacement.planned p content).steps enoughSteps d).1.stage.outcome,
      ((Replacement.planned p content).steps enoughSteps d).2) = (.error fault, d') := h
  generalize (Replacement.planned p content).steps enoughSteps d = last at *
  obtain ⟨⟨path, bytes, stage⟩, e⟩ := last
  obtain ⟨houtcome, rfl⟩ := Prod.mk.inj hrun
  obtain rfl : path = p := hpath
  cases stage with
  | failed cause =>
    obtain rfl : cause = fault := Except.error.inj houtcome
    exact hlast.failed cause rfl
  | done => cases houtcome
  | _ => simp [Stage.left, Replacement.planned, enoughSteps] at hleft

/-! ### What is left at the path of the temporary file -/

/-- Nothing stands where a path leads. -/
def Disk.Lacks (d : Disk) (p : Path) : Prop := ∀ t, d.find p = .ok t → d.item? t = none

section Lacking

variable {d d' : Disk} {p target : Path}

theorem remove_lacks (h : remove p d = (.ok (), d')) : d'.Lacks p := by
  obtain ⟨-, q, n, content, mode, hq, hi, rfl⟩ := remove_eq_ok.mp h
  have hfile : d.isDirectory q = false := isDirectory_of_file hi
  have hkeeps := (Disk.Keeps.counted d).trans (Disk.Keeps.without (d := d.counted) hfile)
  intro t ht
  obtain rfl : q = t := Except.ok.inj ((hkeeps.find hq).symm.trans ht)
  rw [Disk.item?_without, if_pos ⟨ne_nil_of_isDirectory hfile, rfl⟩]

theorem move_lacks (hplaces : ∀ s t, d.find p = .ok s → d.find target = .ok t → s ≠ t)
    (h : move p target d = (.ok (), d')) : d'.Lacks p := by
  obtain ⟨-, s, t, n, content, mode, hs, ht, hi, hdir, rfl⟩ := move_eq_ok.mp h
  have hfile : d.isDirectory s = false := isDirectory_of_file hi
  have hwithout := (Disk.Keeps.counted d).trans (Disk.Keeps.without (d := d.counted) hfile)
  have hput := hwithout.trans
    (Disk.Keeps.put ((hwithout.isDirectory t).trans hdir) n content mode)
  intro s' hs'
  obtain rfl : s = s' := Except.ok.inj ((hput.find hs).symm.trans hs')
  rw [Disk.item?_put, if_neg (fun hboth => hplaces s t hs ht hboth.2), Disk.item?_without,
    if_pos ⟨ne_nil_of_isDirectory hfile, rfl⟩]

end Lacking

/-! ### The two ends

Both speak of the disk after the last call, whatever trouble the calls before it met. -/

section Ends

variable {d d' : Disk} {p : Path} {content : List UInt8}

/-- **All.** A replacement that succeeds leaves the whole content and no temporary file. -/
theorem replace_done (hname : p.HasFileName) (h : replace p content d = (.ok (), d')) :
    (∃ q, d'.find p = .ok q ∧ d'.content? q = some content) ∧ d'.Lacks (temporary p) := by
  constructor
  · obtain ⟨q, n, mode, hq, hi⟩ := replace_content h
    exact ⟨q, hq, by simp [Disk.content?, hi]⟩
  · obtain ⟨-, -, -, -, -, d₅, -, -, -, -, -, hmove⟩ := replace_eq_ok.mp h
    refine move_lacks ?_ hmove
    intro s t hs ht
    exact ne_of_find hname ht hs

/-- **Nothing.** A replacement that fails leaves the content of every file that the path leads to
as it was, and the path leads where it led. If the temporary file could be removed, there is none,
and if not so much as the directory could be made, none has been opened. -/
theorem replace_undone {fault : DiskFault} (hd : d.Sound)
    (h : replace p content d = (.error fault, d')) :
    d.Spares p.MayLead d' ∧
      (makeDirectories privateDirectory p.parent d = (.error fault, d') ∨
        ∃ e removal, remove (temporary p) e = (removal, d') ∧
          (removal = .ok () → d'.Lacks (temporary p))) := by
  constructor
  · have hspares := replace_spares (leadsAside_mayLead p) hd h
    refine ⟨hspares.sound, hspares.here, hspares.directories, ?_⟩
    intro q hq
    exact hspares.content q ⟨hq, fun hdone => by cases hdone.1⟩
  · rcases replace_eq_error h with hmake | ⟨e, removal, hremove⟩
    · exact Or.inl hmake
    · refine Or.inr ⟨e, removal, hremove, ?_⟩
      rintro rfl
      exact remove_lacks hremove

end Ends

end SandboxClient.Files
