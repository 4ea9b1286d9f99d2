/-
  SandboxClient/Proofs/Files/Replaced.lean
  ========================================
  **Replaced files.** A replacement succeeds when each of its six calls does, in
  their order (`replace_eq_ok`). From this it follows what the path leads to
  after a success (`replace_content`), and that on a disk that is ready for the
  file there is one (`replace_succeeds`).
-/
import SandboxClient.Files.Replacing
import SandboxClient.Proofs.Files.Calls

namespace SandboxClient.Files

/-! ### Calls of a replacement -/

namespace Replacement

/-- The replacement ends well after so many steps, and leaves a disk behind. -/
def Succeeds (r : Replacement) (n : Nat) (d d' : Disk) : Prop :=
  (r.steps n d).1.stage.outcome = .ok () ∧ (r.steps n d).2 = d'

/-- What has failed does not succeed any more. -/
theorem not_succeeds_failed (p : Path) (content : List UInt8) (cause : DiskFault) (n : Nat)
    (d d' : Disk) : ¬ Succeeds ⟨p, content, .failed cause⟩ n d d' := by
  have hsame : (steps n ⟨p, content, .failed cause⟩ d).1 = ⟨p, content, .failed cause⟩ := by
    induction n with
    | zero => rfl
    | succ n ih => exact ih
  rintro ⟨h, -⟩
  rw [hsame] at h
  cases h

theorem not_succeeds_cleaning (p : Path) (content : List UInt8) (cause : DiskFault) (n : Nat)
    (d d' : Disk) : ¬ Succeeds ⟨p, content, .cleaning cause⟩ n d d' := by
  cases n with
  | zero =>
    rintro ⟨h, -⟩
    cases h
  | succ n =>
    -- whether the temporary file can be removed or not, the cause is kept
    have hstep : (step ⟨p, content, .cleaning cause⟩ d).1 = ⟨p, content, .failed cause⟩ := by
      simp only [step, after]
      split <;> rfl
    rintro ⟨h, hd⟩
    refine not_succeeds_failed p content cause n (step ⟨p, content, .cleaning cause⟩ d).2 d' ?_
    rw [← hstep]
    exact ⟨h, hd⟩

/-- A replacement succeeds when its next call does, and it succeeds from there. -/
theorem succeeds_after {α : Type} {r : Replacement} {next : α → Stage}
    {otherwise : DiskFault → Stage} {call : DiskCall α} {n : Nat} {d d' : Disk}
    (hstep : r.step d = r.after next otherwise call d)
    (hfail : ∀ fault d, ¬ Succeeds { r with stage := otherwise fault } n d d') :
    Succeeds r (n + 1) d d' ↔
      ∃ a d₁, call d = (.ok a, d₁) ∧ Succeeds { r with stage := next a } n d₁ d' := by
  have hsteps : Succeeds r (n + 1) d d' ↔ Succeeds (r.step d).1 n (r.step d).2 d' := Iff.rfl
  rw [hsteps, hstep]
  unfold after
  rcases hcall : call d with ⟨fault | a, d₁⟩
  · have hrun : call.run d = (.error fault, d₁) := hcall
    rw [hrun]
    constructor
    · intro h
      exact absurd h (hfail fault d₁)
    · rintro ⟨a, d₂, h, -⟩
      cases h
  · have hrun : call.run d = (.ok a, d₁) := hcall
    rw [hrun]
    constructor
    · intro h
      exact ⟨a, d₁, rfl, h⟩
    · rintro ⟨a', d₂, h, hsucc⟩
      cases h
      exact hsucc

end Replacement

theorem replace_eq_ok {p : Path} {content : List UInt8} {d d' : Disk} :
    replace p content d = (.ok (), d') ↔ ∃ d₁ n d₂ d₃ d₄ d₅,
      makeDirectories privateDirectory p.parent d = (.ok (), d₁) ∧
      openEmpty privateFile (temporary p) d₁ = (.ok n, d₂) ∧
      setMode privateFile (temporary p) d₂ = (.ok (), d₃) ∧
      write n content d₃ = (.ok (), d₄) ∧ sync d₄ = (.ok (), d₅) ∧
      move (temporary p) p d₅ = (.ok (), d') := by
  have hreplace : replace p content d = (.ok (), d') ↔
      Replacement.Succeeds (.planned p content) enoughSteps d d' := Prod.mk.injEq _ _ _ _ ▸ Iff.rfl
  have hfailed := fun fault n d => Replacement.not_succeeds_failed p content fault n d d'
  have hcleaning := fun fault n d => Replacement.not_succeeds_cleaning p content fault n d d'
  rw [hreplace]
  constructor
  · intro h
    obtain ⟨⟨⟩, d₁, hmake, h⟩ := (Replacement.succeeds_after rfl (hfailed · 6)).mp h
    obtain ⟨n, d₂, hopen, h⟩ := (Replacement.succeeds_after rfl (hcleaning · 5)).mp h
    obtain ⟨⟨⟩, d₃, hmode, h⟩ := (Replacement.succeeds_after rfl (hcleaning · 4)).mp h
    obtain ⟨⟨⟩, d₄, hwrite, h⟩ := (Replacement.succeeds_after rfl (hcleaning · 3)).mp h
    obtain ⟨⟨⟩, d₅, hsync, h⟩ := (Replacement.succeeds_after rfl (hcleaning · 2)).mp h
    obtain ⟨⟨⟩, d₆, hmove, -, rfl⟩ := (Replacement.succeeds_after rfl (hcleaning · 1)).mp h
    exact ⟨d₁, n, d₂, d₃, d₄, d₅, hmake, hopen, hmode, hwrite, hsync, hmove⟩
  · rintro ⟨d₁, n, d₂, d₃, d₄, d₅, hmake, hopen, hmode, hwrite, hsync, hmove⟩
    refine (Replacement.succeeds_after rfl (hfailed · 6)).mpr ⟨(), d₁, hmake, ?_⟩
    refine (Replacement.succeeds_after rfl (hcleaning · 5)).mpr ⟨n, d₂, hopen, ?_⟩
    refine (Replacement.succeeds_after rfl (hcleaning · 4)).mpr ⟨(), d₃, hmode, ?_⟩
    refine (Replacement.succeeds_after rfl (hcleaning · 3)).mpr ⟨(), d₄, hwrite, ?_⟩
    refine (Replacement.succeeds_after rfl (hcleaning · 2)).mpr ⟨(), d₅, hsync, ?_⟩
    exact (Replacement.succeeds_after rfl (hcleaning · 1)).mpr ⟨(), d', hmove, rfl, rfl⟩

/-! ### What the calls leave behind -/

section Left

variable {d d' : Disk} {p q t : Path} {s : Place} {n mode kept : Nat} {content octets : List UInt8}

theorem isDirectory_of_file (hi : d.item? s = some (.file n content mode)) :
    d.isDirectory s = false := by
  simp [Disk.isDirectory, hi]

/-- At the root stands a directory. -/
theorem ne_nil_of_isDirectory (hd : d.isDirectory s = false) : s ≠ [] := by
  rintro rfl
  cases hd

theorem openEmpty_left (h : openEmpty mode p d = (.ok n, d')) :
    d.Keeps d' ∧ ∃ s kept, d'.find p = .ok s ∧ d'.item? s = some (.file n [] kept) := by
  obtain ⟨-, s, hs, ⟨content, kept, hi, rfl⟩ | ⟨hi, rfl, rfl⟩⟩ := openEmpty_eq_ok.mp h
  · have hd : d.isDirectory s = false := isDirectory_of_file hi
    have hkeeps := (Disk.Keeps.counted d).trans (Disk.Keeps.put (d := d.counted) hd n [] kept)
    refine ⟨hkeeps, s, kept, hkeeps.find hs, ?_⟩
    rw [Disk.item?_put, if_pos ⟨ne_nil_of_isDirectory hd, rfl⟩]
  · have hd : d.isDirectory s = false := by simp [Disk.isDirectory, hi]
    have hput := (Disk.Keeps.counted d).trans
      (Disk.Keeps.put (d := d.counted) hd d.nextSerial [] mode)
    have hkeeps : d.Keeps { d.counted.put s (.file d.nextSerial [] mode) with
        nextSerial := d.nextSerial + 1 } := ⟨hput.here, hput.trouble, hput.isDirectory⟩
    refine ⟨hkeeps, s, mode, hkeeps.find hs, ?_⟩
    exact (Disk.item?_put d.counted s s _).trans (if_pos ⟨ne_nil_of_isDirectory hd, rfl⟩)

theorem setMode_left (h : setMode mode p d = (.ok (), d')) (hs : d.find p = .ok s)
    (hi : d.item? s = some (.file n content kept)) :
    d.Keeps d' ∧ d'.item? s = some (.file n content mode) := by
  obtain ⟨-, s', hs', hput⟩ := setMode_eq_ok.mp h
  rw [hs, Except.ok.injEq] at hs'
  subst hs'
  rw [hi] at hput
  have hd : d.isDirectory s = false := isDirectory_of_file hi
  rcases hput with ⟨n', content', kept', heq, rfl⟩ | ⟨kept', heq, -⟩
  · cases heq
    refine ⟨(Disk.Keeps.counted d).trans (Disk.Keeps.put (d := d.counted) hd n content mode), ?_⟩
    rw [Disk.item?_put, if_pos ⟨ne_nil_of_isDirectory hd, rfl⟩]
  · cases heq

theorem write_left (h : write n octets d = (.ok (), d'))
    (hi : d.item? s = some (.file n content mode)) :
    d.Keeps d' ∧ d'.item? s = some (.file n (writtenOver octets content) mode) := by
  obtain ⟨-, rfl⟩ := write_eq_ok.mp h
  refine ⟨(Disk.Keeps.counted d).trans (Disk.Keeps.change d.counted n _), ?_⟩
  rw [Disk.item?_change, Disk.counted_item?, hi]
  simp [Item.changed]

theorem move_left (h : move p q d = (.ok (), d')) (hs : d.find p = .ok s)
    (hi : d.item? s = some (.file n content mode)) :
    d.Keeps d' ∧ ∃ t, d'.find q = .ok t ∧ d'.item? t = some (.file n content mode) := by
  obtain ⟨-, s', t, n', content', mode', hs', ht, hi', hd, rfl⟩ := move_eq_ok.mp h
  rw [hs, Except.ok.injEq] at hs'
  subst hs'
  rw [hi] at hi'
  cases hi'
  have hwithout := (Disk.Keeps.counted d).trans
    (Disk.Keeps.without (d := d.counted) (isDirectory_of_file hi))
  have hd' : (d.counted.without s).isDirectory t = false := (hwithout.isDirectory t).trans hd
  have hkeeps := hwithout.trans (Disk.Keeps.put hd' n content mode)
  refine ⟨hkeeps, t, hkeeps.find ht, ?_⟩
  rw [Disk.item?_put, if_pos ⟨ne_nil_of_isDirectory hd, rfl⟩]

end Left

/-! ### Success

From a disk that is ready each call succeeds and leaves a disk on which the next one does. -/

section Success

variable {d d' : Disk} {p : Path} {content : List UInt8}

/-- After a success the path leads to a file that has the content and nothing else. -/
theorem replace_content (h : replace p content d = (.ok (), d')) :
    ∃ q n mode, d'.find p = .ok q ∧ d'.item? q = some (.file n content mode) := by
  obtain ⟨d₁, n, d₂, d₃, d₄, d₅, -, hopen, hmode, hwrite, hsync, hmove⟩ := replace_eq_ok.mp h
  -- the file that is opened is followed by its serial number until it is moved
  obtain ⟨-, t, kept, ht, hi⟩ := openEmpty_left hopen
  obtain ⟨hkeeps₃, hi⟩ := setMode_left hmode ht hi
  obtain ⟨hkeeps₄, hi⟩ := write_left hwrite hi
  obtain ⟨-, rfl⟩ := beginWhole_eq_ok.mp hsync
  have ht₅ : d₄.counted.find (temporary p) = .ok t :=
    (hkeeps₃.trans (hkeeps₄.trans (Disk.Keeps.counted d₄))).find ht
  obtain ⟨-, q, hq, hi⟩ := move_left hmove ht₅ (Disk.counted_item? d₄ t ▸ hi)
  exact ⟨q, n, privateFile, hq, writtenOver_nil content ▸ hi⟩

/-- A disk that is ready for the file that a path leads to: no trouble awaits any call, the
directories on the way are there or can be made, and no directory stands where the file or the
temporary one goes. -/
structure Disk.Ready (d : Disk) (p : Path) : Prop where
  untroubled : ∀ n, d.trouble n = none
  places : ∃ d₁ q t, makeDirectories privateDirectory p.parent d = (.ok (), d₁) ∧
    d₁.find p = .ok q ∧ d₁.isDirectory q = false ∧
    d₁.find (temporary p) = .ok t ∧ d₁.isDirectory t = false

theorem makeDirectoriesFrom_trouble {mode : Nat} {names : List String} {q : Place}
    (h : makeDirectoriesFrom mode q names d = (.ok (), d')) : d'.trouble = d.trouble := by
  induction names generalizing q d with
  | nil =>
    obtain ⟨-, rfl⟩ := pure_eq_ok.mp h
    rfl
  | cons name names ih =>
    simp only [makeDirectoriesFrom, bind_eq_ok, get_eq_ok] at h
    obtain ⟨_, _, ⟨hd, hd'⟩, h⟩ := h
    rw [hd, hd'] at h
    generalize (if name == above then q.dropLast else q ++ [name]) = next at h
    cases hi : d.item? next with
    | none =>
      simp only [hi, bind_eq_ok, beginWhole_eq_ok, modify_eq_ok] at h
      obtain ⟨_, _, ⟨-, rfl⟩, _, _, rfl, h⟩ := h
      have hput := ih h
      exact hput
    | some i =>
      rw [hi] at h
      cases i with
      | file n content mode => exact absurd h throw_ne_ok
      | directory mode => exact ih h

theorem makeDirectories_trouble {mode : Nat} (h : makeDirectories mode p d = (.ok (), d')) :
    d'.trouble = d.trouble := by
  simp only [makeDirectories, bind_eq_ok, get_eq_ok] at h
  obtain ⟨_, _, ⟨rfl, rfl⟩, hfrom⟩ := h
  exact makeDirectoriesFrom_trouble hfrom

/-- Where all directories on a way are there, none is made. -/
theorem makeDirectoriesFrom_of_walk {mode : Nat} {names : List String} {q r : Place}
    (h : d.walk q names = .ok r) : makeDirectoriesFrom mode q names.dropLast d = (.ok (), d) := by
  induction names generalizing q with
  | nil => rfl
  | cons name names ih =>
    cases names with
    | nil => rfl
    | cons name' names =>
      obtain ⟨-, hwalk⟩ := Disk.walk_cons_eq_ok.mp h
      have hrest := ih hwalk
      rw [List.dropLast_cons_cons]
      simp only [makeDirectoriesFrom, bind_eq_ok, get_eq_ok]
      refine ⟨d, d, ⟨rfl, rfl⟩, ?_⟩
      generalize (if name == above then q.dropLast else q ++ [name]) = next at hwalk hrest
      obtain ⟨mode, hi⟩ := Disk.isDirectory_iff.mp (Disk.walk_cons_eq_ok.mp hwalk).1
      rw [hi]
      exact hrest

/-- A disk is ready for a file in a directory that is there. -/
theorem Disk.ready_of_find (htrouble : ∀ n, d.trouble n = none) {q t : Place}
    (hq : d.find p = .ok q) (hqd : d.isDirectory q = false) (ht : d.find (temporary p) = .ok t)
    (htd : d.isDirectory t = false) : d.Ready p := by
  refine ⟨htrouble, d, q, t, ?_, hq, hqd, ht, htd⟩
  simp only [makeDirectories, bind_eq_ok, get_eq_ok]
  exact ⟨d, d, ⟨rfl, rfl⟩, makeDirectoriesFrom_of_walk hq⟩

theorem openEmpty_succeeds {mode : Nat} {t : Place} (htrouble : d.trouble d.calls = none)
    (ht : d.find p = .ok t) (hd : d.isDirectory t = false) :
    ∃ n d', openEmpty mode p d = (.ok n, d') := by
  cases hi : d.item? t with
  | none => exact ⟨_, _, openEmpty_eq_ok.mpr ⟨htrouble, t, ht, Or.inr ⟨hi, rfl, rfl⟩⟩⟩
  | some i =>
    cases i with
    | directory mode =>
      rw [Disk.isDirectory_iff.mpr ⟨mode, hi⟩] at hd
      cases hd
    | file n content kept =>
      exact ⟨n, _, openEmpty_eq_ok.mpr ⟨htrouble, t, ht, Or.inl ⟨content, kept, hi, rfl⟩⟩⟩

/-- After a success no directory stands where the file is or where the temporary one goes, and
calls meet the trouble that awaited them before. -/
theorem replace_leaves_room (h : replace p content d = (.ok (), d')) :
    d'.trouble = d.trouble ∧ (∃ q, d'.find p = .ok q ∧ d'.isDirectory q = false) ∧
      ∃ t, d'.find (temporary p) = .ok t ∧ d'.isDirectory t = false := by
  obtain ⟨d₁, n, d₂, d₃, d₄, d₅, hmake, hopen, hmode, hwrite, hsync, hmove⟩ := replace_eq_ok.mp h
  have htrouble₁ : d₁.trouble = d.trouble := makeDirectories_trouble hmake
  obtain ⟨hkeeps₂, t, kept, ht, hi⟩ := openEmpty_left hopen
  have htfile : d₂.isDirectory t = false := isDirectory_of_file hi
  obtain ⟨hkeeps₃, hi⟩ := setMode_left hmode ht hi
  obtain ⟨hkeeps₄, hi⟩ := write_left hwrite hi
  obtain ⟨-, rfl⟩ := beginWhole_eq_ok.mp hsync
  have hkeeps₅ := hkeeps₃.trans (hkeeps₄.trans (Disk.Keeps.counted d₄))
  obtain ⟨hkeeps₆, q, hq, hi⟩ := move_left hmove (hkeeps₅.find ht) (Disk.counted_item? d₄ t ▸ hi)
  have hkeeps := hkeeps₅.trans hkeeps₆
  refine ⟨?_, ⟨q, hq, isDirectory_of_file hi⟩, t, hkeeps.find ht, ?_⟩
  · rw [hkeeps.trouble, hkeeps₂.trouble, htrouble₁]
  · rw [hkeeps.isDirectory]
    exact htfile

/-- On a disk that is ready for it the temporary file is written, and it can be moved. -/
theorem writing_succeeds (h : d.Ready p) (content : List UInt8) :
    ∃ d₁ n d₂ d₃ d₄ q t mode, makeDirectories privateDirectory p.parent d = (.ok (), d₁) ∧
      openEmpty privateFile (temporary p) d₁ = (.ok n, d₂) ∧
      setMode privateFile (temporary p) d₂ = (.ok (), d₃) ∧
      write n content d₃ = (.ok (), d₄) ∧ sync d₄ = (.ok (), d₄.counted) ∧
      (∀ k, d₄.counted.trouble k = none) ∧
      d₄.counted.find p = .ok q ∧ d₄.counted.isDirectory q = false ∧
      d₄.counted.find (temporary p) = .ok t ∧
      d₄.counted.item? t = some (.file n content mode) := by
  obtain ⟨d₁, q, t, hmake, hq, hqd, ht, htd⟩ := h.places
  have htrouble₁ : d₁.trouble = d.trouble := makeDirectories_trouble hmake
  -- no call after the directories are made meets trouble, or a path that leads elsewhere
  have hno : ∀ {e : Disk}, d₁.Keeps e → ∀ k, e.trouble k = none := by
    intro e hkeeps k
    rw [hkeeps.trouble, htrouble₁]
    exact h.untroubled k
  obtain ⟨n, d₂, hopen⟩ : ∃ n d₂, openEmpty privateFile (temporary p) d₁ = (.ok n, d₂) :=
    openEmpty_succeeds (htrouble₁ ▸ h.untroubled _) ht htd
  obtain ⟨hkeeps₂, t', kept, ht', hi₂⟩ := openEmpty_left hopen
  obtain ⟨d₃, hmode⟩ : ∃ d₃, setMode privateFile (temporary p) d₂ = (.ok (), d₃) :=
    ⟨_, setMode_eq_ok.mpr ⟨hno hkeeps₂ _, t', ht', Or.inl ⟨n, [], kept, hi₂, rfl⟩⟩⟩
  obtain ⟨hkeeps₃, hi₃⟩ := setMode_left hmode ht' hi₂
  obtain ⟨d₄, hwrite⟩ : ∃ d₄, write n content d₃ = (.ok (), d₄) :=
    ⟨_, write_eq_ok.mpr ⟨hno (hkeeps₂.trans hkeeps₃) _, rfl⟩⟩
  obtain ⟨hkeeps₄, hi₄⟩ := write_left hwrite hi₃
  have hkeeps₅ := hkeeps₂.trans (hkeeps₃.trans hkeeps₄)
  have hsync : sync d₄ = (.ok (), d₄.counted) := beginWhole_eq_ok.mpr ⟨hno hkeeps₅ _, rfl⟩
  have hkeeps₆ := hkeeps₅.trans (Disk.Keeps.counted d₄)
  have ht₆ := ((hkeeps₃.trans hkeeps₄).trans (Disk.Keeps.counted d₄)).find ht'
  rw [writtenOver_nil] at hi₄
  exact ⟨d₁, n, d₂, d₃, d₄, q, t', privateFile, hmake, hopen, hmode, hwrite, hsync, hno hkeeps₆,
    hkeeps₆.find hq, (hkeeps₆.isDirectory q).trans hqd, ht₆, hi₄⟩

/-- On a disk that is ready for it a file is replaced, and the disk is as free of trouble as
before. -/
theorem replace_succeeds (h : d.Ready p) (content : List UInt8) :
    ∃ d', replace p content d = (.ok (), d') ∧ ∀ n, d'.trouble n = none := by
  obtain ⟨d₁, n, d₂, d₃, d₄, q, t, mode, hmake, hopen, hmode, hwrite, hsync, hno, hq, hqd, ht,
    hi⟩ := writing_succeeds h content
  obtain ⟨d', hmove⟩ : ∃ d', move (temporary p) p d₄.counted = (.ok (), d') :=
    ⟨_, move_eq_ok.mpr ⟨hno _, t, q, n, content, mode, ht, hq, hi, hqd, rfl⟩⟩
  have hreplace : replace p content d = (.ok (), d') := replace_eq_ok.mpr
    ⟨d₁, n, d₂, d₃, d₄, d₄.counted, hmake, hopen, hmode, hwrite, hsync, hmove⟩
  refine ⟨d', hreplace, ?_⟩
  intro k
  rw [(replace_leaves_room hreplace).1]
  exact h.untroubled k

end Success

end SandboxClient.Files
