/-
  SandboxClient/Proofs/Files/Sound.lean
  =====================================
  **Sound disks.** Everything on a sound disk stands in a directory, and no two
  files have the same serial number, so that what is written to an open file
  changes no other one. Every call keeps a disk sound.
-/
import SandboxClient.Proofs.Files.Calls

namespace SandboxClient.Files

/-- The serial number of what stands somewhere, if that is a file. -/
def Item.serial? : Item → Option Nat
  | .file n _ _ => some n
  | .directory _ => none

namespace Disk

/-- The serial number of the file at a place. -/
def serial? (d : Disk) (p : Place) : Option Nat := (d.item? p).bind Item.serial?

/-- What holds of every disk on which there has been nothing but calls. -/
structure Sound (d : Disk) : Prop where
  here : d.isDirectory d.here = true
  parent : ∀ q, d.item? q ≠ none → d.isDirectory q.dropLast = true
  serial_lt : ∀ q n, d.serial? q = some n → n < d.nextSerial
  serial_inj : ∀ p q n, d.serial? p = some n → d.serial? q = some n → p = q

variable {d d' : Disk} {p q s t : Place} {n mode : Nat} {content : List UInt8}

/-! ### Places on sound disks

On a sound disk every way to something goes through directories that are there. -/

theorem Sound.parent_of_isDirectory (h : d.Sound) (hq : d.isDirectory q = true) :
    d.isDirectory q.dropLast = true := by
  obtain ⟨mode, hi⟩ := isDirectory_iff.mp hq
  exact h.parent q (by simp [hi])

/-- A way goes from one directory to another, and ends in one. -/
theorem Sound.walk_parent (h : d.Sound) {names : List String}
    (hp : d.isDirectory p.dropLast = true) (hwalk : d.walk p names = .ok q) :
    d.isDirectory q.dropLast = true := by
  induction names generalizing p with
  | nil =>
    cases hwalk
    exact hp
  | cons name names ih =>
    obtain ⟨hdir, hrest⟩ := walk_cons_eq_ok.mp hwalk
    refine ih ?_ hrest
    split
    · exact h.parent_of_isDirectory hp
    · rw [List.dropLast_concat]
      exact hdir

theorem Sound.start (h : d.Sound) (fromRoot : Bool) :
    d.isDirectory (if fromRoot then [] else d.here) = true := by
  cases fromRoot with
  | true => rfl
  | false => exact h.here

theorem Sound.find_parent (h : d.Sound) {p : Path} (hq : d.find p = .ok q) :
    d.isDirectory q.dropLast = true :=
  h.walk_parent (h.parent_of_isDirectory (h.start p.fromRoot)) hq

theorem walk_append (names names' : List String) :
    d.walk p (names ++ names') = (d.walk p names).bind (fun q => d.walk q names') := by
  induction names generalizing p with
  | nil => rfl
  | cons name names ih =>
    simp only [List.cons_append, walk, ih]
    split <;> rfl

/-- The last step of a way. -/
theorem walk_concat {names : List String} {name : String} :
    d.walk p (names ++ [name]) = .ok q ↔ ∃ r, d.walk p names = .ok r ∧ d.isDirectory r = true ∧
      q = if name == above then r.dropLast else r ++ [name] := by
  rw [walk_append]
  cases hr : d.walk p names with
  | error fault =>
    constructor
    · intro h
      cases h
    · rintro ⟨r, h, -⟩
      cases h
  | ok r =>
    have hstep : d.walk r [name] = .ok q ↔ d.isDirectory r = true ∧
        q = if name == above then r.dropLast else r ++ [name] := by
      rw [walk_cons_eq_ok, walk, Except.ok.injEq]
      exact and_congr_right fun _ => eq_comm
    constructor
    · intro h
      exact ⟨r, rfl, hstep.mp h⟩
    · rintro ⟨r', hr', h⟩
      cases hr'
      exact hstep.mpr h

/-- Nothing stands below a place that is no directory. -/
theorem Sound.item?_below (h : d.Sound) (hq : d.isDirectory q = false) (name : String) :
    d.item? (q ++ [name]) = none := by
  apply Classical.byContradiction
  intro hi
  have hparent := h.parent _ hi
  rw [List.dropLast_concat, hq] at hparent
  cases hparent

theorem mem_items_of_item? (hq : q ≠ []) {i : Item} (h : d.item? q = some i) : (q, i) ∈ d.items := by
  unfold item? at h
  rw [if_neg (by simpa using hq)] at h
  obtain ⟨before, after, hitems, -⟩ := List.lookup_eq_some_iff.mp h
  rw [hitems]
  exact List.mem_append_right _ List.mem_cons_self

/-- Whether a disk is sound can be seen from what is listed on it. -/
theorem Sound.of_items (here : d.isDirectory d.here = true)
    (parent : ∀ e ∈ d.items, d.isDirectory e.1.dropLast = true)
    (serial_lt : ∀ e ∈ d.items, ∀ n ∈ e.2.serial?, n < d.nextSerial)
    (serial_inj : ∀ e ∈ d.items, ∀ f ∈ d.items, e.2.serial? ≠ none → e.2.serial? = f.2.serial? →
      e.1 = f.1) : d.Sound := by
  have hlisted : ∀ q n, d.serial? q = some n → ∃ i, (q, i) ∈ d.items ∧ i.serial? = some n := by
    intro q n hn
    obtain ⟨i, hi, hserial⟩ := Option.bind_eq_some_iff.mp hn
    refine ⟨i, mem_items_of_item? ?_ hi, hserial⟩
    rintro rfl
    cases hi
    cases hserial
  refine ⟨here, ?_, ?_, ?_⟩
  · intro q hi
    obtain ⟨i, hi⟩ := Option.ne_none_iff_exists'.mp hi
    by_cases hq : q = []
    · rw [hq]
      rfl
    · exact parent _ (mem_items_of_item? hq hi)
  · intro q n hn
    obtain ⟨i, hmem, hi⟩ := hlisted q n hn
    exact serial_lt _ hmem n hi
  · intro p q n hp hq
    obtain ⟨i, hmem, hi⟩ := hlisted p n hp
    obtain ⟨j, hmem', hj⟩ := hlisted q n hq
    exact serial_inj _ hmem _ hmem' (by simp [hi]) (hi.trans hj.symm)

/-! ### Changes of sound disks

Calls change a disk in three ways only, each of which keeps it sound. -/

theorem serial?_of_item? (h : d.item? q = some (.file n content mode)) : d.serial? q = some n := by
  simp [serial?, h, Item.serial?]

theorem isDirectory_of_serial? (h : d.serial? q = some n) : d.isDirectory q = false := by
  apply Bool.eq_false_iff.mpr
  intro hdir
  obtain ⟨mode, hi⟩ := isDirectory_iff.mp hdir
  simp [serial?, hi, Item.serial?] at h

theorem serial?_put (d : Disk) (p q : Place) (i : Item) :
    (d.put p i).serial? q = if q ≠ [] ∧ q = p then i.serial? else d.serial? q := by
  unfold serial?
  rw [item?_put]
  split <;> rfl

theorem serial?_without (d : Disk) (p q : Place) :
    (d.without p).serial? q = if q ≠ [] ∧ q = p then none else d.serial? q := by
  unfold serial?
  rw [item?_without]
  split <;> rfl

theorem serial?_change (d : Disk) (serial : Nat) (f : List UInt8 → List UInt8) (q : Place) :
    (d.change serial f).serial? q = d.serial? q := by
  unfold serial?
  rw [item?_change]
  rcases d.item? q with - | ⟨mode | ⟨n, content, mode⟩⟩ <;> rfl

/-- A disk stays sound when its directories stay and nothing new stands on it. -/
theorem Sound.of_less (h : d.Sound) (hkeeps : d.Keeps d') (hnext : d.nextSerial ≤ d'.nextSerial)
    (hitem : ∀ q, d'.item? q ≠ none → d.item? q ≠ none)
    (hserial : ∀ q n, d'.serial? q = some n → d.serial? q = some n) : d'.Sound := by
  refine ⟨?_, ?_, ?_, ?_⟩
  · rw [hkeeps.here, hkeeps.isDirectory]
    exact h.here
  · intro q hi
    rw [hkeeps.isDirectory]
    exact h.parent q (hitem q hi)
  · intro q n hn
    exact Nat.lt_of_lt_of_le (h.serial_lt q n (hserial q n hn)) hnext
  · intro p q n hp hq
    exact h.serial_inj p q n (hserial p n hp) (hserial q n hq)

theorem Sound.counted (h : d.Sound) : d.counted.Sound :=
  h.of_less (Keeps.counted d) (Nat.le_refl _) (fun _ hi => hi) (fun _ _ hn => hn)

theorem Sound.without (h : d.Sound) (hfile : d.isDirectory s = false) : (d.without s).Sound := by
  refine h.of_less (Keeps.without hfile) (Nat.le_refl _) ?_ ?_
  · intro q hi
    rw [item?_without] at hi
    split at hi
    · exact absurd rfl hi
    · exact hi
  · intro q n hn
    rw [serial?_without] at hn
    split at hn
    · cases hn
    · exact hn

theorem Sound.change (h : d.Sound) (serial : Nat) (f : List UInt8 → List UInt8) :
    (d.change serial f).Sound := by
  refine h.of_less (Keeps.change d serial f) (Nat.le_refl _) ?_ ?_
  · intro q hi
    rw [item?_change] at hi
    intro hnone
    exact hi (by rw [hnone]; rfl)
  · intro q n hn
    rw [serial?_change] at hn
    exact hn

/-- A file is put where a directory is for it and no other file has its serial number. -/
theorem Sound.put (h : d.Sound) (hfile : d.isDirectory t = false)
    (hparent : d.isDirectory t.dropLast = true) (hlt : n < d.nextSerial)
    (hfree : ∀ q, d.serial? q = some n → q = t) (content : List UInt8) (mode : Nat) :
    (d.put t (.file n content mode)).Sound := by
  have hkeeps := Keeps.put hfile n content mode
  have hserial : ∀ q m, (d.put t (.file n content mode)).serial? q = some m →
      q = t ∧ m = n ∨ d.serial? q = some m := by
    intro q m hm
    rw [serial?_put] at hm
    split at hm
    · rename_i hboth
      exact Or.inl ⟨hboth.2, (Option.some.inj hm).symm⟩
    · exact Or.inr hm
  refine ⟨(hkeeps.isDirectory d.here).trans h.here, ?_, ?_, ?_⟩
  · intro q hi
    rw [hkeeps.isDirectory]
    rw [item?_put] at hi
    split at hi
    · rename_i hboth
      rw [hboth.2]
      exact hparent
    · exact h.parent q hi
  · intro q m hm
    rcases hserial q m hm with ⟨-, rfl⟩ | hold
    · exact hlt
    · exact h.serial_lt q m hold
  · intro p q m hp hq
    rcases hserial p m hp with ⟨rfl, rfl⟩ | hp'
    · rcases hserial q m hq with ⟨rfl, -⟩ | hq'
      · rfl
      · exact (hfree q hq').symm
    · rcases hserial q m hq with ⟨rfl, rfl⟩ | hq'
      · exact hfree p hp'
      · exact h.serial_inj p q m hp' hq'

theorem isDirectory_putDirectory (hp : d.isDirectory p = true) :
    (d.put t (.directory mode)).isDirectory p = true := by
  obtain ⟨old, hi⟩ := isDirectory_iff.mp hp
  apply isDirectory_iff.mpr
  rw [item?_put]
  split
  · exact ⟨mode, rfl⟩
  · exact ⟨old, hi⟩

/-- A directory is put where a directory is for it and no file stands. -/
theorem Sound.putDirectory (h : d.Sound) (hparent : d.isDirectory t.dropLast = true) (mode : Nat) :
    (d.put t (.directory mode)).Sound := by
  have hserial : ∀ q m, (d.put t (.directory mode)).serial? q = some m → d.serial? q = some m := by
    intro q m hm
    rw [serial?_put] at hm
    split at hm
    · cases hm
    · exact hm
  refine ⟨isDirectory_putDirectory h.here, ?_, fun q m hm => h.serial_lt q m (hserial q m hm),
    fun p q m hp hq => h.serial_inj p q m (hserial p m hp) (hserial q m hq)⟩
  intro q hi
  apply isDirectory_putDirectory
  rw [item?_put] at hi
  split at hi
  · rename_i hboth
    rw [hboth.2]
    exact hparent
  · exact h.parent q hi

end Disk

end SandboxClient.Files
