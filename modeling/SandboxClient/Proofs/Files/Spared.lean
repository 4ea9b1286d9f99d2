/-
  SandboxClient/Proofs/Files/Spared.lean
  ======================================
  **What a replacement leaves alone.** Whatever trouble there is, the replacement
  of a file changes no file but the temporary one until that is moved, and this
  is the last thing it does: `replace_spares`. So a replacement that fails leaves
  the content of the file as it was.
-/
import SandboxClient.Files.Replacing
import SandboxClient.Proofs.Files.Failing
import SandboxClient.Proofs.Files.Sound

namespace SandboxClient.Files

/-! ### Disks that spare places -/

namespace Disk

/-- A sound disk that has come out of another one: what was a directory is one, and the content of
the files at some places is what it was. -/
structure Spares (spared : Place → Prop) (d d' : Disk) : Prop where
  sound : d'.Sound
  here : d'.here = d.here
  directories : ∀ p, d.isDirectory p = true → d'.isDirectory p = true
  content : ∀ q, spared q → d'.content? q = d.content? q

variable {spared : Place → Prop} {d d' : Disk} {p q s t : Place} {n mode : Nat}
  {content : List UInt8}

theorem Spares.refl (h : d.Sound) : d.Spares spared d := ⟨h, rfl, fun _ hp => hp, fun _ _ => rfl⟩

theorem Spares.trans {d₁ d₂ d₃ : Disk} (h : d₁.Spares spared d₂) (h' : d₂.Spares spared d₃) :
    d₁.Spares spared d₃ :=
  ⟨h'.sound, h'.here.trans h.here, fun p hp => h'.directories p (h.directories p hp),
    fun q hq => (h'.content q hq).trans (h.content q hq)⟩

theorem Spares.of_keeps (h : d'.Sound) (hkeeps : d.Keeps d')
    (hcontent : ∀ q, spared q → d'.content? q = d.content? q) : d.Spares spared d' :=
  ⟨h, hkeeps.here, fun p hp => (hkeeps.isDirectory p).trans hp, hcontent⟩

theorem Spares.counted (h : d.Sound) : d.Spares spared d.counted :=
  .of_keeps h.counted (Keeps.counted d) (fun _ _ => rfl)

theorem content?_of_item? (h : d'.item? q = d.item? q) : d'.content? q = d.content? q := by
  unfold content?
  rw [h]

theorem content?_of_isDirectory (h : d.isDirectory q = true) : d.content? q = none := by
  obtain ⟨mode, hi⟩ := isDirectory_iff.mp h
  simp [content?, hi]

theorem Spares.put (h : d.Sound) (hfile : d.isDirectory t = false)
    (hparent : d.isDirectory t.dropLast = true) (hlt : n < d.nextSerial)
    (hfree : ∀ q, d.serial? q = some n → q = t) (ht : ¬ spared t) :
    d.Spares spared (d.put t (.file n content mode)) := by
  refine .of_keeps (h.put hfile hparent hlt hfree content mode) (Keeps.put hfile n content mode) ?_
  intro q hq
  apply content?_of_item?
  rw [item?_put, if_neg]
  rintro ⟨-, rfl⟩
  exact ht hq

theorem Spares.without (h : d.Sound) (hfile : d.isDirectory s = false) (hs : ¬ spared s) :
    d.Spares spared (d.without s) := by
  refine .of_keeps (h.without hfile) (Keeps.without hfile) ?_
  intro q hq
  apply content?_of_item?
  rw [item?_without, if_neg]
  rintro ⟨-, rfl⟩
  exact hs hq

/-- A directory changes no content where there is no file. -/
theorem Spares.putDirectory (h : d.Sound) (hparent : d.isDirectory t.dropLast = true)
    (hfile : d.content? t = none) (mode : Nat) :
    d.Spares spared (d.put t (.directory mode)) := by
  refine ⟨h.putDirectory hparent mode, rfl, fun p hp => isDirectory_putDirectory hp, ?_⟩
  intro q _
  by_cases hq : q ≠ [] ∧ q = t
  · rw [hq.2, hfile]
    unfold content?
    rw [item?_put, if_pos ⟨hq.2 ▸ hq.1, rfl⟩]
  · apply content?_of_item?
    rw [item?_put, if_neg hq]

theorem Spares.change (h : d.Sound) (hn : ∀ q, d.serial? q = some n → ¬ spared q)
    (f : List UInt8 → List UInt8) : d.Spares spared (d.change n f) := by
  refine .of_keeps (h.change n f) (Keeps.change d n f) ?_
  intro q hq
  unfold content?
  rw [item?_change]
  cases hi : d.item? q with
  | none => rfl
  | some i =>
    cases i with
    | directory mode => rfl
    | file m c mode =>
      have hm : m ≠ n := by
        rintro rfl
        exact hn q (serial?_of_item? hi) hq
      simp [Item.changed, hm]

theorem Spares.find (h : d.Spares spared d') {p : Path} (hq : d.find p = .ok q) :
    d'.find p = .ok q :=
  find_of_isDirectory h.here h.directories hq

end Disk

/-! ### Calls of a replacement

A call spares a place unless it is about a path that leads there. -/

/-- A path leads to no place that is to be spared, unless a directory is there. -/
def LeadsAside (spared : Place → Prop) (tmp : Path) : Prop :=
  ∀ (d : Disk) (t : Place), d.Sound → d.find tmp = .ok t → spared t → d.isDirectory t = true

section Calls

variable {spared : Place → Prop} {d d' : Disk} {tmp target : Path} {mode : Nat}

theorem not_spared_of_find (h : LeadsAside spared tmp) (hd : d.Sound) {t : Place}
    (ht : d.find tmp = .ok t) (hfile : d.isDirectory t = false) : ¬ spared t := by
  intro hspared
  rw [h d t hd ht hspared] at hfile
  cases hfile

theorem openEmpty_spares (h : LeadsAside spared tmp) (hd : d.Sound)
    {result : Except DiskFault Nat} (hrun : openEmpty mode tmp d = (result, d')) :
    d.Spares spared d' ∧
      ∀ n, result = .ok n → ∀ q, d'.serial? q = some n → ¬ spared q := by
  cases result with
  | error fault =>
    rw [openEmpty_error hrun]
    exact ⟨.counted hd, fun n hn => by cases hn⟩
  | ok n =>
    obtain ⟨-, t, ht, ⟨content, kept, hi, rfl⟩ | ⟨hi, rfl, rfl⟩⟩ := openEmpty_eq_ok.mp hrun
    · have hn : d.serial? t = some n := Disk.serial?_of_item? hi
      have hfile := Disk.isDirectory_of_serial? hn
      have hfree : ∀ q, d.serial? q = some n → q = t := fun q hq => hd.serial_inj q t n hq hn
      have ht' := not_spared_of_find h hd ht hfile
      refine ⟨(Disk.Spares.counted hd).trans
        (.put hd.counted hfile (hd.find_parent ht) (hd.serial_lt t n hn) hfree ht'), ?_⟩
      intro m hm q hq
      cases hm
      rw [Disk.serial?_put] at hq
      split at hq
      · rename_i hboth
        exact hboth.2 ▸ ht'
      · exact hfree q hq ▸ ht'
    · have hfile : d.isDirectory t = false := by simp [Disk.isDirectory, hi]
      have ht' := not_spared_of_find h hd ht hfile
      -- the number is taken before the file is made
      have hkeeps : d.Keeps { d.counted with nextSerial := d.nextSerial + 1 } :=
        ⟨rfl, rfl, fun _ => rfl⟩
      have htaken : d.Spares spared { d.counted with nextSerial := d.nextSerial + 1 } :=
        .of_keeps (hd.of_less hkeeps (Nat.le_succ _) (fun _ hi => hi) (fun _ _ hn => hn)) hkeeps
          (fun _ _ => rfl)
      have hfree : ∀ q, d.serial? q = some d.nextSerial → q = t := fun q hq =>
        absurd (hd.serial_lt q _ hq) (Nat.lt_irrefl _)
      refine ⟨htaken.trans (.put htaken.sound hfile (hd.find_parent ht) (Nat.lt_succ_self _) hfree
        ht'), ?_⟩
      intro m hm q hq
      cases hm
      have hq : (d.counted.put t (.file d.nextSerial [] mode)).serial? q = some d.nextSerial := hq
      rw [Disk.serial?_put] at hq
      split at hq
      · rename_i hboth
        exact hboth.2 ▸ ht'
      · exact hfree q hq ▸ ht'

theorem setMode_spares (h : LeadsAside spared tmp) (hd : d.Sound)
    {result : Except DiskFault Unit} (hrun : setMode mode tmp d = (result, d')) :
    d.Spares spared d' ∧ ∀ q n, d'.serial? q = some n → d.serial? q = some n := by
  cases result with
  | error fault =>
    rw [setMode_error hrun]
    exact ⟨.counted hd, fun _ _ hn => hn⟩
  | ok u =>
    obtain ⟨-, t, ht, ⟨n, content, kept, hi, rfl⟩ | ⟨kept, hi, rfl⟩⟩ := setMode_eq_ok.mp hrun
    · have hn : d.serial? t = some n := Disk.serial?_of_item? hi
      have hfile := Disk.isDirectory_of_serial? hn
      refine ⟨(Disk.Spares.counted hd).trans (.put hd.counted hfile (hd.find_parent ht)
        (hd.serial_lt t n hn) (fun q hq => hd.serial_inj q t n hq hn)
        (not_spared_of_find h hd ht hfile)), ?_⟩
      intro q m hm
      rw [Disk.serial?_put] at hm
      split at hm
      · rename_i hboth
        cases hm
        rw [hboth.2]
        exact hn
      · exact hm
    · have hdir : d.counted.isDirectory t = true := Disk.isDirectory_iff.mpr ⟨kept, hi⟩
      refine ⟨(Disk.Spares.counted hd).trans (.putDirectory hd.counted (hd.find_parent ht)
        (Disk.content?_of_isDirectory hdir) mode), ?_⟩
      intro q m hm
      rw [Disk.serial?_put] at hm
      split at hm
      · cases hm
      · exact hm

theorem write_spares {n : Nat} {octets : List UInt8} (hd : d.Sound)
    (hn : ∀ q, d.serial? q = some n → ¬ spared q) {result : Except DiskFault Unit}
    (hrun : write n octets d = (result, d')) : d.Spares spared d' := by
  cases result with
  | error fault =>
    obtain ⟨f, rfl⟩ := write_error hrun
    exact (Disk.Spares.counted hd).trans (.change hd.counted hn f)
  | ok u =>
    obtain ⟨-, rfl⟩ := write_eq_ok.mp hrun
    exact (Disk.Spares.counted hd).trans (.change hd.counted hn _)

theorem sync_spares (hd : d.Sound) {result : Except DiskFault Unit}
    (hrun : sync d = (result, d')) : d.Spares spared d' := by
  cases result with
  | error fault =>
    rw [beginWhole_error hrun]
    exact .counted hd
  | ok u =>
    obtain ⟨-, rfl⟩ := beginWhole_eq_ok.mp hrun
    exact .counted hd

theorem remove_spares (h : LeadsAside spared tmp) (hd : d.Sound)
    {result : Except DiskFault Unit} (hrun : remove tmp d = (result, d')) :
    d.Spares spared d' := by
  cases result with
  | error fault =>
    rw [remove_error hrun]
    exact .counted hd
  | ok u =>
    obtain ⟨-, t, n, content, mode, ht, hi, rfl⟩ := remove_eq_ok.mp hrun
    have hfile := Disk.isDirectory_of_serial? (Disk.serial?_of_item? hi)
    exact (Disk.Spares.counted hd).trans
      (.without hd.counted hfile (not_spared_of_find h hd ht hfile))

/-- A file that is moved is new at its target only. -/
theorem move_spares (h : LeadsAside spared tmp) (hd : d.Sound)
    {result : Except DiskFault Unit} (hrun : move tmp target d = (result, d')) :
    d.Spares (fun q => spared q ∧ ¬ (result = .ok () ∧ d'.find target = .ok q)) d' := by
  cases result with
  | error fault =>
    rw [move_error hrun]
    exact .counted hd
  | ok u =>
    obtain ⟨-, s, t, n, content, mode, hs, ht, hi, hdir, rfl⟩ := move_eq_ok.mp hrun
    have hn : d.serial? s = some n := Disk.serial?_of_item? hi
    have hfile := Disk.isDirectory_of_serial? hn
    have hkeeps : d.Keeps (d.counted.without s) :=
      (Disk.Keeps.counted d).trans (Disk.Keeps.without hfile)
    have hwithout := hd.counted.without hfile
    have hdir' : (d.counted.without s).isDirectory t = false := (hkeeps.isDirectory t).trans hdir
    have hfind := (hkeeps.trans (Disk.Keeps.put hdir' n content mode)).find ht
    have hfree : ∀ q, (d.counted.without s).serial? q = some n → q = t := by
      intro q hq
      rw [Disk.serial?_without] at hq
      split at hq
      · cases hq
      · rename_i hno
        have hqs := hd.serial_inj q s n hq hn
        refine absurd ⟨?_, hqs⟩ hno
        rintro rfl
        cases hq
    refine ((Disk.Spares.counted hd).trans (.without hd.counted hfile ?_)).trans
      (.put hwithout hdir' ?_ (hd.serial_lt s n hn) hfree ?_)
    · exact fun hs' => not_spared_of_find h hd hs hfile hs'.1
    · rw [hkeeps.isDirectory]
      exact hd.find_parent ht
    · exact fun ht' => ht'.2 ⟨rfl, hfind⟩

/-- What holds of sound disks and stays when a call is counted and when a directory is put where
nothing stood holds after directories have been made, as far as that could be done. -/
theorem makeDirectoriesFrom_keeps {P : Disk → Prop} (sound : ∀ e, P e → e.Sound)
    (counted : ∀ e, P e → P e.counted)
    (put : ∀ e t, P e → e.isDirectory t.dropLast = true → e.item? t = none →
      P (e.put t (.directory mode)))
    {names : List String} {q : Place} (h : P d) (hq : d.isDirectory q = true)
    {result : Except DiskFault Unit} (hrun : makeDirectoriesFrom mode q names d = (result, d')) :
    P d' := by
  induction names generalizing q d with
  | nil =>
    obtain rfl : d = d' := congrArg Prod.snd hrun
    exact h
  | cons name names ih =>
    unfold makeDirectoriesFrom at hrun
    have hd := sound d h
    have hnext : d.isDirectory (if name == above then q.dropLast else q ++ [name]).dropLast = true := by
      split
      · exact hd.parent_of_isDirectory (hd.parent_of_isDirectory hq)
      · rw [List.dropLast_concat]
        exact hq
    generalize (if name == above then q.dropLast else q ++ [name]) = next at hrun hnext
    rw [bind_of_ok (get_eq_ok.mpr ⟨rfl, rfl⟩)] at hrun
    cases hi : d.item? next with
    | some i =>
      rw [hi] at hrun
      cases i with
      | file n content kept =>
        obtain rfl : d = d' := congrArg Prod.snd hrun
        exact h
      | directory kept => exact ih h (Disk.isDirectory_iff.mpr ⟨kept, hi⟩) hrun
    | none =>
      simp only [hi] at hrun
      rcases hbegin : beginWhole d with ⟨fault | u, e⟩
      · rw [bind_eq_error.mpr (Or.inl hbegin)] at hrun
        cases hrun
        rw [beginWhole_error hbegin]
        exact counted d h
      · obtain ⟨-, rfl⟩ := beginWhole_eq_ok.mp hbegin
        rw [bind_of_ok hbegin, bind_of_ok (modify_eq_ok (u := ⟨⟩) |>.mpr rfl)] at hrun
        refine ih (put d.counted next (counted d h) hnext hi) ?_ hrun
        apply Disk.isDirectory_iff.mpr
        refine ⟨mode, ?_⟩
        rw [Disk.item?_put, if_pos]
        refine ⟨?_, rfl⟩
        rintro rfl
        cases hi

theorem makeDirectories_keeps {P : Disk → Prop} (sound : ∀ e, P e → e.Sound)
    (counted : ∀ e, P e → P e.counted)
    (put : ∀ e t, P e → e.isDirectory t.dropLast = true → e.item? t = none →
      P (e.put t (.directory mode)))
    {p : Path} (h : P d) {result : Except DiskFault Unit}
    (hrun : makeDirectories mode p d = (result, d')) : P d' :=
  makeDirectoriesFrom_keeps sound counted put h ((sound d h).start p.fromRoot) hrun

theorem makeDirectories_spares {p : Path} (hd : d.Sound) {result : Except DiskFault Unit}
    (hrun : makeDirectories mode p d = (result, d')) : d.Spares spared d' := by
  refine makeDirectories_keeps (P := fun e => d.Spares spared e) (fun e he => he.sound) ?_ ?_
    (.refl hd) hrun
  · intro e he
    exact he.trans (.counted he.sound)
  · intro e t he hparent hi
    have hnone : e.content? t = none := by simp [Disk.content?, hi]
    exact he.trans (.putDirectory he.sound hparent hnone mode)

end Calls

/-! ### The temporary file -/

section Temporary

variable {d : Disk} {p : Path} {q : Place}

/-- A path with a name at its end leads to a place of that name. -/
theorem getLast?_of_find {name : String} (hlast : p.names.getLast? = some name)
    (hname : name ≠ above) (hq : d.find p = .ok q) : q.getLast? = some name := by
  obtain ⟨names, hnames⟩ := List.getLast?_eq_some_iff.mp hlast
  unfold Disk.find at hq
  rw [hnames, Disk.walk_concat] at hq
  obtain ⟨r, -, -, rfl⟩ := hq
  rw [if_neg (by simpa using hname)]
  exact List.getLast?_concat

/-- A path without a name at its end leads to a directory. -/
theorem find_cases (hd : d.Sound) (hq : d.find p = .ok q) :
    d.isDirectory q = true ∨
      ∃ name, name ≠ above ∧ p.names.getLast? = some name ∧ q.getLast? = some name := by
  cases hlast : p.names.getLast? with
  | none =>
    unfold Disk.find at hq
    rw [List.getLast?_eq_none_iff.mp hlast] at hq
    cases hq
    exact Or.inl (hd.start p.fromRoot)
  | some name =>
    by_cases hname : name = above
    · obtain ⟨names, hnames⟩ := List.getLast?_eq_some_iff.mp hlast
      unfold Disk.find at hq
      rw [hnames, Disk.walk_concat] at hq
      obtain ⟨r, -, hr, rfl⟩ := hq
      rw [if_pos (beq_iff_eq.mpr hname)]
      exact Or.inl (hd.parent_of_isDirectory hr)
    · exact Or.inr ⟨name, hname, rfl, getLast?_of_find hlast hname hq⟩

/-- A name with an ending that contains a full stop is not the name with another ending. -/
theorem stem_append_ne {name ending : String} (h : '.' ∈ ending.toList) :
    stem name ++ "." ++ ending ≠ name := by
  intro heq
  have hlist : (stem name).toList ++ '.' :: ending.toList = name.toList := by
    have hchars := congrArg String.toList heq
    simpa [String.toList_append] using hchars
  have hlong : stem name ≠ name := by
    intro hsame
    rw [hsame] at hlist
    exact absurd (congrArg List.length hlist) (by simp)
  have hback : name.toList.reverse.takeWhile (· != '.') ++ name.toList.reverse.dropWhile (· != '.') =
      name.toList.reverse := List.takeWhile_append_dropWhile
  unfold stem at hlist hlong
  cases hdrop : name.toList.reverse.dropWhile (· != '.') with
  | nil =>
    rw [hdrop] at hlong
    exact hlong rfl
  | cons c before =>
    simp only [hdrop] at hlist hlong hback
    split at hlong
    · exact hlong rfl
    · rename_i hbefore
      -- what was cut off is the other ending, in which there is no full stop
      rw [if_neg hbefore, String.toList_ofList] at hlist
      have hname := congrArg List.reverse hback
      rw [List.reverse_reverse, List.reverse_append, List.reverse_cons, List.append_assoc] at hname
      have hend := List.append_cancel_left (hname.trans hlist.symm)
      have hsame : (name.toList.reverse.takeWhile (· != '.')).reverse = ending.toList :=
        (List.cons.inj hend).2
      rw [← hsame, List.mem_reverse] at h
      exact absurd (List.all_eq_true.mp List.all_takeWhile '.' h) (by decide)

/-- A place with another name than the temporary file. -/
def NotTemporary (p : Path) (q : Place) : Prop := q.getLast? ≠ (temporary p).names.getLast?

theorem leadsAside_temporary (p : Path) : LeadsAside (NotTemporary p) (temporary p) := by
  intro d t hd ht hspared
  obtain hdir | ⟨name, -, hname, hlast⟩ := find_cases hd ht
  · exact hdir
  · exact absurd (hlast.trans hname.symm) hspared

theorem getLast?_temporary {name : String} (hlast : p.names.getLast? = some name)
    (hname : name ≠ above) :
    (temporary p).names.getLast? = some (stem name ++ "." ++ temporaryEnding) := by
  unfold temporary Path.withEnding
  simp [hlast, hname]

/-- The temporary file of a path stands beside the file. -/
theorem notTemporary_of_find (hd : d.Sound) (hq : d.find p = .ok q) :
    d.isDirectory q = true ∨ NotTemporary p q := by
  obtain hdir | ⟨name, hname, hnames, hlast⟩ := find_cases hd hq
  · exact Or.inl hdir
  · refine Or.inr ?_
    unfold NotTemporary
    rw [hlast, getLast?_temporary hnames hname]
    intro heq
    exact stem_append_ne (by decide) (Option.some.inj heq).symm

end Temporary

/-! ### Replacements

The invariant is that of one step; the run follows by induction on the number of steps. -/

/-- The open file of a stage. -/
def Stage.serial? : Stage → Option Nat
  | .restricting n | .writing n => some n
  | _ => none

namespace Replacement

/-- What holds after each step of a replacement that began on another disk: all places to be
spared are, but for the one to which the file is moved in the end, and the file that is open does
not stand at one. -/
structure Careful (spared : Place → Prop) (d₀ : Disk) (r : Replacement) (d : Disk) : Prop where
  spares : d₀.Spares (fun q => spared q ∧ ¬ (r.stage = .done ∧ d.find r.path = .ok q)) d
  serial : ∀ n, r.stage.serial? = some n → ∀ q, d.serial? q = some n → ¬ spared q

variable {spared : Place → Prop} {d₀ d : Disk} {r : Replacement}

theorem Careful.all (h : Careful spared d₀ r d) (hstage : r.stage ≠ .done) : d₀.Spares spared d :=
  ⟨h.spares.sound, h.spares.here, h.spares.directories,
    fun q hq => h.spares.content q ⟨hq, fun hdone => hstage hdone.1⟩⟩

theorem Careful.of_spares (h : d₀.Spares spared d)
    (hserial : ∀ n, r.stage.serial? = some n → ∀ q, d.serial? q = some n → ¬ spared q) :
    Careful spared d₀ r d :=
  ⟨⟨h.sound, h.here, h.directories, fun q hq => h.content q hq.1⟩, hserial⟩

/-- What holds after a call, whether it succeeds or fails, holds after the step that makes it. -/
theorem after_cases {α : Type} {P : Replacement → Disk → Prop} {next : α → Stage}
    {otherwise : DiskFault → Stage} {call : DiskCall α}
    (hok : ∀ a d', call d = (.ok a, d') → P { r with stage := next a } d')
    (herror : ∀ fault d', call d = (.error fault, d') →
      P { r with stage := otherwise fault } d') :
    P (r.after next otherwise call d).1 (r.after next otherwise call d).2 := by
  unfold after
  rcases hcall : call d with ⟨fault | a, d'⟩
  · have hrun : call.run d = (.error fault, d') := hcall
    rw [hrun]
    exact herror fault d' hcall
  · have hrun : call.run d = (.ok a, d') := hcall
    rw [hrun]
    exact hok a d' hcall

/-- Where no file is open, all that counts is what is spared. -/
theorem Careful.of_closed (h : d₀.Spares spared d) (hclosed : r.stage.serial? = none) :
    Careful spared d₀ r d := by
  refine .of_spares h ?_
  intro n hn
  rw [hclosed] at hn
  cases hn

/-- A call that spares what it may not touch, whatever its outcome, and leaves no file open. -/
theorem after_closed {α : Type} {next : α → Stage} {otherwise : DiskFault → Stage}
    {call : DiskCall α} (h : d₀.Spares spared d)
    (hcall : ∀ (result : Except DiskFault α) (d' : Disk), call d = (result, d') →
      d.Spares spared d')
    (hnext : ∀ a, (next a).serial? = none) (hotherwise : ∀ fault, (otherwise fault).serial? = none) :
    Careful spared d₀ (r.after next otherwise call d).1 (r.after next otherwise call d).2 := by
  refine after_cases (P := Careful spared d₀) ?_ ?_
  · intro a d' hrun
    exact .of_closed (h.trans (hcall _ d' hrun)) (hnext a)
  · intro fault d' hrun
    exact .of_closed (h.trans (hcall _ d' hrun)) (hotherwise fault)

section Stages

variable {p : Path} {content : List UInt8} {n : Nat}

theorem opening_careful (htmp : LeadsAside spared (temporary p)) (h : d₀.Spares spared d) :
    Careful spared d₀ (step ⟨p, content, .opening⟩ d).1 (step ⟨p, content, .opening⟩ d).2 := by
  refine after_cases (P := Careful spared d₀) ?_ ?_
  · intro n d' hrun
    obtain ⟨hspares, hserial⟩ := openEmpty_spares htmp h.sound hrun
    refine .of_spares (h.trans hspares) ?_
    intro m hm
    cases hm
    exact hserial n rfl
  · intro fault d' hrun
    exact .of_closed (h.trans (openEmpty_spares htmp h.sound hrun).1) rfl

theorem restricting_careful (htmp : LeadsAside spared (temporary p)) (h : d₀.Spares spared d)
    (hn : ∀ q, d.serial? q = some n → ¬ spared q) :
    Careful spared d₀ (step ⟨p, content, .restricting n⟩ d).1
      (step ⟨p, content, .restricting n⟩ d).2 := by
  refine after_cases (P := Careful spared d₀) ?_ ?_
  · intro a d' hrun
    obtain ⟨hspares, hserial⟩ := setMode_spares htmp h.sound hrun
    refine .of_spares (h.trans hspares) ?_
    intro m hm q hq
    cases hm
    exact hn q (hserial q n hq)
  · intro fault d' hrun
    exact .of_closed (h.trans (setMode_spares htmp h.sound hrun).1) rfl

theorem moving_careful (htmp : LeadsAside spared (temporary p)) (h : d₀.Spares spared d) :
    Careful spared d₀ (step ⟨p, content, .moving⟩ d).1 (step ⟨p, content, .moving⟩ d).2 := by
  refine after_cases (P := Careful spared d₀) ?_ ?_
  · intro a d' hrun
    have hmove := move_spares htmp h.sound hrun
    refine ⟨⟨hmove.sound, hmove.here.trans h.here,
      fun q hq => hmove.directories q (h.directories q hq), ?_⟩, fun m hm => by cases hm⟩
    intro q hq
    have hnot : ¬ ((.ok a : Except DiskFault Unit) = .ok () ∧ d'.find p = .ok q) :=
      fun hboth => hq.2 ⟨rfl, hboth.2⟩
    rw [hmove.content q ⟨hq.1, hnot⟩, h.content q hq.1]
  · intro fault d' hrun
    rw [move_error hrun]
    exact .of_closed (h.trans (.counted h.sound)) rfl

end Stages

/-- One step, whatever becomes of its call. -/
theorem step_careful (htmp : LeadsAside spared (temporary r.path)) (h : Careful spared d₀ r d) :
    Careful spared d₀ (r.step d).1 (r.step d).2 := by
  have hd := h.spares.sound
  obtain ⟨p, content, stage⟩ := r
  cases stage with
  | directory =>
    exact after_closed (h.all (by simp)) (fun _ _ hrun => makeDirectories_spares hd hrun)
      (fun _ => rfl) (fun _ => rfl)
  | opening => exact opening_careful htmp (h.all (by simp))
  | restricting n => exact restricting_careful htmp (h.all (by simp)) (h.serial n rfl)
  | writing n =>
    exact after_closed (h.all (by simp)) (fun _ _ hrun => write_spares hd (h.serial n rfl) hrun)
      (fun _ => rfl) (fun _ => rfl)
  | syncing =>
    exact after_closed (h.all (by simp)) (fun _ _ hrun => sync_spares hd hrun)
      (fun _ => rfl) (fun _ => rfl)
  | moving => exact moving_careful htmp (h.all (by simp))
  | cleaning cause =>
    exact after_closed (h.all (by simp)) (fun _ _ hrun => remove_spares htmp hd hrun)
      (fun _ => rfl) (fun _ => rfl)
  | done => exact h
  | failed cause => exact h

theorem same_step (r : Replacement) (d : Disk) :
    (r.step d).1.path = r.path ∧ (r.step d).1.content = r.content := by
  unfold step
  cases r.stage with
  | done => exact ⟨rfl, rfl⟩
  | failed cause => exact ⟨rfl, rfl⟩
  | _ =>
    refine after_cases (P := fun r' _ => r'.path = r.path ∧ r'.content = r.content) ?_ ?_
    · intro a d' _
      exact ⟨rfl, rfl⟩
    · intro fault d' _
      exact ⟨rfl, rfl⟩

theorem path_step (r : Replacement) (d : Disk) : (r.step d).1.path = r.path := (same_step r d).1

theorem path_steps (n : Nat) (r : Replacement) (d : Disk) : (r.steps n d).1.path = r.path := by
  induction n generalizing r d with
  | zero => rfl
  | succ n ih => exact (ih _ _).trans (path_step r d)

/-- So many steps, whatever becomes of their calls. -/
theorem steps_careful (n : Nat) (htmp : LeadsAside spared (temporary r.path))
    (h : Careful spared d₀ r d) : Careful spared d₀ (r.steps n d).1 (r.steps n d).2 := by
  induction n generalizing r d with
  | zero => exact h
  | succ n ih =>
    have hpath := path_step r d
    rw [← hpath] at htmp
    exact ih htmp (step_careful (hpath ▸ htmp) h)

end Replacement

/-- **What a replacement leaves alone.** With whatever outcome, all content is what it was but
where the temporary file may stand, and where the file stands in the end if there is one. -/
theorem replace_spares {spared : Place → Prop} {p : Path} {content : List UInt8} {d d' : Disk}
    {result : Except DiskFault Unit} (htmp : LeadsAside spared (temporary p)) (hd : d.Sound)
    (hrun : replace p content d = (result, d')) :
    d.Spares (fun q => spared q ∧ ¬ (result = .ok () ∧ d'.find p = .ok q)) d' := by
  have hstart : Replacement.Careful spared d (.planned p content) d := .of_closed (.refl hd) rfl
  have hend := (Replacement.steps_careful enoughSteps htmp hstart).spares
  rw [Replacement.path_steps] at hend
  have hrun' : (((Replacement.planned p content).steps enoughSteps d).1.stage.outcome,
      ((Replacement.planned p content).steps enoughSteps d).2) = (result, d') := hrun
  generalize (Replacement.planned p content).steps enoughSteps d = last at hend hrun'
  obtain ⟨rfl, rfl⟩ := Prod.mk.inj hrun'
  refine ⟨hend.sound, hend.here, hend.directories, ?_⟩
  intro q hq
  refine hend.content q ⟨hq.1, ?_⟩
  rintro ⟨hdone, hfind⟩
  exact hq.2 ⟨by rw [hdone]; rfl, hfind⟩

end SandboxClient.Files
