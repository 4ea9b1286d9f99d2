/-
  SandboxClient/Proofs/Files/Calls.lean
  =====================================
  **When a call to a disk succeeds.** For each call an equivalence says when it has
  a result and what the disk is like then. None of the calls that write a file
  makes a directory of a place or a file of a directory, so a path leads to the
  same place before and after them; this is `Disk.Keeps`.
-/
import SandboxClient.Files.Disk

namespace SandboxClient.Files

/-! ### Calls one after the other

Rules by which a call that is put together from others is taken apart. -/

section Sequence

variable {ε σ α β : Type}

/-- After a call that succeeds the next one goes on with its result. -/
theorem bind_of_ok {x : ExceptT ε (StateM σ) α} {f : α → ExceptT ε (StateM σ) β} {s t : σ} {a : α}
    (h : x s = (.ok a, t)) : (x >>= f) s = f a t := by
  show (match x s with | (a, t) => ExceptT.bindCont f a t) = _
  rw [h]
  rfl

/-- Two calls one after the other succeed when both do. -/
theorem bind_eq_ok {x : ExceptT ε (StateM σ) α} {f : α → ExceptT ε (StateM σ) β} {s s' : σ}
    {b : β} : (x >>= f) s = (.ok b, s') ↔ ∃ a t, x s = (.ok a, t) ∧ f a t = (.ok b, s') := by
  show (match x s with | (a, t) => ExceptT.bindCont f a t) = _ ↔ _
  rcases x s with ⟨e | a, t⟩
  · constructor
    · intro h
      cases h
    · rintro ⟨a, t', h, -⟩
      cases h
  · constructor
    · intro h
      exact ⟨a, t, rfl, h⟩
    · rintro ⟨a', t', h, hf⟩
      cases h
      exact hf

theorem pure_eq_ok {a b : α} {s s' : σ} :
    (pure a : ExceptT ε (StateM σ) α) s = (.ok b, s') ↔ b = a ∧ s' = s := by
  constructor
  · intro h
    cases h
    exact ⟨rfl, rfl⟩
  · rintro ⟨rfl, rfl⟩
    rfl

theorem get_eq_ok {a s s' : σ} :
    (get : ExceptT ε (StateM σ) σ) s = (.ok a, s') ↔ a = s ∧ s' = s := by
  constructor
  · intro h
    cases h
    exact ⟨rfl, rfl⟩
  · rintro ⟨rfl, rfl⟩
    rfl

theorem set_eq_ok {a s s' : σ} {u : PUnit} :
    (set a : ExceptT ε (StateM σ) PUnit) s = (.ok u, s') ↔ s' = a := by
  constructor
  · intro h
    cases h
    rfl
  · rintro rfl
    rfl

theorem modify_eq_ok {f : σ → σ} {s s' : σ} {u : PUnit} :
    (modify f : ExceptT ε (StateM σ) PUnit) s = (.ok u, s') ↔ s' = f s := by
  constructor
  · intro h
    cases h
    rfl
  · rintro rfl
    rfl

theorem throw_ne_ok {e : ε} {b : α} {s s' : σ} :
    ¬ (throw e : ExceptT ε (StateM σ) α) s = (.ok b, s') := by
  intro h
  cases h

end Sequence

/-! ### What stands where -/

/-- What stands at a place after a change of the file of a serial number. -/
def Item.changed (serial : Nat) (f : List UInt8 → List UInt8) : Item → Item
  | .file n content mode => .file n (if n = serial then f content else content) mode
  | .directory mode => .directory mode

namespace Disk

theorem lookup_without (items : List (Place × Item)) (p q : Place) :
    (items.filter (fun e => e.1 != p)).lookup q = if q = p then none else items.lookup q := by
  induction items with
  | nil => simp
  | cons e es ih =>
    obtain ⟨r, i⟩ := e
    by_cases hr : r = p
    · rw [List.filter_cons_of_neg (by simpa using hr), ih, List.lookup_cons]
      split
      · rfl
      · rename_i hq
        rw [beq_eq_false_iff_ne.mpr (hr ▸ hq)]
    · rw [List.filter_cons_of_pos (by simpa using hr), List.lookup_cons, List.lookup_cons, ih]
      split
      · rename_i hq
        rw [if_neg (beq_iff_eq.mp hq ▸ hr)]
      · rfl

theorem items_change (d : Disk) (serial : Nat) (f : List UInt8 → List UInt8) :
    (d.change serial f).items = d.items.map (fun e => (e.1, e.2.changed serial f)) := by
  unfold change
  refine List.map_congr_left ?_
  rintro ⟨r, i⟩ -
  cases i with
  | directory mode => rfl
  | file n content mode => by_cases hn : n = serial <;> simp [Item.changed, hn]

theorem lookup_changed (items : List (Place × Item)) (f : Item → Item) (q : Place) :
    (items.map (fun e => (e.1, f e.2))).lookup q = (items.lookup q).map f := by
  induction items with
  | nil => rfl
  | cons e es ih =>
    rw [List.map_cons, List.lookup_cons, List.lookup_cons, ih]
    split <;> rfl

/-- Nothing but the root is left at a place that has been emptied. -/
theorem item?_without (d : Disk) (p q : Place) :
    (d.without p).item? q = if q ≠ [] ∧ q = p then none else d.item? q := by
  unfold item? without
  rw [lookup_without]
  cases q with
  | nil => rfl
  | cons name names => simp

theorem item?_put (d : Disk) (p q : Place) (i : Item) :
    (d.put p i).item? q = if q ≠ [] ∧ q = p then some i else d.item? q := by
  unfold item? put without
  rw [List.lookup_append, lookup_without, List.lookup_cons, List.lookup_nil]
  cases q with
  | nil => rfl
  | cons name names =>
    by_cases hp : name :: names = p
    · subst hp
      simp
    · have hb : (name :: names == p) = false := beq_eq_false_iff_ne.mpr hp
      simp [hp, hb]

theorem item?_change (d : Disk) (serial : Nat) (f : List UInt8 → List UInt8) (q : Place) :
    (d.change serial f).item? q = (d.item? q).map (Item.changed serial f) := by
  unfold item?
  rw [items_change, lookup_changed]
  cases q with
  | nil => rfl
  | cons name names => rfl

/-! ### Where paths lead

Ways depend on directories only, so whatever keeps these keeps all ways. -/

variable {d d' : Disk}

/-- The disk after a call that has only been counted. -/
def counted (d : Disk) : Disk := { d with calls := d.calls + 1 }

@[simp] theorem counted_item? (d : Disk) (p : Place) : d.counted.item? p = d.item? p := rfl

@[simp] theorem counted_isDirectory (d : Disk) (p : Place) :
    d.counted.isDirectory p = d.isDirectory p := rfl

theorem isDirectory_iff {p : Place} :
    d.isDirectory p = true ↔ ∃ mode, d.item? p = some (.directory mode) := by
  unfold isDirectory
  split
  · rename_i mode h
    exact ⟨fun _ => ⟨mode, h⟩, fun _ => rfl⟩
  · rename_i hno
    constructor
    · intro h
      cases h
    · rintro ⟨mode, h⟩
      exact absurd h (hno mode)

theorem counted_walk (d : Disk) (p : Place) (names : List String) :
    d.counted.walk p names = d.walk p names := by
  induction names generalizing p with
  | nil => rfl
  | cons name names ih =>
    unfold walk
    simp only [counted_item?, ih]

@[simp] theorem counted_find (d : Disk) (p : Path) : d.counted.find p = d.find p :=
  counted_walk d _ p.names

/-- The same directories stand on both disks, the same one is worked in, and the same trouble
awaits calls. -/
structure Keeps (d d' : Disk) : Prop where
  here : d'.here = d.here
  trouble : d'.trouble = d.trouble
  isDirectory : ∀ p, d'.isDirectory p = d.isDirectory p

theorem Keeps.trans {d₁ d₂ d₃ : Disk} (h : d₁.Keeps d₂) (h' : d₂.Keeps d₃) : d₁.Keeps d₃ :=
  ⟨h'.here.trans h.here, h'.trouble.trans h.trouble,
    fun p => (h'.isDirectory p).trans (h.isDirectory p)⟩

theorem Keeps.counted (d : Disk) : d.Keeps d.counted := ⟨rfl, rfl, fun _ => rfl⟩

theorem Keeps.put {p : Place} (hp : d.isDirectory p = false) (n : Nat) (content : List UInt8)
    (mode : Nat) : d.Keeps (d.put p (.file n content mode)) := by
  refine ⟨rfl, rfl, ?_⟩
  intro q
  unfold Disk.isDirectory
  rw [item?_put]
  by_cases hq : q ≠ [] ∧ q = p
  · rw [if_pos hq]
    rw [← hq.2] at hp
    exact hp.symm
  · rw [if_neg hq]

theorem Keeps.without {p : Place} (hp : d.isDirectory p = false) : d.Keeps (d.without p) := by
  refine ⟨rfl, rfl, ?_⟩
  intro q
  unfold Disk.isDirectory
  rw [item?_without]
  by_cases hq : q ≠ [] ∧ q = p
  · rw [if_pos hq]
    rw [← hq.2] at hp
    exact hp.symm
  · rw [if_neg hq]

theorem Keeps.change (d : Disk) (serial : Nat) (f : List UInt8 → List UInt8) :
    d.Keeps (d.change serial f) := by
  refine ⟨rfl, rfl, ?_⟩
  intro q
  unfold Disk.isDirectory
  rw [item?_change]
  rcases d.item? q with - | ⟨mode | ⟨n, content, mode⟩⟩ <;> rfl

/-- The first step of a way leaves a directory. -/
theorem walk_cons_eq_ok {p q : Place} {name : String} {names : List String} :
    d.walk p (name :: names) = .ok q ↔ d.isDirectory p = true ∧
      d.walk (if name == above then p.dropLast else p ++ [name]) names = .ok q := by
  rw [isDirectory_iff, walk]
  cases hi : d.item? p with
  | none => simp
  | some i =>
    cases i with
    | file n content mode => simp
    | directory mode => simp

/-- A way goes through directories only, so where they stay it leads to the same place. -/
theorem walk_of_isDirectory (h : ∀ p, d.isDirectory p = true → d'.isDirectory p = true)
    {names : List String} {p q : Place} (hwalk : d.walk p names = .ok q) :
    d'.walk p names = .ok q := by
  induction names generalizing p with
  | nil => exact hwalk
  | cons name names ih =>
    obtain ⟨hdir, hrest⟩ := walk_cons_eq_ok.mp hwalk
    exact walk_cons_eq_ok.mpr ⟨h p hdir, ih hrest⟩

theorem find_of_isDirectory (hhere : d'.here = d.here)
    (h : ∀ p, d.isDirectory p = true → d'.isDirectory p = true) {p : Path} {q : Place}
    (hq : d.find p = .ok q) : d'.find p = .ok q := by
  unfold Disk.find at hq ⊢
  rw [hhere]
  exact walk_of_isDirectory h hq

theorem Keeps.find (h : d.Keeps d') {p : Path} {q : Place} (hq : d.find p = .ok q) :
    d'.find p = .ok q :=
  find_of_isDirectory h.here (fun p hp => (h.isDirectory p).trans hp) hq

end Disk

/-! ### Calls that succeed -/

section Calls

variable {d d' : Disk} {u : Unit}

theorem begin_eq_ok {t : Option Nat} :
    begin d = (.ok t, d') ↔ t = d.trouble d.calls ∧ d' = d.counted := by
  unfold begin
  simp only [bind_eq_ok, get_eq_ok, set_eq_ok, pure_eq_ok]
  constructor
  · rintro ⟨-, -, ⟨rfl, rfl⟩, -, -, rfl, rfl, rfl⟩
    exact ⟨rfl, rfl⟩
  · rintro ⟨rfl, rfl⟩
    exact ⟨d, d, ⟨rfl, rfl⟩, ⟨⟩, _, rfl, rfl, rfl⟩

theorem beginWhole_eq_ok :
    beginWhole d = (.ok u, d') ↔ d.trouble d.calls = none ∧ d' = d.counted := by
  unfold beginWhole
  simp only [bind_eq_ok, begin_eq_ok]
  constructor
  · rintro ⟨t, -, ⟨rfl, rfl⟩, h⟩
    split at h
    · exact absurd h throw_ne_ok
    · rename_i hnone
      exact ⟨by simpa using hnone, (pure_eq_ok.mp h).2⟩
  · rintro ⟨hnone, rfl⟩
    exact ⟨_, _, ⟨rfl, rfl⟩, by simp [hnone, pure_eq_ok]⟩

theorem place_eq_ok {p : Path} {q : Place} :
    place p d = (.ok q, d') ↔ d.find p = .ok q ∧ d' = d := by
  unfold place
  rw [Prod.mk.injEq, eq_comm (a := d)]

/-- A call that is about one path is begun, finds the place that the path leads to, and goes on
with the disk that it meets. -/
theorem located_eq_ok {β : Type} {p : Path} {f : Place → Disk → DiskCall β} {b : β} :
    (do beginWhole; let q ← place p; let e ← get; f q e : DiskCall β) d = (.ok b, d') ↔
      d.trouble d.calls = none ∧
        ∃ q, d.find p = .ok q ∧ f q d.counted d.counted = (.ok b, d') := by
  simp only [bind_eq_ok, beginWhole_eq_ok, place_eq_ok, get_eq_ok]
  constructor
  · rintro ⟨-, -, ⟨ht, rfl⟩, q, -, ⟨hq, rfl⟩, -, -, ⟨rfl, rfl⟩, h⟩
    exact ⟨ht, q, Disk.counted_find d p ▸ hq, h⟩
  · rintro ⟨ht, q, hq, h⟩
    exact ⟨(), _, ⟨ht, rfl⟩, q, _, ⟨(Disk.counted_find d p).trans hq, rfl⟩, _, _, ⟨rfl, rfl⟩, h⟩

theorem readFile_eq_ok {p : Path} {content : List UInt8} :
    readFile p d = (.ok content, d') ↔ d.trouble d.calls = none ∧ d' = d.counted ∧
      ∃ q n mode, d.find p = .ok q ∧ d.item? q = some (.file n content mode) := by
  unfold readFile
  rw [located_eq_ok]
  constructor
  · rintro ⟨ht, q, hq, h⟩
    rw [Disk.counted_item?] at h
    cases hi : d.item? q with
    | none =>
      rw [hi] at h
      exact absurd h throw_ne_ok
    | some i =>
      cases i with
      | directory mode =>
        rw [hi] at h
        exact absurd h throw_ne_ok
      | file n c mode =>
        rw [hi] at h
        obtain ⟨rfl, rfl⟩ := pure_eq_ok.mp h
        exact ⟨ht, rfl, q, n, mode, hq, hi⟩
  · rintro ⟨ht, rfl, q, n, mode, hq, hi⟩
    refine ⟨ht, q, hq, ?_⟩
    rw [Disk.counted_item?, hi]
    exact pure_eq_ok.mpr ⟨rfl, rfl⟩

theorem openEmpty_eq_ok {mode : Nat} {p : Path} {n : Nat} :
    openEmpty mode p d = (.ok n, d') ↔ d.trouble d.calls = none ∧ ∃ q, d.find p = .ok q ∧
      ((∃ content kept, d.item? q = some (.file n content kept) ∧
          d' = d.counted.put q (.file n [] kept)) ∨
        (d.item? q = none ∧ n = d.nextSerial ∧
          d' = { d.counted.put q (.file n [] mode) with nextSerial := n + 1 })) := by
  unfold openEmpty
  rw [located_eq_ok]
  constructor
  · rintro ⟨ht, q, hq, h⟩
    rw [Disk.counted_item?] at h
    refine ⟨ht, q, hq, ?_⟩
    cases hi : d.item? q with
    | none =>
      simp only [hi, bind_eq_ok, set_eq_ok, pure_eq_ok] at h
      obtain ⟨-, -, rfl, rfl, rfl⟩ := h
      exact Or.inr ⟨rfl, rfl, rfl⟩
    | some i =>
      cases i with
      | directory kept =>
        rw [hi] at h
        exact absurd h throw_ne_ok
      | file serial c kept =>
        simp only [hi, bind_eq_ok, set_eq_ok, pure_eq_ok] at h
        obtain ⟨-, -, rfl, rfl, rfl⟩ := h
        exact Or.inl ⟨c, kept, rfl, rfl⟩
  · rintro ⟨ht, q, hq, h⟩
    refine ⟨ht, q, hq, ?_⟩
    rcases h with ⟨c, kept, hi, rfl⟩ | ⟨hi, rfl, rfl⟩
    · simp only [Disk.counted_item?, hi, bind_eq_ok, set_eq_ok, pure_eq_ok]
      exact ⟨⟨⟩, _, rfl, trivial, rfl⟩
    · simp only [Disk.counted_item?, hi, bind_eq_ok, set_eq_ok, pure_eq_ok]
      exact ⟨⟨⟩, _, rfl, rfl, rfl⟩

theorem setMode_eq_ok {mode : Nat} {p : Path} :
    setMode mode p d = (.ok u, d') ↔ d.trouble d.calls = none ∧ ∃ q, d.find p = .ok q ∧
      ((∃ n content kept, d.item? q = some (.file n content kept) ∧
          d' = d.counted.put q (.file n content mode)) ∨
        (∃ kept, d.item? q = some (.directory kept) ∧ d' = d.counted.put q (.directory mode))) := by
  unfold setMode
  rw [located_eq_ok]
  constructor
  · rintro ⟨ht, q, hq, h⟩
    rw [Disk.counted_item?] at h
    refine ⟨ht, q, hq, ?_⟩
    cases hi : d.item? q with
    | none =>
      rw [hi] at h
      exact absurd h throw_ne_ok
    | some i =>
      rw [hi] at h
      cases i with
      | directory kept => exact Or.inr ⟨kept, rfl, set_eq_ok.mp h⟩
      | file n content kept => exact Or.inl ⟨n, content, kept, rfl, set_eq_ok.mp h⟩
  · rintro ⟨ht, q, hq, h⟩
    refine ⟨ht, q, hq, ?_⟩
    rw [Disk.counted_item?]
    rcases h with ⟨n, content, kept, hi, rfl⟩ | ⟨kept, hi, rfl⟩
    · rw [hi]
      exact set_eq_ok.mpr rfl
    · rw [hi]
      exact set_eq_ok.mpr rfl

@[simp] theorem writtenOver_nil (octets : List UInt8) : writtenOver octets [] = octets := by
  simp [writtenOver]

theorem write_eq_ok {serial : Nat} {octets : List UInt8} :
    write serial octets d = (.ok u, d') ↔
      d.trouble d.calls = none ∧ d' = d.counted.change serial (writtenOver octets) := by
  unfold write
  simp only [bind_eq_ok, begin_eq_ok]
  constructor
  · rintro ⟨t, -, ⟨rfl, rfl⟩, h⟩
    cases ht : d.trouble d.calls with
    | none =>
      rw [ht] at h
      exact ⟨rfl, modify_eq_ok.mp h⟩
    | some written =>
      rw [ht] at h
      obtain ⟨_, _, _, hthrow⟩ := bind_eq_ok.mp h
      exact absurd hthrow throw_ne_ok
  · rintro ⟨ht, rfl⟩
    refine ⟨_, _, ⟨rfl, rfl⟩, ?_⟩
    rw [ht]
    exact modify_eq_ok.mpr rfl

theorem move_eq_ok {source target : Path} :
    move source target d = (.ok u, d') ↔ d.trouble d.calls = none ∧
      ∃ s t n content mode, d.find source = .ok s ∧ d.find target = .ok t ∧
        d.item? s = some (.file n content mode) ∧ d.isDirectory t = false ∧
        d' = (d.counted.without s).put t (.file n content mode) := by
  unfold move
  simp only [bind_eq_ok, beginWhole_eq_ok, place_eq_ok, get_eq_ok]
  constructor
  · rintro ⟨-, -, ⟨ht, rfl⟩, s, -, ⟨hs, rfl⟩, t, -, ⟨htarget, rfl⟩, -, -, ⟨rfl, rfl⟩, h⟩
    rw [Disk.counted_find] at hs htarget
    rw [Disk.counted_item?] at h
    cases hi : d.item? s with
    | none =>
      rw [hi] at h
      exact absurd h throw_ne_ok
    | some i =>
      rw [hi] at h
      cases i with
      | directory mode => exact absurd h throw_ne_ok
      | file n content mode =>
        by_cases hd : d.counted.isDirectory t = true
        · simp only [if_pos hd] at h
          obtain ⟨_, _, hthrow, -⟩ := bind_eq_ok.mp h
          exact absurd hthrow throw_ne_ok
        · simp only [if_neg hd] at h
          exact ⟨ht, s, t, n, content, mode, hs, htarget, hi, by simpa using hd, set_eq_ok.mp h⟩
  · rintro ⟨ht, s, t, n, content, mode, hs, htarget, hi, hd, rfl⟩
    refine ⟨(), _, ⟨ht, rfl⟩, s, _, ⟨(Disk.counted_find d source).trans hs, rfl⟩, t, _,
      ⟨(Disk.counted_find d target).trans htarget, rfl⟩, _, _, ⟨rfl, rfl⟩, ?_⟩
    have hno : ¬ d.counted.isDirectory t = true := by simp [hd]
    simp only [Disk.counted_item?, hi, if_neg hno]
    exact set_eq_ok.mpr rfl

end Calls

end SandboxClient.Files
