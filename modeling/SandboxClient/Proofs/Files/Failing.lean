/-
  SandboxClient/Proofs/Files/Failing.lean
  =======================================
  **What calls leave behind when they fail.** A call that fails has changed nothing
  on the disk, but that it is counted. Only what is written to an open file may
  be written in part.
-/
import SandboxClient.Proofs.Files.Calls

namespace SandboxClient.Files

/-! ### Calls that fail -/

section Failing

variable {ε σ α β : Type}

theorem bind_eq_error {x : ExceptT ε (StateM σ) α} {f : α → ExceptT ε (StateM σ) β} {s s' : σ}
    {e : ε} : (x >>= f) s = (.error e, s') ↔
      x s = (.error e, s') ∨ ∃ a t, x s = (.ok a, t) ∧ f a t = (.error e, s') := by
  show (match x s with | (a, t) => ExceptT.bindCont f a t) = _ ↔ _
  rcases x s with ⟨e' | a, t⟩
  · constructor
    · intro h
      cases h
      exact Or.inl rfl
    · rintro (h | ⟨a, t', h, -⟩)
      · cases h
        rfl
      · cases h
  · constructor
    · intro h
      exact Or.inr ⟨a, t, rfl, h⟩
    · rintro (h | ⟨a', t', h, hf⟩)
      · cases h
      · cases h
        exact hf

theorem pure_ne_error {a : α} {e : ε} {s s' : σ} :
    ¬ (pure a : ExceptT ε (StateM σ) α) s = (.error e, s') := by
  intro h
  cases h

theorem throw_eq_error {e e' : ε} {s s' : σ} :
    (throw e : ExceptT ε (StateM σ) α) s = (.error e', s') ↔ e' = e ∧ s' = s := by
  constructor
  · intro h
    cases h
    exact ⟨rfl, rfl⟩
  · rintro ⟨rfl, rfl⟩
    rfl

end Failing

section Calls

variable {d d' : Disk} {fault : DiskFault} {α : Type}

theorem beginWhole_error (h : beginWhole d = (.error fault, d')) : d' = d.counted := by
  unfold beginWhole at h
  obtain hbegin | ⟨t, e, hbegin, hrest⟩ := bind_eq_error.mp h
  · cases hbegin
  · obtain ⟨-, rfl⟩ := begin_eq_ok.mp hbegin
    cases t with
    | none => exact absurd hrest pure_ne_error
    | some _ => exact (throw_eq_error.mp hrest).2

theorem place_error {p : Path} (h : place p d = (.error fault, d')) : d' = d :=
  (congrArg Prod.snd h).symm

/-- What fails after finding a place changes nothing if it changes nothing before it fails. -/
theorem placed_error {p : Path} {f : Place → Disk → DiskCall α}
    (hf : ∀ q e e', f q e e = (.error fault, e') → e' = e)
    (h : (do let q ← place p; let e ← get; f q e : DiskCall α) d = (.error fault, d')) :
    d' = d := by
  obtain hplace | ⟨q, e, hplace, hrest⟩ := bind_eq_error.mp h
  · exact place_error hplace
  · obtain ⟨-, rfl⟩ := place_eq_ok.mp hplace
    obtain hget | ⟨e', e'', hget, hlast⟩ := bind_eq_error.mp hrest
    · cases hget
    · obtain ⟨rfl, rfl⟩ := get_eq_ok.mp hget
      exact hf q _ _ hlast

theorem located_error {p : Path} {f : Place → Disk → DiskCall α}
    (hf : ∀ q e e', f q e e = (.error fault, e') → e' = e)
    (h : (do beginWhole; let q ← place p; let e ← get; f q e : DiskCall α) d = (.error fault, d')) :
    d' = d.counted := by
  obtain hbegin | ⟨u, e, hbegin, hrest⟩ := bind_eq_error.mp h
  · exact beginWhole_error hbegin
  · obtain ⟨-, rfl⟩ := beginWhole_eq_ok.mp hbegin
    exact placed_error hf hrest

theorem readFile_error {p : Path} (h : readFile p d = (.error fault, d')) : d' = d.counted := by
  refine located_error ?_ h
  intro q e e' hf
  cases hi : e.item? q with
  | none =>
    rw [hi] at hf
    exact (throw_eq_error.mp hf).2
  | some i =>
    rw [hi] at hf
    cases i with
    | directory kept => exact (throw_eq_error.mp hf).2
    | file n content kept => exact absurd hf pure_ne_error

theorem openEmpty_error {mode : Nat} {p : Path} (h : openEmpty mode p d = (.error fault, d')) :
    d' = d.counted := by
  refine located_error ?_ h
  intro q e e' hf
  cases hi : e.item? q with
  | none =>
    rw [hi] at hf
    cases hf
  | some i =>
    rw [hi] at hf
    cases i with
    | directory kept => exact (throw_eq_error.mp hf).2
    | file n content kept => cases hf

theorem setMode_error {mode : Nat} {p : Path} (h : setMode mode p d = (.error fault, d')) :
    d' = d.counted := by
  refine located_error ?_ h
  intro q e e' hf
  cases hi : e.item? q with
  | none =>
    rw [hi] at hf
    exact (throw_eq_error.mp hf).2
  | some i =>
    rw [hi] at hf
    cases i with
    | directory kept => cases hf
    | file n content kept => cases hf

theorem remove_error {p : Path} (h : remove p d = (.error fault, d')) : d' = d.counted := by
  refine located_error ?_ h
  intro q e e' hf
  cases hi : e.item? q with
  | none =>
    rw [hi] at hf
    exact (throw_eq_error.mp hf).2
  | some i =>
    rw [hi] at hf
    cases i with
    | directory kept => exact (throw_eq_error.mp hf).2
    | file n content kept => cases hf

theorem remove_eq_ok {p : Path} {u : Unit} : remove p d = (.ok u, d') ↔
    d.trouble d.calls = none ∧ ∃ q n content mode, d.find p = .ok q ∧
      d.item? q = some (.file n content mode) ∧ d' = d.counted.without q := by
  unfold remove
  rw [located_eq_ok]
  constructor
  · rintro ⟨ht, q, hq, h⟩
    rw [Disk.counted_item?] at h
    cases hi : d.item? q with
    | none =>
      rw [hi] at h
      exact absurd h throw_ne_ok
    | some i =>
      rw [hi] at h
      cases i with
      | directory kept => exact absurd h throw_ne_ok
      | file n content mode => exact ⟨ht, q, n, content, mode, hq, hi, set_eq_ok.mp h⟩
  · rintro ⟨ht, q, n, content, mode, hq, hi, rfl⟩
    refine ⟨ht, q, hq, ?_⟩
    rw [Disk.counted_item?, hi]
    exact set_eq_ok.mpr rfl

theorem move_error {source target : Path} (h : move source target d = (.error fault, d')) :
    d' = d.counted := by
  obtain hbegin | ⟨u, e, hbegin, hrest⟩ := bind_eq_error.mp h
  · exact beginWhole_error hbegin
  · obtain ⟨-, rfl⟩ := beginWhole_eq_ok.mp hbegin
    obtain hplace | ⟨s, e', hplace, hlast⟩ := bind_eq_error.mp hrest
    · exact place_error hplace
    · obtain ⟨-, rfl⟩ := place_eq_ok.mp hplace
      refine placed_error ?_ hlast
      intro t e e' hf
      cases hi : e.item? s with
      | none =>
        rw [hi] at hf
        exact (throw_eq_error.mp hf).2
      | some i =>
        rw [hi] at hf
        cases i with
        | directory kept => exact (throw_eq_error.mp hf).2
        | file n content mode =>
          by_cases hd : e.isDirectory t = true
          · simp only [if_pos hd] at hf
            obtain hthrow | ⟨_, _, hthrow, -⟩ := bind_eq_error.mp hf
            · exact (throw_eq_error.mp hthrow).2
            · exact absurd hthrow throw_ne_ok
          · simp only [if_neg hd] at hf
            cases hf

theorem write_error {serial : Nat} {octets : List UInt8}
    (h : write serial octets d = (.error fault, d')) :
    ∃ f, d' = d.counted.change serial f := by
  obtain hbegin | ⟨t, e, hbegin, hrest⟩ := bind_eq_error.mp h
  · cases hbegin
  · obtain ⟨-, rfl⟩ := begin_eq_ok.mp hbegin
    cases t with
    | none => cases hrest
    | some written =>
      obtain hmodify | ⟨u, e', hmodify, hthrow⟩ := bind_eq_error.mp hrest
      · cases hmodify
      · obtain ⟨-, rfl⟩ := throw_eq_error.mp hthrow
        exact ⟨_, modify_eq_ok.mp hmodify⟩

end Calls

end SandboxClient.Files
