/-
  SandboxClient/Proofs/Session/PortWait.lean
  ==========================================
  **How long a port is waited for.** The loop has no counter and its attempts take
  what time they take. `start` says when each attempt begins and `EndsAt` which of
  them may be the last; as a pause follows every attempt but the last, the deadline
  is reached. What a wait does is written down in order, and `port_wait_bounded`
  says how often and until when the port is tried.
-/
import SandboxClient.Session.Waiting
import Mathlib.Algebra.Order.Floor.Div

namespace SandboxClient.Session

/-! ### A wait that is followed -/

/-- The moments at which the port is tried. -/
def attemptMoments : List WaitAct → List Nat
  | [] => []
  | .attempt moment :: acts => moment :: attemptMoments acts
  | .retry _ :: acts => attemptMoments acts

/-- How many times it is said that the port will be tried again. -/
def retries : List WaitAct → Nat
  | [] => 0
  | .attempt _ :: acts => retries acts
  | .retry _ :: acts => retries acts + 1

@[simp] theorem attemptMoments_append (acts acts' : List WaitAct) :
    attemptMoments (acts ++ acts') = attemptMoments acts ++ attemptMoments acts' := by
  induction acts with
  | nil => rfl
  | cons act acts ih => cases act <;> simp [attemptMoments, ih]

@[simp] theorem retries_append (acts acts' : List WaitAct) :
    retries (acts ++ acts') = retries acts + retries acts' := by
  induction acts with
  | nil => simp [retries]
  | cons act acts ih =>
    cases act with
    | attempt moment => exact ih
    | retry moment =>
      simp only [List.cons_append, retries, ih]
      omega

namespace Patience

/-- When the attempt after `n` others begins. -/
def start (p : Patience) (attempt : Nat → Attempt) : Nat → Nat
  | 0 => 0
  | n + 1 => p.start attempt n + (attempt n).took + p.pause

/-- The attempt after `n` others is the last one if it is made: the port accepts the connection, or
one more attempt would not begin before the deadline. -/
def EndsAt (p : Patience) (attempt : Nat → Attempt) (n : Nat) : Prop :=
  (attempt n).connected = true ∨ p.deadline ≤ p.start attempt (n + 1)

instance (p : Patience) (attempt : Nat → Attempt) : DecidablePred (p.EndsAt attempt) :=
  fun _ => inferInstanceAs (Decidable (_ ∨ _))

variable {p : Patience} {attempt : Nat → Attempt} {n : Nat}

theorem start_succ (n : Nat) :
    p.start attempt (n + 1) = p.start attempt n + (attempt n).took + p.pause := rfl

/-! ### One attempt

The loop is opened once, here; everything else is about attempts. -/

/-- **One attempt.** It is the last one, or a pause and the next one follow. -/
theorem waitFrom_step (n : Nat) :
    p.waitFrom attempt n (p.start attempt n) =
      if p.EndsAt attempt n then
        (⟨(attempt n).connected, n + 1, n, p.start attempt n + (attempt n).took⟩,
          [.attempt (p.start attempt n)])
      else
        ((p.waitFrom attempt (n + 1) (p.start attempt (n + 1))).1,
          [.attempt (p.start attempt n), .retry (p.start attempt n + (attempt n).took)] ++
            (p.waitFrom attempt (n + 1) (p.start attempt (n + 1))).2) := by
  rw [waitFrom, start_succ]
  by_cases hconnected : (attempt n).connected = true
  · have hends : p.EndsAt attempt n := Or.inl hconnected
    rw [if_pos hconnected, if_pos hends, hconnected]
  · have hends : p.EndsAt attempt n ↔ _ ≥ p.deadline := or_iff_right hconnected
    simp only [hconnected, hends, start_succ, if_false, Bool.false_eq_true]
    rfl

/-! ### The whole wait -/

/-- So many attempts, each with another one to follow. -/
def rounds (p : Patience) (attempt : Nat → Attempt) (n : Nat) : List WaitAct :=
  (List.range n).flatMap fun k =>
    [.attempt (p.start attempt k), .retry (p.start attempt k + (attempt k).took)]

theorem rounds_succ (n : Nat) :
    p.rounds attempt (n + 1) = p.rounds attempt n ++
      [.attempt (p.start attempt n), .retry (p.start attempt n + (attempt n).took)] := by
  simp [rounds, List.range_succ]

theorem attemptMoments_rounds (n : Nat) :
    attemptMoments (p.rounds attempt n) = (List.range n).map (p.start attempt) := by
  induction n with
  | zero => rfl
  | succ n ih =>
    rw [rounds_succ, attemptMoments_append, ih, List.range_succ, List.map_append]
    rfl

theorem retries_rounds (n : Nat) : retries (p.rounds attempt n) = n := by
  induction n with
  | zero => rfl
  | succ n ih =>
    rw [rounds_succ, retries_append, ih]
    rfl

/-- As long as no attempt is the last one, one follows the other. -/
theorem wait_until (h : ∀ k < n, ¬ p.EndsAt attempt k) :
    p.waitFrom attempt 0 0 = ((p.waitFrom attempt n (p.start attempt n)).1,
      p.rounds attempt n ++ (p.waitFrom attempt n (p.start attempt n)).2) := by
  induction n with
  | zero => rfl
  | succ n ih =>
    have hgoes := h n (Nat.lt_succ_self n)
    rw [ih (fun k hk => h k (Nat.lt_succ_of_lt hk)), waitFrom_step, if_neg hgoes, rounds_succ,
      List.append_assoc]

/-- The whole wait is told by the first attempt that may be the last one. -/
theorem wait_of_endsAt (hends : p.EndsAt attempt n) (hfirst : ∀ k < n, ¬ p.EndsAt attempt k) :
    p.wait attempt = ⟨(attempt n).connected, n + 1, n, p.start attempt n + (attempt n).took⟩ ∧
      p.acts attempt = p.rounds attempt n ++ [.attempt (p.start attempt n)] := by
  rw [wait, acts, wait_until hfirst, waitFrom_step, if_pos hends]
  exact ⟨rfl, rfl⟩

/-! ### Bounds

The time goes up by a pause with each attempt, whatever the attempts themselves take. -/

theorem mul_pause_le_start (p : Patience) (attempt : Nat → Attempt) (n : Nat) :
    n * p.pause ≤ p.start attempt n := by
  induction n with
  | zero => simp [start]
  | succ n ih =>
    rw [Nat.succ_mul, start_succ]
    omega

/-- The pauses alone bring a wait to its deadline, so some attempt is the last one. -/
theorem exists_last (p : Patience) (attempt : Nat → Attempt) :
    ∃ n, p.EndsAt attempt n ∧ ∀ k < n, ¬ p.EndsAt attempt k := by
  have hends : ∃ n, p.EndsAt attempt n := by
    -- a pause is at least one moment long, so this many reach the deadline
    refine ⟨p.deadline, Or.inr ?_⟩
    have hpauses := mul_pause_le_start p attempt (p.deadline + 1)
    have hpos := Nat.le_mul_of_pos_right (p.deadline + 1) p.pause_pos
    omega
  exact ⟨Nat.find hends, Nat.find_spec hends, fun k hk => Nat.find_min hends hk⟩

section Last

variable (hfirst : ∀ k < n, ¬ p.EndsAt attempt k)

include hfirst

theorem failed_before {k : Nat} (hk : k < n) : (attempt k).connected = false :=
  Bool.eq_false_iff.mpr fun hconnected => hfirst k hk (Or.inl hconnected)

theorem start_lt_deadline (hn : n ≠ 0) : p.start attempt n < p.deadline := by
  obtain ⟨k, rfl⟩ := Nat.exists_eq_succ_of_ne_zero hn
  exact Nat.lt_of_not_le fun hlate => hfirst k (Nat.lt_succ_self k) (Or.inr hlate)

theorem start_le_deadline : p.start attempt n ≤ p.deadline := by
  by_cases hn : n = 0
  · rw [hn]
    exact Nat.zero_le p.deadline
  · exact Nat.le_of_lt (start_lt_deadline hfirst hn)

/-- There are no more attempts than pauses fit into the time, unless there is only one. -/
theorem succ_le_max_ceilDiv : n + 1 ≤ max 1 (p.deadline ⌈/⌉ p.pause) := by
  by_cases hn : n = 0
  · rw [hn]
    exact Nat.le_max_left 1 _
  · have hpauses := mul_pause_le_start p attempt n
    have hbefore := start_lt_deadline hfirst hn
    refine Nat.le_trans (Nat.lt_of_not_le ?_) (Nat.le_max_right 1 _)
    intro hfew
    rw [ceilDiv_le_iff_le_mul p.pause_pos, Nat.mul_comm] at hfew
    omega

end Last

/-- **How long a port is waited for.** The wait ends with the first attempt that succeeds, if it
comes to one. It makes at least one attempt, and if more, no more than pauses begin in the time up
to the deadline. An attempt begins one pause after the end of the one before, and all but the first
begin before the deadline. A wait that gives up does so when another attempt would not begin before
the deadline, and no longer after the deadline than an attempt may take. Another attempt is
announced once for each one but the first. -/
theorem port_wait_bounded (p : Patience) (attempt : Nat → Attempt) (limit : Nat)
    (hlimit : ∀ n, (attempt n).took ≤ limit) :
    let w := p.wait attempt
    (∀ n, n + 1 < w.attempts → (attempt n).connected = false) ∧
    (w.ready = true ↔ (attempt (w.attempts - 1)).connected = true) ∧
    1 ≤ w.attempts ∧ w.attempts ≤ max 1 (p.deadline ⌈/⌉ p.pause) ∧
    attemptMoments (p.acts attempt) = (List.range w.attempts).map (p.start attempt) ∧
    (∀ moment ∈ (attemptMoments (p.acts attempt)).tail, moment < p.deadline) ∧
    w.elapsed = p.start attempt (w.attempts - 1) + (attempt (w.attempts - 1)).took ∧
    (w.ready = false → p.deadline ≤ w.elapsed + p.pause ∧ w.elapsed ≤ p.deadline + limit) ∧
    retries (p.acts attempt) + 1 = w.attempts ∧ w.pauses + 1 = w.attempts := by
  obtain ⟨n, hends, hfirst⟩ := exists_last p attempt
  obtain ⟨hwait, hacts⟩ := wait_of_endsAt hends hfirst
  have hmoments : attemptMoments (p.acts attempt) = (List.range (n + 1)).map (p.start attempt) := by
    rw [hacts, attemptMoments_append, attemptMoments_rounds, List.range_succ, List.map_append]
    rfl
  have hretries : retries (p.acts attempt) = n := by
    rw [hacts, retries_append, retries_rounds]
    rfl
  rw [hwait, hmoments, hretries]
  refine ⟨?_, Iff.rfl, ?_, succ_le_max_ceilDiv hfirst, rfl, ?_, rfl, ?_, rfl, rfl⟩
  · intro k hk
    exact failed_before hfirst (Nat.lt_of_succ_lt_succ hk)
  · exact Nat.succ_le_succ (Nat.zero_le n)
  · intro moment hmoment
    rw [List.range_succ_eq_map, List.map_cons, List.tail_cons, List.map_map] at hmoment
    obtain ⟨k, hk, rfl⟩ := List.mem_map.mp hmoment
    have hbefore : k + 1 ≤ n := List.mem_range.mp hk
    exact start_lt_deadline (fun j hj => hfirst j (Nat.lt_of_lt_of_le hj hbefore))
      (Nat.succ_ne_zero k)
  · intro hfailed
    have hlate : p.deadline ≤ p.start attempt (n + 1) :=
      hends.resolve_left (Bool.eq_false_iff.mp hfailed)
    have hearly := start_le_deadline hfirst
    exact ⟨hlate, Nat.add_le_add hearly (hlimit n)⟩

/-- A port that refuses at once is tried five times in the time of five pauses. -/
theorem refused_port_given_up :
    let p : Patience := ⟨100, 20, by decide⟩
    let refused : Nat → Attempt := fun _ => ⟨false, 0⟩
    (∀ n, (refused n).took ≤ 50) ∧ p.wait refused = ⟨false, 5, 4, 80⟩ ∧
      attemptMoments (p.acts refused) = [0, 20, 40, 60, 80] ∧
      100 ≤ (p.wait refused).elapsed + 20 ∧ 5 ≤ max 1 (100 ⌈/⌉ 20) := by
  intro p refused
  have hlimit : ∀ n, (refused n).took ≤ 50 := fun _ => Nat.zero_le 50
  have hwait : p.wait refused = ⟨false, 5, 4, 80⟩ := by decide +kernel
  obtain ⟨-, -, -, hattempts, hmoments, -, -, hgivesUp, -⟩ := port_wait_bounded p refused 50 hlimit
  rw [hwait] at hattempts hmoments hgivesUp ⊢
  exact ⟨hlimit, rfl, hmoments, (hgivesUp rfl).1, hattempts⟩

end Patience

end SandboxClient.Session
