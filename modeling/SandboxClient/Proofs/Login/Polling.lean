/-
  SandboxClient/Proofs/Login/Polling.lean
  =======================================
  **How long a login asks.** A login is followed with the answers of the server
  given in advance and with a clock that only its own sleeps move; what it does
  is written down in order. The loop has no counter: that it ends, and after how
  many questions, comes from the time that has passed, which is a multiple of
  the interval and stays below the limit as long as the server is asked.
  `authorize_acts` gives all that a login does, in every case.
-/
import SandboxClient.Login.Device

namespace SandboxClient.Login

open SandboxClient.Remote (DeviceSession Verdict)

/-! ### A login that is followed

The answers are given in advance, one for each question, so that what the login does is a function
of them. -/

/-- What a login does. -/
inductive Act
  | requested
  | slept (seconds : Nat)
  | asked (code : String)
  | told (notice : Notice)
  deriving DecidableEq, Repr

def Act.isAsked : Act → Bool
  | .asked _ => true
  | _ => false

/-- How many times the server has been asked for a verdict. -/
def questions (acts : List Act) : Nat := acts.countP Act.isAsked

/-- The moments at which the server is asked for a verdict, by a clock that shows `now` before
the acts and that nothing but sleeping moves. -/
def moments (now : Nat) : List Act → List Nat
  | [] => []
  | .slept seconds :: acts => moments (now + seconds) acts
  | .asked _ :: acts => now :: moments now acts
  | .requested :: acts => moments now acts
  | .told _ :: acts => moments now acts

abbrev Followed := StateM (List Act)

def note (a : Act) : Followed Unit := modify (fun acts => acts ++ [a])

/-- The host of a login that is followed. `issued` is the answer to the request for a code, and
`verdicts k` the one to the `k`-th question, the first question being number one. -/
def follower (issued : Except Remote.Fault DeviceSession)
    (verdicts : Nat → Except Remote.Fault Verdict) : Host Followed where
  sleep seconds := note (.slept seconds)
  requestCode := fun acts => (issued, acts ++ [.requested])
  askVerdict code := fun acts => (verdicts (questions acts + 1), acts ++ [.asked code])
  showCode _ := note (.told .code)
  openBrowser url := note (.told (.browser url))
  waiting := note (.told .waiting)
  done := note (.told .done)

/-- So many sleeps, each with a question after it. -/
def rounds (interval : Nat) (code : String) (n : Nat) : List Act :=
  (List.replicate n [Act.slept interval, .asked code]).flatten

theorem rounds_succ (interval : Nat) (code : String) (n : Nat) :
    rounds interval code (n + 1) =
      [.slept interval, .asked code] ++ rounds interval code n := by
  simp [rounds, List.replicate_succ]

theorem rounds_append (interval : Nat) (code : String) (n k : Nat) :
    rounds interval code n ++ rounds interval code k = rounds interval code (n + k) := by
  simp [rounds, ← List.flatten_append, List.replicate_append_replicate]

@[simp] theorem questions_append (a b : List Act) :
    questions (a ++ b) = questions a + questions b := by
  simp [questions]

@[simp] theorem questions_rounds (interval : Nat) (code : String) (n : Nat) :
    questions (rounds interval code n) = n := by
  induction n with
  | zero => rfl
  | succ n ih =>
    have hone : questions [.slept interval, .asked code] = 1 := rfl
    rw [rounds_succ, questions_append, ih, hone]
    omega

/-- The questions of the rounds are asked at the multiples of the interval. -/
theorem moments_rounds (interval now : Nat) (code : String) (n : Nat) (acts : List Act) :
    moments now (rounds interval code n ++ acts) =
      (List.range n).map (fun k => now + (k + 1) * interval) ++
        moments (now + n * interval) acts := by
  induction n generalizing now with
  | zero => simp [rounds]
  | succ n ih =>
    have hnext : ∀ k, now + interval + k * interval = now + (k + 1) * interval := by
      intro k
      rw [Nat.succ_mul]
      omega
    rw [rounds_succ, List.append_assoc]
    simp only [List.cons_append, List.nil_append, moments]
    rw [ih, hnext, List.range_succ_eq_map, List.map_cons, List.map_map, List.cons_append]
    congr 1
    · omega
    · congr 1
      apply List.map_congr_left
      intro k _
      exact hnext (k + 1)

/-! ### One question -/

section Loop

variable {issued : Except Remote.Fault DeviceSession}
  {verdicts : Nat → Except Remote.Fault Verdict} {p : Pace} {code : String}

/-- The result that a verdict means, unless the login is still pending. -/
def settled : Except Remote.Fault Verdict → Option (Except Fault String)
  | .error reason => some (.error (.noVerdict reason))
  | .ok (.approved token) => some (.ok token)
  | .ok (.denied message) => some (.error (denial message))
  | .ok .pending => none

/-- **One round.** After its sleep a login gives up when the time is over. Otherwise it asks, and
goes on only if there is no verdict yet. -/
theorem awaitFrom_step (elapsed : Nat) (acts : List Act) :
    awaitFrom (follower issued verdicts) p code elapsed acts =
      if p.limit ≤ elapsed + p.interval then
        (.error (.timedOut p.limit), acts ++ [.slept p.interval])
      else
        match settled (verdicts (questions acts + 1)) with
        | some result => (result, acts ++ [.slept p.interval, .asked code])
        | none =>
          awaitFrom (follower issued verdicts) p code (elapsed + p.interval)
            (acts ++ [.slept p.interval, .asked code]) := by
  have hquestions : questions (acts ++ [Act.slept p.interval]) = questions acts := by
    rw [questions_append]
    rfl
  have hacts : acts ++ [Act.slept p.interval] ++ [.asked code] =
      acts ++ [.slept p.interval, .asked code] := by
    simp
  rw [awaitFrom]
  show (if elapsed + p.interval ≥ p.limit then
      (return .error (.timedOut p.limit) : Followed (Except Fault String)) else _)
        (acts ++ [Act.slept p.interval]) = _
  by_cases hlimit : p.limit ≤ elapsed + p.interval
  · rw [if_pos hlimit, if_pos hlimit]
    rfl
  · rw [if_neg hlimit, if_neg hlimit, ← hacts, ← hquestions]
    show (match verdicts (questions (acts ++ [Act.slept p.interval]) + 1) with
      | .error reason => (return .error (.noVerdict reason) : Followed (Except Fault String))
      | .ok (.approved token) => return .ok token
      | .ok (.denied message) => return .error (denial message)
      | .ok .pending => awaitFrom (follower issued verdicts) p code (elapsed + p.interval))
        (acts ++ [Act.slept p.interval] ++ [Act.asked code]) = _
    rcases verdicts (questions (acts ++ [Act.slept p.interval]) + 1) with
      reason | token | - | message
    · rfl
    · rfl
    · rfl
    · rfl

/-- As long as the login is pending and the time is not over, one round follows the other. -/
theorem awaitFrom_pending (n elapsed : Nat) (acts : List Act)
    (hpending : ∀ k, 1 ≤ k → k ≤ n → verdicts (questions acts + k) = .ok .pending)
    (htime : elapsed + n * p.interval < p.limit) :
    awaitFrom (follower issued verdicts) p code elapsed acts =
      awaitFrom (follower issued verdicts) p code (elapsed + n * p.interval)
        (acts ++ rounds p.interval code n) := by
  induction n generalizing elapsed acts with
  | zero => simp [rounds]
  | succ n ih =>
    have hmul : (n + 1) * p.interval = n * p.interval + p.interval := Nat.succ_mul n p.interval
    have hfirst : verdicts (questions acts + 1) = .ok .pending :=
      hpending 1 (by omega) (by omega)
    have hasked : questions (acts ++ [.slept p.interval, .asked code]) = questions acts + 1 := by
      rw [questions_append]
      rfl
    rw [awaitFrom_step, if_neg (by omega), hfirst]
    show awaitFrom (follower issued verdicts) p code (elapsed + p.interval)
      (acts ++ [.slept p.interval, .asked code]) = _
    rw [ih]
    · have hlater : elapsed + p.interval + n * p.interval = elapsed + (n + 1) * p.interval := by
        omega
      rw [hlater, rounds_succ, List.append_assoc]
    · intro k hk hkn
      rw [hasked, Nat.add_assoc, Nat.add_comm 1 k]
      exact hpending (k + 1) (by omega) (by omega)
    · omega

/-! ### The whole loop

By induction on the rounds that are left before the time is over. -/

/-- The `m`-th answer is the first one that is not pending. -/
def IsFirstVerdict (verdicts : Nat → Except Remote.Fault Verdict) (m : Nat) : Prop :=
  1 ≤ m ∧ verdicts m ≠ .ok .pending ∧ ∀ k, 1 ≤ k → k < m → verdicts k = .ok .pending

theorem exists_isFirstVerdict {m : Nat} (hm : 1 ≤ m) (h : verdicts m ≠ .ok .pending) :
    ∃ n, n ≤ m ∧ IsFirstVerdict verdicts n := by
  induction m using Nat.strongRecOn with
  | ind m ih =>
    by_cases hbefore : ∃ k, 1 ≤ k ∧ k < m ∧ verdicts k ≠ .ok .pending
    · obtain ⟨k, hk, hkm, hne⟩ := hbefore
      obtain ⟨n, hn, hfirst⟩ := ih k hkm hk hne
      exact ⟨n, by omega, hfirst⟩
    · refine ⟨m, Nat.le_refl m, hm, h, ?_⟩
      intro k hk hkm
      apply Classical.byContradiction
      intro hne
      exact hbefore ⟨k, hk, hkm, hne⟩

theorem IsFirstVerdict.unique {m n : Nat} (hm : IsFirstVerdict verdicts m)
    (hn : IsFirstVerdict verdicts n) : m = n := by
  apply Classical.byContradiction
  intro hne
  rcases Nat.lt_or_gt_of_ne hne with hlt | hgt
  · exact hm.2.1 (hn.2.2 m hm.1 hlt)
  · exact hn.2.1 (hm.2.2 n hn.1 hgt)

theorem settled_of_ne_pending {v : Except Remote.Fault Verdict} (h : v ≠ .ok .pending) :
    ∃ result, settled v = some result := by
  rcases v with reason | token | - | message
  · exact ⟨_, rfl⟩
  · exact ⟨_, rfl⟩
  · exact absurd rfl h
  · exact ⟨_, rfl⟩

/-- What a result says about the verdict that it comes from. -/
theorem settled_eq_some {v : Except Remote.Fault Verdict} {result : Except Fault String}
    (h : settled v = some result) :
    (∀ token, v = .ok (.approved token) → result = .ok token) ∧
    (v = .ok (.denied "expired_token") → result = .error .codeExpired) ∧
    (∀ message, v = .ok (.denied message) → message ≠ "expired_token" →
      result = .error (.denied message)) ∧
    (∀ reason, v = .error reason → result = .error (.noVerdict reason)) := by
  refine ⟨?_, ?_, ?_, ?_⟩
  · rintro token rfl
    exact (Option.some.inj h).symm
  · rintro rfl
    exact (Option.some.inj h).symm
  · rintro message rfl hne
    rw [← Option.some.inj h, denial, if_neg]
    simpa [expiredMessage] using hne
  · rintro reason rfl
    exact (Option.some.inj h).symm

/-- A verdict that comes before the time is over is the result. -/
theorem awaitFrom_settled {m : Nat} {result : Except Fault String} (acts : List Act)
    (hacts : questions acts = 0) (hfirst : IsFirstVerdict verdicts m)
    (hresult : settled (verdicts m) = some result) (htime : m * p.interval < p.limit) :
    awaitFrom (follower issued verdicts) p code 0 acts =
      (result, acts ++ rounds p.interval code m) := by
  obtain ⟨hm, -, hpending⟩ := hfirst
  obtain ⟨n, rfl⟩ : ∃ n, m = n + 1 := ⟨m - 1, by omega⟩
  have hmul : (n + 1) * p.interval = n * p.interval + p.interval := Nat.succ_mul n p.interval
  rw [awaitFrom_pending n 0 acts, awaitFrom_step, if_neg (by omega)]
  · have hasked : questions (acts ++ rounds p.interval code n) + 1 = n + 1 := by
      rw [questions_append, questions_rounds, hacts, Nat.zero_add]
    have hone : rounds p.interval code 1 = [.slept p.interval, .asked code] := by simp [rounds]
    rw [hasked, hresult, ← rounds_append p.interval code n 1, hone, List.append_assoc]
  · intro k hk hkn
    rw [hacts, Nat.zero_add]
    exact hpending k hk (by omega)
  · omega

/-- Without a verdict in time the server is asked at every multiple of the interval that is below
the limit, and the login gives up after one more sleep. -/
theorem awaitFrom_timedOut (acts : List Act) (hacts : questions acts = 0) (hlimit : 0 < p.limit)
    (hlate : ∀ m, IsFirstVerdict verdicts m → p.limit ≤ m * p.interval) :
    awaitFrom (follower issued verdicts) p code 0 acts =
      (.error (.timedOut p.limit),
        acts ++ rounds p.interval code ((p.limit - 1) / p.interval) ++ [.slept p.interval]) := by
  have hpos : 0 < p.interval := p.interval_pos
  have hdiv := Nat.div_add_mod (p.limit - 1) p.interval
  have hmod : (p.limit - 1) % p.interval < p.interval := Nat.mod_lt _ hpos
  generalize hn : (p.limit - 1) / p.interval = n at hdiv
  rw [Nat.mul_comm] at hdiv
  rw [awaitFrom_pending n 0 acts, awaitFrom_step, if_pos (by omega)]
  · intro k hk hkn
    rw [hacts, Nat.zero_add]
    apply Classical.byContradiction
    intro hne
    obtain ⟨m, hmk, hfirst⟩ := exists_isFirstVerdict hk hne
    have hmn : m * p.interval ≤ n * p.interval := Nat.mul_le_mul_right p.interval (by omega)
    have hbelow := hlate m hfirst
    omega
  · omega

end Loop

/-! ### The whole login -/

/-- What a login does before it waits. -/
def opening (s : DeviceSession) (inBrowser : Bool) : List Act :=
  [.requested, .told .code] ++
    (if inBrowser then [.told (.browser s.verificationUrl)] else []) ++ [.told .waiting]

theorem authorize_refused (reason : Remote.Fault) (verdicts : Nat → Except Remote.Fault Verdict)
    (inBrowser : Bool) :
    authorize (follower (.error reason) verdicts) inBrowser [] =
      (.error (.noCode reason), [.requested]) := rfl

/-- With a code the login opens, waits for a verdict and closes. -/
theorem authorize_issued {s : DeviceSession} {verdicts : Nat → Except Remote.Fault Verdict}
    {inBrowser : Bool} {polling : List Act} {result : Except Fault String}
    (h : awaitFrom (follower (.ok s) verdicts) (.of s) s.deviceCode 0 (opening s inBrowser) =
      (result, opening s inBrowser ++ polling)) :
    authorize (follower (.ok s) verdicts) inBrowser [] =
      (result, opening s inBrowser ++ polling ++ [.told .done]) := by
  have hdone : ∀ found : Except Fault String × List Act,
      awaitFrom (follower (.ok s) verdicts) (.of s) s.deviceCode 0 (opening s inBrowser) = found →
      authorize (follower (.ok s) verdicts) inBrowser [] =
        (found.1, found.2 ++ [Act.told .done]) := by
    rintro found rfl
    cases inBrowser with
    | false => rfl
    | true => rfl
  exact hdone _ h

theorem questions_opening (s : DeviceSession) (inBrowser : Bool) :
    questions (opening s inBrowser) = 0 := by
  cases inBrowser with
  | false => rfl
  | true => rfl

theorem moments_lt (s : DeviceSession) (inBrowser : Bool) {interval limit n : Nat} {acts : List Act}
    (hn : n * interval < limit) (hacts : moments (n * interval) acts = []) :
    ∀ t ∈ moments 0 (opening s inBrowser ++ (rounds interval s.deviceCode n ++ acts)),
      t < limit := by
  have hopening : ∀ rest, moments 0 (opening s inBrowser ++ rest) = moments 0 rest := by
    intro rest
    cases inBrowser with
    | false => rfl
    | true => rfl
  intro t ht
  rw [hopening, moments_rounds, Nat.zero_add, hacts, List.append_nil] at ht
  obtain ⟨k, hk, rfl⟩ := List.mem_map.mp ht
  have hle : (k + 1) * interval ≤ n * interval :=
    Nat.mul_le_mul_right interval (List.mem_range.mp hk)
  omega

/-- Whether the user is told that the login begins to wait or has done so. -/
def Act.isWaitOrDone (a : Act) : Bool := a == .told .waiting || a == .told .done

/-- In a login that is opened and goes on in rounds, all but the first such notice come after
the rounds. -/
theorem filter_isWaitOrDone (s : DeviceSession) (inBrowser : Bool) (interval n : Nat)
    (acts : List Act) :
    (opening s inBrowser ++ (rounds interval s.deviceCode n ++ acts)).filter Act.isWaitOrDone =
      Act.told .waiting :: acts.filter Act.isWaitOrDone := by
  have hopening : (opening s inBrowser).filter Act.isWaitOrDone = [.told .waiting] := by
    cases inBrowser with
    | false => rfl
    | true => rfl
  have hrounds : (rounds interval s.deviceCode n).filter Act.isWaitOrDone = [] := by
    induction n with
    | zero => rfl
    | succ n ih =>
      rw [rounds_succ, List.filter_append, ih]
      rfl
  rw [List.filter_append, List.filter_append, hopening, hrounds]
  rfl

theorem intervalOf_eq (suggested : Int) :
    intervalOf suggested = if 1 ≤ suggested then suggested.toNat else 5 := by
  unfold intervalOf usualInterval
  split <;> split <;> omega

theorem limitOf_eq (suggested : Int) :
    limitOf suggested = if 1 ≤ suggested then suggested.toNat else 600 := by
  unfold limitOf usualLimit
  split <;> split <;> omega

theorem limitOf_pos (suggested : Int) : 0 < limitOf suggested := by
  rw [limitOf_eq]
  split <;> omega

/-- **All that a login does.** The interval and the limit are what the server says if that is at
least one second. If the `m`-th answer is the first verdict and `m` intervals are below the limit,
the login sleeps and asks `m` times and the verdict decides. Otherwise it asks as often as a
multiple of the interval is below the limit, sleeps once more and gives up. In either case nothing
is asked when the time is over, and the user is told once that the login waits and then once that
it has waited. Without a code the login is over at once. -/
theorem authorize_acts (verdicts : Nat → Except Remote.Fault Verdict) (inBrowser : Bool) :
    (∀ reason, authorize (follower (.error reason) verdicts) inBrowser [] =
      (.error (.noCode reason), [.requested])) ∧
    ∀ s : DeviceSession,
      let interval := if 1 ≤ s.interval then s.interval.toNat else 5
      let limit := if 1 ≤ s.expiresIn then s.expiresIn.toNat else 600
      ∃ polling result,
        authorize (follower (.ok s) verdicts) inBrowser [] =
          (result, opening s inBrowser ++ polling ++ [.told .done]) ∧
        (∀ m, IsFirstVerdict verdicts m → m * interval < limit →
          polling = rounds interval s.deviceCode m ∧
          (∀ token, verdicts m = .ok (.approved token) → result = .ok token) ∧
          (verdicts m = .ok (.denied "expired_token") → result = .error .codeExpired) ∧
          (∀ message, verdicts m = .ok (.denied message) → message ≠ "expired_token" →
            result = .error (.denied message)) ∧
          (∀ reason, verdicts m = .error reason → result = .error (.noVerdict reason))) ∧
        ((∀ m, IsFirstVerdict verdicts m → limit ≤ m * interval) →
          polling = rounds interval s.deviceCode ((limit - 1) / interval) ++ [.slept interval] ∧
          result = .error (.timedOut limit)) ∧
        (∀ t ∈ moments 0 (opening s inBrowser ++ polling ++ [Act.told .done]), t < limit) ∧
        (opening s inBrowser ++ polling ++ [Act.told .done]).filter Act.isWaitOrDone =
          [.told .waiting, .told .done] := by
  refine ⟨fun reason => authorize_refused reason verdicts inBrowser, ?_⟩
  intro s interval limit
  have hinterval : (Pace.of s).interval = interval := intervalOf_eq s.interval
  have hlimit : (Pace.of s).limit = limit := limitOf_eq s.expiresIn
  have hpos : 0 < limit := by
    rw [← hlimit]
    exact limitOf_pos s.expiresIn
  have hquestions := questions_opening s inBrowser
  by_cases hintime : ∃ m, IsFirstVerdict verdicts m ∧ m * interval < limit
  · obtain ⟨m, hfirst, htime⟩ := hintime
    obtain ⟨result, hresult⟩ := settled_of_ne_pending hfirst.2.1
    have hrun := @awaitFrom_settled (.ok s) verdicts (.of s) s.deviceCode m result
      (opening s inBrowser) hquestions hfirst hresult (by rw [hinterval, hlimit]; exact htime)
    rw [hinterval] at hrun
    refine ⟨rounds interval s.deviceCode m, result, authorize_issued hrun, ?_, ?_, ?_, ?_⟩
    · intro k hk _
      obtain rfl := hk.unique hfirst
      exact ⟨rfl, settled_eq_some hresult⟩
    · intro hlate
      exact absurd (hlate m hfirst) (by omega)
    · rw [List.append_assoc]
      exact moments_lt s inBrowser htime rfl
    · rw [List.append_assoc, filter_isWaitOrDone]
      rfl
  · have hlate : ∀ m, IsFirstVerdict verdicts m → limit ≤ m * interval := by
      intro m hfirst
      apply Nat.le_of_not_lt
      intro htime
      exact hintime ⟨m, hfirst, htime⟩
    have hrun := @awaitFrom_timedOut (.ok s) verdicts (.of s) s.deviceCode (opening s inBrowser)
      hquestions (by rw [hlimit]; exact hpos) (by rw [hlimit, hinterval]; exact hlate)
    rw [hinterval, hlimit, List.append_assoc] at hrun
    have hbefore : (limit - 1) / interval * interval < limit := by
      have hle := Nat.div_mul_le_self (limit - 1) interval
      omega
    refine ⟨rounds interval s.deviceCode ((limit - 1) / interval) ++ [.slept interval], _,
      authorize_issued hrun, ?_, ?_, ?_, ?_⟩
    · intro m hfirst htime
      exact absurd ⟨m, hfirst, htime⟩ hintime
    · intro _
      exact ⟨rfl, rfl⟩
    · rw [List.append_assoc, List.append_assoc]
      exact moments_lt s inBrowser hbefore rfl
    · rw [List.append_assoc, List.append_assoc, filter_isWaitOrDone]
      rfl

/-- The session of a server that asks for three seconds between questions. -/
def laptopSession : DeviceSession :=
  ⟨"dev-123", "ABCD-1234", "https://sc.example.com/auth/device?code=ABCD-1234", 600, 3⟩

/-- A login that is approved at the fourth question, and one whose approval at the fourth question
would come when the time is over. -/
theorem approved_at_fourth_question :
    let verdicts : Nat → Except Remote.Fault Verdict :=
      fun k => if k < 4 then .ok .pending else .ok (.approved "sc_token")
    IsFirstVerdict verdicts 4 ∧
    authorize (follower (.ok laptopSession) verdicts) false [] =
      (.ok "sc_token",
        opening laptopSession false ++ rounds 3 "dev-123" 4 ++ [.told .done]) ∧
    authorize (follower (.ok { laptopSession with expiresIn := 12 }) verdicts) false [] =
      (.error (.timedOut 12),
        opening laptopSession false ++ (rounds 3 "dev-123" 3 ++ [.slept 3]) ++ [.told .done]) := by
  intro verdicts
  have hfirst : IsFirstVerdict verdicts 4 := by
    refine ⟨by decide, ?_, ?_⟩
    · intro h
      cases h
    · intro k _ hk
      exact if_pos hk
  refine ⟨hfirst, ?_, ?_⟩
  · obtain ⟨polling, result, hrun, hintime, -⟩ :=
      (authorize_acts verdicts false).2 laptopSession
    obtain ⟨rfl, happroved, -⟩ := hintime 4 hfirst (by decide)
    rw [hrun, happroved "sc_token" rfl]
    rfl
  · obtain ⟨polling, result, hrun, -, hlate, -⟩ :=
      (authorize_acts verdicts false).2 { laptopSession with expiresIn := 12 }
    obtain ⟨rfl, rfl⟩ := hlate (by
      intro m hm
      rw [hm.unique hfirst]
      decide)
    rw [hrun]
    rfl

end SandboxClient.Login
