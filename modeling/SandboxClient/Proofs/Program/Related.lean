/-
  SandboxClient/Proofs/Program/Related.lean
  =========================================
  **What runs do to the world.** A step is opened by an equation, or by what it has
  done if it succeeded. What holds whatever comes of it is a relation of the world
  before to the world after: one that can be chained is passed on from the steps of
  a run to the run, by rules that follow the text of a command.
-/
import Mathlib.Order.Defs.Unbundled
import SandboxClient.Program.Run
import SandboxClient.Proofs.Files.Failing

namespace SandboxClient.Program

open SandboxClient.Files (bind_of_ok bind_eq_error pure_eq_ok throw_ne_ok)

variable {α β : Type}

/-! ### Single steps -/

section Steps

variable {w w' : World}

theorem attempt_eq (x : Run α) (w : World) : attempt x w = (.ok (x w).1, (x w).2) := rfl

theorem during_of_ok {x : Run α} {a : α} {what : String} (h : x w = (.ok a, w')) :
    during what x w = (.ok a, w') := by
  have hattempt : Program.attempt x w = (.ok (.ok a), w') := by rw [attempt_eq, h]
  unfold during
  rw [bind_of_ok hattempt]
  rfl

theorem during_of_error {x : Run α} {failure : Failure} {what : String}
    (h : x w = (.error failure, w')) : during what x w = (.error (.during what failure), w') := by
  have hattempt : Program.attempt x w = (.ok (.error failure), w') := by rw [attempt_eq, h]
  unfold during
  rw [bind_of_ok hattempt]
  rfl

theorem during_eq_ok {x : Run α} {a : α} {what : String}
    (h : during what x w = (.ok a, w')) : x w = (.ok a, w') := by
  rcases hrun : x w with ⟨failure | b, v⟩
  · rw [during_of_error hrun] at h
    cases h
  · rw [during_of_ok hrun] at h
    exact h

theorem storing_of_call {call : Server.StoreCall α} {result : Except Server.Fault α}
    {d : Files.Disk} (h : call w.disk = (result, d)) :
    storing call w = (result.mapError .store, { w with disk := d }) := by
  have hrun : call.run w.disk = (result, d) := h
  unfold storing
  rw [hrun]

theorem storing_eq_ok {call : Server.StoreCall α} {a : α}
    (hrun : storing call w = (.ok a, w')) :
    call w.disk = (.ok a, w'.disk) ∧ w' = { w with disk := w'.disk } := by
  rcases hcall : call w.disk with ⟨fault | b, d⟩
  · rw [storing_of_call hcall] at hrun
    cases hrun
  · rw [storing_of_call hcall] at hrun
    cases hrun
    exact ⟨rfl, rfl⟩

theorem outcome_eq_ok {call : Remote.Call α} {result : Except Remote.Fault α}
    (h : outcome call w = (.ok result, w')) : call w.network = (result, w'.network) := by
  cases h
  rfl

/-- A question that is answered was answered by the network. -/
theorem asking_eq_ok {call : Remote.Call α} {a : α} :
    asking call w = (.ok a, w') ↔
      call w.network = (.ok a, w'.network) ∧ w' = { w with network := w'.network } := by
  have houtcome : outcome call w = (.ok (call w.network).1,
      { w with network := (call w.network).2 }) := rfl
  unfold asking
  rw [bind_of_ok houtcome]
  rcases call w.network with ⟨fault | b, n⟩
  · constructor
    · intro h
      exact absurd h throw_ne_ok
    · rintro ⟨⟨⟩, -⟩
  · simp only
    rw [pure_eq_ok]
    constructor
    · rintro ⟨rfl, rfl⟩
      exact ⟨rfl, rfl⟩
    · rintro ⟨h, hw⟩
      cases h
      exact ⟨rfl, hw⟩

theorem asking_of_ok {call : Remote.Call α} {a : α} (h : (call w.network).1 = .ok a) :
    asking call w = (.ok a, { w with network := (call w.network).2 }) :=
  asking_eq_ok.mpr ⟨Prod.ext h rfl, rfl⟩

end Steps

/-! ### Relations

One relation between worlds is carried through a run step by step, so that each property of runs
needs a rule for each step only once. -/

variable {R : World → World → Prop}

/-- A run leads to a related world, with whatever outcome. -/
def Relates (R : World → World → Prop) (x : Run α) : Prop := ∀ w, R w (x w).2

theorem Relates.attempt {x : Run α} (hx : Relates R x) : Relates R (attempt x) := hx

theorem Relates.ite {p : Prop} [Decidable p] {x y : Run α} (hx : Relates R x)
    (hy : Relates R y) : Relates R (if p then x else y) := by
  split
  · exact hx
  · exact hy

section Rules

variable [IsPreorder World R]

theorem relates_of_eq {x : Run α} (h : ∀ w, (x w).2 = w) : Relates R x := by
  intro w
  rw [h w]
  exact Std.Refl.refl w

theorem relates_pure (a : α) : Relates R (pure a) := relates_of_eq fun _ => rfl

theorem relates_throw (failure : Failure) : Relates R (throw failure : Run α) :=
  relates_of_eq fun _ => rfl

theorem relates_get : Relates R (get : Run World) := relates_of_eq fun _ => rfl

/-- After a step that fails nothing is done, so nothing is asked of what would have followed. -/
theorem related_bind {x : Run α} {f : α → Run β} {w : World} (hx : R w (x w).2)
    (hf : ∀ a v, x w = (.ok a, v) → R v (f a v).2) : R w ((x >>= f) w).2 := by
  rcases hrun : x w with ⟨failure | a, v⟩
  · rw [hrun] at hx
    rw [bind_eq_error.mpr (Or.inl hrun)]
    exact hx
  · rw [hrun] at hx
    rw [bind_of_ok hrun]
    exact IsTrans.trans _ _ _ hx (hf a v hrun)

theorem Relates.bind {x : Run α} {f : α → Run β} (hx : Relates R x) (hf : ∀ a, Relates R (f a)) :
    Relates R (x >>= f) :=
  fun w => related_bind (hx w) (fun a v _ => hf a v)

theorem relates_ofStore (result : Except Server.Fault α) : Relates R (ofStore result) := by
  cases result with
  | error fault => exact relates_throw _
  | ok a => exact relates_pure a

theorem relates_ofRemote (result : Except Remote.Fault α) : Relates R (ofRemote result) := by
  cases result with
  | error fault => exact relates_throw _
  | ok a => exact relates_pure a

theorem relates_conclude (result : Except Failure α) : Relates R (conclude result) := by
  cases result with
  | error failure => exact relates_throw _
  | ok a => exact relates_pure a

theorem Relates.during {x : Run α} (hx : Relates R x) (what : String) :
    Relates R (during what x) := by
  refine hx.attempt.bind ?_
  rintro (failure | a)
  · exact relates_throw _
  · exact relates_pure a

theorem Relates.asking {call : Remote.Call α} (hcall : Relates R (outcome call)) :
    Relates R (asking call) := by
  refine hcall.bind ?_
  rintro (fault | a)
  · exact relates_throw _
  · exact relates_pure a

theorem relates_ofWords (result : Except Session.WordFault α) : Relates R (ofWords result) := by
  cases result with
  | error fault => exact relates_throw _
  | ok a => exact relates_pure a

theorem relates_storePath : Relates R storePath := by
  refine relates_get.bind (fun w => ?_)
  split
  · exact relates_pure _
  · exact relates_throw _

/-- Finding the client of the current server does nothing but load the store. -/
theorem relates_client (hload : ∀ path, Relates R (storing (Server.loadFrom path))) :
    Relates R client := by
  refine (relates_storePath.bind hload).bind (fun c => ?_)
  refine relates_get.bind (fun w => ?_)
  refine (relates_ofStore _).bind (fun connection => ?_)
  exact (relates_ofRemote _).during _

/-! ### Logins -/

/-- Whatever a login needs from the world leads to a related world. -/
structure HostRelates (R : World → World → Prop) (h : Login.Host Run) : Prop where
  sleep : ∀ seconds, Relates R (h.sleep seconds)
  requestCode : Relates R h.requestCode
  askVerdict : ∀ code, Relates R (h.askVerdict code)
  showCode : ∀ session, Relates R (h.showCode session)
  openBrowser : ∀ url, Relates R (h.openBrowser url)
  waiting : Relates R h.waiting
  done : Relates R h.done

section Host

variable {h : Login.Host Run}

theorem HostRelates.awaitFrom (hh : HostRelates R h) (p : Login.Pace) (code : String)
    (elapsed : Nat) : Relates R (Login.awaitFrom h p code elapsed) := by
  -- on the time that is left
  induction hn : p.limit - elapsed using Nat.strongRecOn generalizing elapsed with
  | ind n ih =>
    rw [Login.awaitFrom]
    refine (hh.sleep p.interval).bind (fun _ => ?_)
    split
    · exact relates_pure _
    · rename_i htime
      refine (hh.askVerdict code).bind ?_
      rintro (reason | token | - | message)
      · exact relates_pure _
      · exact relates_pure _
      · have hpos := p.interval_pos
        exact ih _ (by omega) _ rfl
      · exact relates_pure _

theorem HostRelates.authorize (hh : HostRelates R h) (inBrowser : Bool) :
    Relates R (Login.authorize h inBrowser) := by
  unfold Login.authorize
  refine hh.requestCode.bind ?_
  rintro (reason | session)
  · exact relates_pure _
  · refine (hh.showCode session).bind (fun _ => ?_)
    have hrest : Relates R (do
        h.waiting
        let result ← Login.awaitFrom h (.of session) session.deviceCode 0
        h.done
        return result) :=
      hh.waiting.bind (fun _ => (hh.awaitFrom _ _ _).bind (fun result =>
        hh.done.bind (fun _ => relates_pure result)))
    cases inBrowser with
    | false => exact hrest
    | true => exact (hh.openBrowser _).bind (fun _ => hrest)

end Host

end Rules

end SandboxClient.Program
