/-
  SandboxClient/Session/Waiting.lean
  ==================================
  **Waiting for a port.** A sandbox that has just been started does not accept
  connections at once. The port is tried, with pauses in between, until it
  accepts one or until another pause would reach the deadline. Times are
  milliseconds. The loop is the program's `wait_for_port`, with the constants of
  `wait_for_ssh`.
-/
import SandboxClient.Remote.Sandbox

namespace SandboxClient.Session

/-- For how long a port is tried, and how. A pause takes some time. -/
structure Patience where
  deadline : Nat
  pause : Nat
  pause_pos : 0 < pause
  deriving Repr

/-- Patience with a pause of at least a millisecond, so that some time passes between attempts. -/
def Patience.of (deadline pause : Nat) : Patience :=
  ⟨deadline, max pause 1, by omega⟩

/-- The patience with a sandbox: half a minute, with two attempts a second. -/
def readyPatience : Patience := ⟨30000, 500, by decide⟩

def attemptLimit : Nat := 1000

structure Attempt where
  connected : Bool
  took : Nat
  deriving DecidableEq, Repr

/-- How a wait has ended, and when. -/
structure Wait where
  ready : Bool
  /-- How many attempts were made. -/
  attempts : Nat
  /-- How many pauses were made. -/
  pauses : Nat
  /-- When it ended. -/
  elapsed : Nat
  deriving DecidableEq, Repr

/-- What a wait does, and when: it tries the port, or says that it will try again after a pause. -/
inductive WaitAct
  | attempt (moment : Nat)
  | retry (moment : Nat)
  deriving DecidableEq, Repr

/-- Waits on when `made` attempts have failed and a pause has followed each of them. The result is
how the wait ends and what is done until then. -/
def Patience.waitFrom (p : Patience) (attempt : Nat → Attempt) (made elapsed : Nat) :
    Wait × List WaitAct :=
  let a := attempt made
  let after := elapsed + a.took
  if a.connected then (⟨true, made + 1, made, after⟩, [.attempt elapsed])
  else if after + p.pause ≥ p.deadline then (⟨false, made + 1, made, after⟩, [.attempt elapsed])
  else
    let (w, acts) := p.waitFrom attempt (made + 1) (after + p.pause)
    (w, .attempt elapsed :: .retry after :: acts)
termination_by p.deadline - elapsed
decreasing_by
  have := p.pause_pos
  simp only [after] at *
  omega

/-- Waits until a port accepts a connection, where `attempt n` is what comes of the attempt
after `n` others. -/
def Patience.wait (p : Patience) (attempt : Nat → Attempt) : Wait := (p.waitFrom attempt 0 0).1

def Patience.acts (p : Patience) (attempt : Nat → Attempt) : List WaitAct :=
  (p.waitFrom attempt 0 0).2

def timeoutMessage (address : String) : String := "timeout waiting for SSH at " ++ address

def portAddress (info : Remote.ConnectInfo) : String := info.host ++ ":" ++ toString info.port

end SandboxClient.Session
