/-
  SandboxClient/Login/Device.lean
  ===============================
  **Logging in through a browser.** The server issues a code, the user approves it in
  a browser, and the program asks the server again and again until there is a
  verdict or the time is up. What the login needs from the world is a parameter,
  so that the same steps run on a real clock and on one that is only counted.
-/
import SandboxClient.Remote.Calls
import SandboxClient.Terminal.Style

namespace SandboxClient.Login

open SandboxClient.Remote (DeviceSession Verdict)

/-! ### Pace

The program's `poll_interval` and `expiry`: what the server suggests counts unless it is too small.
-/

/-- The seconds between questions when the server suggests less than one. -/
def usualInterval : Nat := 5

/-- The seconds that a code is good for when the server does not say. -/
def usualLimit : Nat := 600

def intervalOf (suggested : Int) : Nat := if suggested < 1 then usualInterval else suggested.toNat

def limitOf (suggested : Int) : Nat := if suggested ≤ 0 then usualLimit else suggested.toNat

/-- How often, and how long, the server is asked. Between two questions there is some time. -/
structure Pace where
  interval : Nat
  limit : Nat
  interval_pos : 0 < interval
  deriving Repr

theorem intervalOf_pos (suggested : Int) : 0 < intervalOf suggested := by
  unfold intervalOf usualInterval
  split <;> omega

def Pace.of (s : DeviceSession) : Pace :=
  ⟨intervalOf s.interval, limitOf s.expiresIn, intervalOf_pos s.interval⟩

/-! ### Faults

The program's `LoginError`. One message of the server says that the code has expired; every other
denial is passed on. -/

inductive Fault
  /-- No code was issued. -/
  | noCode (reason : Remote.Fault)
  /-- There was no answer to the question for a verdict. -/
  | noVerdict (reason : Remote.Fault)
  | denied (message : String)
  | codeExpired
  | timedOut (limit : Nat)
  deriving DecidableEq, Repr

def Fault.message : Fault → String
  | .noCode reason => "failed to request device code: " ++ reason.message
  | .noVerdict reason => "failed while waiting for approval: " ++ reason.message
  | .denied message => "login denied: " ++ message
  | .codeExpired =>
    "device code expired before it was approved. Run 'sandcastle login' again."
  | .timedOut limit =>
    "login timed out after " ++ toString limit ++
      "s waiting for approval. Run 'sandcastle login' again."

def Fault.causes : Fault → List String
  | .noCode reason | .noVerdict reason => reason.message :: reason.causes
  | _ => []

def expiredMessage : String := "expired_token"

def denial (message : String) : Fault :=
  if message == expiredMessage then .codeExpired else .denied message

/-! ### The steps

The program's `authorize` and `await_approval`. Time is counted by the sleeps that the login asks
for. -/

inductive Notice
  /-- The code and where to enter it. -/
  | code
  /-- That a browser is to show an address. -/
  | browser (url : String)
  | waiting
  | done
  deriving DecidableEq, Repr

/-- What a login needs from the world: the server, a clock that can be slept on, and somebody to
tell. -/
structure Host (m : Type → Type) where
  /-- Lets so many seconds pass. -/
  sleep : Nat → m Unit
  requestCode : m (Except Remote.Fault DeviceSession)
  askVerdict : String → m (Except Remote.Fault Verdict)
  /-- Shows the code and where to enter it. -/
  showCode : DeviceSession → m Unit
  openBrowser : String → m Unit
  /-- Shows that the login is waiting. -/
  waiting : m Unit
  /-- Shows that it is no longer waiting. -/
  done : m Unit

/-- Asks for a verdict when so many seconds have passed, until there is one or the time is up. -/
def awaitFrom {m : Type → Type} [Monad m] (h : Host m) (p : Pace) (code : String)
    (elapsed : Nat) : m (Except Fault String) := do
  h.sleep p.interval
  -- no question is asked once the time is up
  if elapsed + p.interval ≥ p.limit then return .error (.timedOut p.limit)
  else
    match ← h.askVerdict code with
    | .error reason => return .error (.noVerdict reason)
    | .ok (.approved token) => return .ok token
    | .ok (.denied message) => return .error (denial message)
    | .ok .pending => awaitFrom h p code (elapsed + p.interval)
termination_by p.limit - elapsed
decreasing_by
  have := p.interval_pos
  omega

/-- Logs in; the result is the token. Whatever the outcome, the user is told that the wait is
over. -/
def authorize {m : Type → Type} [Monad m] (h : Host m) (inBrowser : Bool) :
    m (Except Fault String) := do
  match ← h.requestCode with
  | .error reason => return .error (.noCode reason)
  | .ok session =>
    h.showCode session
    if inBrowser then h.openBrowser session.verificationUrl
    h.waiting
    let result ← awaitFrom h (.of session) session.deviceCode 0
    h.done
    return result

/-! ### What is shown

The texts of the program's `show_code` and `open_browser`. -/

def codeText (s : DeviceSession) : String :=
  "\n  Your one-time code: " ++ Terminal.bold .cyan s.userCode ++
    "\n\n  Approve this device at:\n  " ++ Terminal.underlined s.verificationUrl ++ "\n\n"

def browserText (opened : Bool) : String :=
  Terminal.line (Terminal.coloured .darkGrey
    (if opened then "  Opened your browser." else "  Open the link above in a browser to continue."))

end SandboxClient.Login
