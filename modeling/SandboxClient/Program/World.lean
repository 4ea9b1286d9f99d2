/-
  SandboxClient/Program/World.lean
  ================================
  **What a run of the program touches.** Files, the network, the environment, the
  terminal, ssh and the time. A run goes from one state of this world to another
  and ends with a result or with what went wrong.
-/
import SandboxClient.Files.Disk
import SandboxClient.Login.Device
import SandboxClient.Session.Ssh
import SandboxClient.Session.Waiting
import SandboxClient.Time.Moment

namespace SandboxClient.Program

structure World where
  disk : Files.Disk
  network : Remote.Network
  /-- The settings of the environment. -/
  settings : List (String × String)
  /-- The working directory as it is written. -/
  workingDirectory : String
  /-- The home of the user's account, where the environment does not tell another. -/
  accountHome : Option String
  /-- What can still be read from the terminal. -/
  input : String
  /-- What has been printed. -/
  output : String
  /-- What has been printed about faults. -/
  errors : String
  now : Time.Moment
  machineName : Option String
  /-- Whether a browser can be opened. -/
  browserOpens : Bool
  /-- What a login has told the user, in order. -/
  notices : List Login.Notice
  /-- The seconds of each sleep so far. -/
  sleeps : List Nat
  /-- What comes of an attempt to connect to an address, after so many attempts at it. -/
  port : String → Nat → Session.Attempt
  /-- How running ssh ends, by the arguments of all runs so far and of this one. -/
  sshEnds : List (List String) → List String → Session.SshOutcome
  /-- The arguments of the runs of ssh so far. -/
  sshRuns : List (List String)

/-! ### Environment -/

def World.setting? (w : World) (name : String) : Option String := w.settings.lookup name

/-- The value of a variable of the environment, unless it is blank. -/
def World.spokenSetting? (w : World) (name : String) : Option String :=
  (w.setting? name).filter (fun v => !Text.isBlankText v)

end SandboxClient.Program
