/-
  SandboxClient/Session/Ssh.lean
  ==============================
  **Sessions by ssh.** A sandbox is reached with the ssh of this machine. The keys of
  sandboxes are not remembered, because names and ports are used again and
  again. A session inside the multiplexer can be left and taken up later.
-/
import SandboxClient.Remote.Sandbox

namespace SandboxClient.Session

open SandboxClient.Remote (ConnectInfo)

/-! ### Arguments

The program's `ssh_args`. Nothing keeps the destination from being taken for an option. -/

/-- The command that takes up the session of the multiplexer, or begins it. -/
def attachCommand : String := "tmux new-session -A -s main"

def sshOptions : List String :=
  ["StrictHostKeyChecking=no", "UserKnownHostsFile=/dev/null", "LogLevel=ERROR"]

def destination (info : ConnectInfo) : String := info.user ++ "@" ++ info.host

/-- The arguments that run a command, or a shell if there is none to run. -/
def sshArguments (info : ConnectInfo) (command : Option String) : List String :=
  ["-p", toString info.port] ++ sshOptions.flatMap (fun o => ["-o", o]) ++
    [destination info] ++
    -- ssh opens a shell when nothing follows the destination
    (command.filter (fun c => !c.isEmpty)).toList.flatMap (fun c => ["-t", c])

/-! ### Outcomes

What the program's `ssh_exec` makes of the end of the process. An end by a signal counts as the code
1. -/

inductive SshOutcome
  /-- There is no ssh on this machine. -/
  | absent
  | notStarted
  | exited (code : Nat)
  /-- A signal ended it, so that there is no code. -/
  | killed
  deriving DecidableEq, Repr

inductive SshFault
  | absent
  | notStarted
  | ended (code : Nat)
  deriving DecidableEq, Repr

def SshOutcome.fault? : SshOutcome → Option SshFault
  | .absent => some .absent
  | .notStarted => some .notStarted
  | .exited 0 => none
  | .exited code => some (.ended code)
  | .killed => some (.ended 1)

def SshFault.chain : SshFault → List String
  | .absent => ["ssh not found in PATH", "cannot find binary path"]
  | .notStarted => ["Failed to start ssh", "Permission denied (os error 13)"]
  | .ended code => ["ssh exited with status " ++ toString code]

end SandboxClient.Session
