/-
  SandboxClient/Program/Failure.lean
  ==================================
  **How a run fails.** With a fault of the store, of a server, of a login, of the
  words that were given, or of a session; and perhaps while something was done
  that is worth telling.
-/
import SandboxClient.Login.Device
import SandboxClient.Server.Fault
import SandboxClient.Session.Named
import SandboxClient.Session.Ssh
import SandboxClient.Session.Waiting
import SandboxClient.Terminal.Message

namespace SandboxClient.Program

inductive Failure
  | store (fault : Server.Fault)
  | remote (fault : Remote.Fault)
  | login (fault : Login.Fault)
  | words (fault : Session.WordFault)
  | ssh (fault : Session.SshFault)
  /-- The port at an address never accepted a connection. -/
  | portClosed (address : String)
  /-- The user gave no key. -/
  | noKey
  /-- The marker could not be written. -/
  | markerNotWritten (path : String) (reason : Files.DiskFault)
  /-- It failed while something was done. -/
  | during (what : String) (cause : Failure)
  deriving DecidableEq, Repr

/-- The message of a failure and those of its causes, outermost first. -/
def Failure.chain : Failure → List String
  | .store fault => [fault.message]
  | .remote fault => fault.message :: fault.causes
  | .login fault => fault.message :: fault.causes
  | .words fault => [fault.message]
  | .ssh fault => fault.chain
  | .portClosed address => [Session.timeoutMessage address]
  | .noKey => ["no auth key provided"]
  | .markerNotWritten path reason => ["Failed to write " ++ path, reason.message]
  | .during what cause => what :: cause.chain

/-- The whole text of a failure, with the causes that its message does not tell already. -/
def Failure.text (f : Failure) : String := Terminal.errorMessage f.chain

/-- The status with which ssh ended, if the failure is nothing else: then the program passes it on
(`SshExit`) and says nothing itself. -/
def Failure.sshStatus? : Failure → Option Nat
  | .ssh (.ended code) => some code
  | .during _ cause => cause.sshStatus?
  | _ => none

end SandboxClient.Program
