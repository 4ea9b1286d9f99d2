/-
  SandboxClient/Usage/Command.lean
  ================================
  **What a user can ask for.** Every command with what it is given. Words are kept
  as they were typed; what they mean is decided by those who carry out the
  command.
-/

namespace SandboxClient.Usage

inductive Lifetime
  /-- Until the session that made it ends. -/
  | temporary
  | kept
  deriving DecidableEq, Repr

def Lifetime.word : Lifetime → String
  | .temporary => "temp"
  | .kept => "keep"

def Lifetime.all : List Lifetime := [.temporary, .kept]

structure Creation where
  name : String
  image : Option String
  persistent : Bool
  snapshot : Option String
  tailscale : Bool
  home : Bool
  data : Option String
  /-- Whether to remove the sandbox when the session ends. -/
  remove : Bool
  /-- Whether to leave it at that, without a session. -/
  noConnect : Bool
  deriving DecidableEq, Repr

inductive ServerCommand
  | add (url : String) (name : Option String) (insecure : Bool)
  | list
  | use (key : String)
  | remove (key : String)
  deriving DecidableEq, Repr

inductive RouteCommand
  | add (sandbox domain : String) (port : Nat)
  | list (sandbox : String)
  | delete (sandbox domain : String)
  deriving DecidableEq, Repr

inductive SnapshotCommand
  | create (sandbox : String) (name : Option String)
  | list
  | destroy (name : String)
  | restore (sandbox snapshot : String)
  deriving DecidableEq, Repr

inductive TokenCommand
  | list
  | revoke (id : Nat)
  deriving DecidableEq, Repr

inductive TailscaleCommand
  | enable (key : Option String)
  | disable
  | status
  deriving DecidableEq, Repr

inductive Command
  | login (url : String) (name : Option String) (noBrowser : Bool)
  | server (c : ServerCommand)
  | showConfig
  | list
  | create (c : Creation)
  | delete (name : String)
  | start (name : String)
  | stop (name : String)
  | set (name : String) (lifetime : Lifetime)
  | connect (name : Option String)
  | ssh (name : Option String)
  | exec (words : List String)
  | use (name : Option String)
  | route (c : RouteCommand)
  | snapshot (c : SnapshotCommand)
  | token (c : TokenCommand)
  | tailscale (c : TailscaleCommand)
  | status
  | info
  deriving DecidableEq, Repr

structure Invocation where
  /-- Whether to tell more about what is done. -/
  verbose : Bool
  command : Command
  deriving DecidableEq, Repr

/-! ### Refusals

Help and the version are refusals too: they end the reading of the command line. -/

inductive Refusal
  | unknownArgument
  | missingArgument
  | invalidCommand
  | missingCommand
  /-- Nothing is asked for at all. -/
  | nothingAsked
  /-- A number is none, or none that is possible. -/
  | invalidNumber
  /-- A value is missing, or is none of the possible ones. -/
  | invalidValue
  | tooManyValues
  /-- An option is given more than once. -/
  | repeated
  /-- Help is asked for. -/
  | help
  /-- The version is asked for. -/
  | version
  deriving DecidableEq, Repr

/-- The exit code of the program when it refuses; help and the version are no failures. -/
def Refusal.exitCode : Refusal → Nat
  | .help | .version => 0
  | _ => 2

def versionText : String := "sandcastle 0.1.0\n"

end SandboxClient.Usage
