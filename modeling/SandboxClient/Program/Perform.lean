/-
  SandboxClient/Program/Perform.lean
  ==================================
  **Carrying out command lines.** Each command is carried out by one run, and
  the way in which that ends gives the exit code. What went wrong is told in a
  box, except after a session, of which ssh itself has told. Commands are told
  apart as in the program's `run`, and runs end as its `main` does.
-/
import SandboxClient.Program.Resources
import SandboxClient.Program.Servers
import SandboxClient.Usage.Forms

namespace SandboxClient.Program

def perform : Usage.Command → Run Unit
  | .login url name noBrowser => login url name noBrowser
  | .server command => server command
  | .showConfig => showConfig
  | .list => listSandboxes
  | .create creation => create creation
  | .delete name => delete name
  | .start name => start name
  | .stop name => stop name
  | .set name lifetime => setLifetime name lifetime
  | .connect name => connect name
  | .ssh name => ssh name
  | .exec words => exec words
  | .use name => use name
  | .route command => route command
  | .snapshot command => snapshot command
  | .token command => token command
  | .tailscale command => tailscale command
  | .status => status
  | .info => info

def exitLimit : Nat := 256

/-- The exit code of the program when it breaks off in the middle of a message. -/
def brokenCode : Nat := 101

/-- The exit code after a run, and the world after what went wrong has been told. The status of ssh
is passed on as it is. -/
def ending (result : Except Failure Unit) (w : World) : Nat × World :=
  match result with
  | .ok _ => (0, w)
  | .error failure =>
    match failure.sshStatus? with
    | some status => (if status < exitLimit then status else 1, w)
    | none =>
      match Terminal.errorBox failure.text with
      | some box => (1, { w with errors := w.errors ++ box })
      | none => (brokenCode, w)

/-- Carries out a command and tells what went wrong. -/
def execute (command : Usage.Command) (w : World) : Nat × World :=
  let (result, w) := (perform command).run w
  ending result w

end SandboxClient.Program
