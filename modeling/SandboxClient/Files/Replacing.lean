/-
  SandboxClient/Files/Replacing.lean
  ==================================
  **Replacing a file.** A file is replaced by writing a temporary file beside it,
  which nobody else may read, and by moving that one over it. The steps are
  single calls, so that it can be told what others see between them and what is
  left when one of them fails.
-/
import SandboxClient.Files.Disk

namespace SandboxClient.Files

/-! ### Permissions

Only the owner may read, write or enter. -/

def privateFile : Nat := 0o600

def privateDirectory : Nat := 0o700

/-! ### Steps

The calls of the program's `save_to`, one call a step, so that failures and other savers can come
between any two. `create_private_dir` comes first and `write_private` makes the temporary file;
whatever fails after that, the temporary file is removed. -/

/-- How far the replacement of a file has come. -/
inductive Stage
  /-- The directory is to be made. -/
  | directory
  /-- The temporary file is to be opened. -/
  | opening
  /-- Its permissions are to be set. -/
  | restricting (serial : Nat)
  /-- The content is to be written. -/
  | writing (serial : Nat)
  | syncing
  /-- The temporary file is to be moved. -/
  | moving
  /-- Something has failed, and the temporary file is to be removed. -/
  | cleaning (cause : DiskFault)
  | done
  | failed (cause : DiskFault)
  deriving DecidableEq, Repr

structure Replacement where
  path : Path
  content : List UInt8
  stage : Stage
  deriving DecidableEq, Repr

def temporaryEnding : String := "yaml.tmp"

def temporary (p : Path) : Path := p.withEnding temporaryEnding

def Replacement.planned (p : Path) (content : List UInt8) : Replacement := ⟨p, content, .directory⟩

/-- The outcome of a call as the stage that it leads to. -/
def Replacement.after {α : Type} (r : Replacement) (next : α → Stage)
    (otherwise : DiskFault → Stage) (call : DiskCall α) (d : Disk) : Replacement × Disk :=
  match call.run d with
  | (.ok a, d) => ({ r with stage := next a }, d)
  | (.error fault, d) => ({ r with stage := otherwise fault }, d)

def Replacement.step (r : Replacement) (d : Disk) : Replacement × Disk :=
  let tmp := temporary r.path
  match r.stage with
  | .directory =>
    -- there is no temporary file yet that would have to be removed
    r.after (fun _ => .opening) .failed (makeDirectories privateDirectory r.path.parent) d
  | .opening => r.after .restricting .cleaning (openEmpty privateFile tmp) d
  | .restricting n => r.after (fun _ => .writing n) .cleaning (setMode privateFile tmp) d
  | .writing n => r.after (fun _ => .syncing) .cleaning (write n r.content) d
  | .syncing => r.after (fun _ => .moving) .cleaning sync d
  | .moving => r.after (fun _ => .done) .cleaning (move tmp r.path) d
  | .cleaning cause => r.after (fun _ => .failed cause) (fun _ => .failed cause) (remove tmp) d
  | .done | .failed _ => (r, d)

def Replacement.steps : Nat → Replacement → Disk → Replacement × Disk
  | 0, r, d => (r, d)
  | n + 1, r, d =>
    let (r, d) := r.step d
    Replacement.steps n r d

/-- Every replacement has ended after so many steps. -/
def enoughSteps : Nat := 7

/-- What a stage says about the outcome. -/
def Stage.outcome : Stage → Except DiskFault Unit
  | .done => .ok ()
  | .failed cause | .cleaning cause => .error cause
  | _ => .error .trouble

/-- Replaces the file that a path leads to, without anything coming between. -/
def replace (p : Path) (content : List UInt8) : DiskCall Unit := fun d =>
  let (r, d) := (Replacement.planned p content).steps enoughSteps d
  (r.stage.outcome, d)

/-- Writes a file in place, as it suits a file of one line. -/
def overwrite (p : Path) (content : List UInt8) : DiskCall Unit := do
  write (← openEmpty 0o644 p) content

end SandboxClient.Files
