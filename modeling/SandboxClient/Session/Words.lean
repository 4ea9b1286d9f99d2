/-
  SandboxClient/Session/Words.lean
  ================================
  **Words that name things.** A command is given words: the name of a sandbox, the
  path of data, a snapshot. This module says what they mean.
-/
import SandboxClient.Text.Blank

namespace SandboxClient.Session

open SandboxClient.Text

/-! ### Sandboxes

The program's `resolve_sandbox_name`. -/

/-- A word that is there and not blank. -/
def spoken (word : Option String) : Option String := word.filter (fun w => !isBlankText w)

def chosenName (given active : Option String) : Option String := (spoken given).or active

/-! ### Data and snapshots

The program's `data_path` and `snapshot_name`. -/

def dataRoot : String := "."

/-- The path to the data that a new sandbox is to see. A word that only says yes stands for the
root, and one that says nothing for no data. -/
def dataPath (given : Option String) : Option String :=
  match given with
  | none => none
  | some word =>
    let said := trimmed word
    if said.isEmpty then none
    else if said == "1" || said == "true" then some dataRoot
    else some word -- with its blanks

/-- The name of the snapshot that a reference means: what follows its first colon, or all of
it. -/
def snapshotName (reference : String) : String :=
  match splitFirst (· == ':') reference.toList with
  | some (_, name) => String.ofList name
  | none => reference

end SandboxClient.Session
