/-
  SandboxClient/Files/Path.lean
  =============================
  **Paths.** A path is written as names between slashes. It begins at the root or at
  the working directory. Empty names and names that mean the directory itself
  lead nowhere and are left out.
-/

namespace SandboxClient.Files

def above : String := ".."

/-- A path: where it begins, and the names on the way. -/
structure Path where
  fromRoot : Bool
  names : List String
  deriving DecidableEq, Repr

def Path.read (text : String) : Path :=
  let names := (text.toList.splitOnP (· == '/')).map String.ofList
  ⟨text.toList.head? == some '/', names.filter (fun n => !n.isEmpty && n != ".")⟩

def join (directory name : String) : String :=
  match directory.toList.getLast? with
  | none => name
  | some '/' => directory ++ name
  | some _ => directory ++ "/" ++ name

def Path.parent (p : Path) : Path := { p with names := p.names.dropLast }

/-- A file name without its last ending. A full stop in front does not begin an ending. -/
def stem (name : String) : String :=
  match name.toList.reverse.dropWhile (· != '.') with
  | _ :: before => if before.isEmpty then name else String.ofList before.reverse
  | [] => name

/-- The path to the file beside a file whose name has another ending. -/
def Path.withEnding (p : Path) (ending : String) : Path :=
  match p.names.getLast? with
  | none => p
  | some name =>
    if name == above then p
    else { p with names := p.names.dropLast ++ [stem name ++ "." ++ ending] }

end SandboxClient.Files
