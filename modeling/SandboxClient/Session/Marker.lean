/-
  SandboxClient/Session/Marker.lean
  =================================
  **The active sandbox of a directory.** A marker file tells which sandbox is meant
  when none is named. Its first line is the name. A marker that cannot be read, or
  whose first line is blank, tells nothing.
-/
import SandboxClient.Files.Replacing
import SandboxClient.Text.Blank
import SandboxClient.Text.Utf8

namespace SandboxClient.Session

open SandboxClient.Files (DiskCall Path)
open SandboxClient.Text

/-! ### Content

A marker is written as one trimmed name and a line end, and read up to the first line end. A name
that has line ends of its own is not read back. -/

def markerName : String := ".sandcastle"

/-- The name that the content of a marker tells: its first line without the blanks around it,
unless nothing is left. -/
def nameInMarker (content : String) : Option String :=
  let name := trim ((lines content.toList).headD [])
  if name.isEmpty then none else some (String.ofList name)

def markerText (name : String) : String := trimmed name ++ "\n"

/-! ### Files

The program's `read` and `write` of `ActiveSandbox`. A marker that cannot be read, or is no text,
tells no name. -/

def markerPath (directory : String) : String := Files.join directory markerName

def readMarker (path : String) : DiskCall (Option String) := fun d =>
  match (Files.readFile (Path.read path)).run d with
  | (.ok bytes, d) => (.ok ((strictText bytes).bind nameInMarker), d)
  | (.error _, d) => (.ok none, d)

def writeMarker (path name : String) : DiskCall Unit :=
  Files.overwrite (Path.read path) (octets (markerText name))

end SandboxClient.Session
