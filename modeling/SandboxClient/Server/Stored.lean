/-
  SandboxClient/Server/Stored.lean
  ================================
  **The store on disk.** No file is an empty store. A file of an older layout is
  written anew as soon as it has been read. Saving replaces the file as a whole.
  These are the program's `load_from` and `save_to`.
-/
import SandboxClient.Files.Replacing
import SandboxClient.Server.Fault
import SandboxClient.Text.Utf8

namespace SandboxClient.Server

open SandboxClient.Files (Path Disk DiskFault DiskCall)

abbrev StoreCall (α : Type) := ExceptT Fault (StateM Disk) α

def outcome {α : Type} (call : DiskCall α) : StoreCall (Except DiskFault α) := fun d =>
  let (result, d) := call.run d
  (.ok result, d)

def Config.save (c : Config) (path : String) : StoreCall Unit := do
  match ← outcome (Files.replace (Path.read path) (Text.octets c.text)) with
  | .ok _ => return ()
  | .error reason => throw (.notWritable path reason)

/-- The store in the text of a file, which is written anew if it has an older layout. -/
def adoptText (path text : String) : StoreCall Config := do
  match parse text with
  | .error reason => throw (.corrupt path reason)
  | .ok (c, layout) =>
    if layout != .current then c.save path
    return c

def loadFrom (path : String) : StoreCall Config := do
  match ← outcome (Files.readFile (Path.read path)) with
  | .error .missing => return Config.empty
  | .error reason => throw (.notReadable path (.disk reason))
  | .ok bytes =>
    match Text.strictText bytes with
    | none => throw (.notReadable path .notText)
    | some text => adoptText path text

end SandboxClient.Server
