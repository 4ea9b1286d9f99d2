/-
  SandboxClient/Program/Run.lean
  ==============================
  **Runs.** The steps that all commands are made of: printing, using the store,
  asking the server, and telling which server and which sandbox are meant.
-/
import SandboxClient.Program.Failure
import SandboxClient.Program.World
import SandboxClient.Server.Stored
import SandboxClient.Session.Marker
import SandboxClient.Terminal.Table
import SandboxClient.Time.Distance

namespace SandboxClient.Program

/-- Something that is done in the world and may fail. -/
abbrev Run (α : Type) := ExceptT Failure (StateM World) α

/-! ### The terminal

Output is text at the end of what the world has been told. What a command tells on the side of
faults is kept apart. -/

def print (s : String) : Run Unit := modify (fun w => { w with output := w.output ++ s })

def printLine (s : String) : Run Unit := print (Terminal.line s)

def warn (s : String) : Run Unit :=
  modify (fun w => { w with errors := w.errors ++ Terminal.line s })

/-- Reads a line, without its end. At the end of the input it is empty. -/
def readLine : Run String := fun w =>
  let (line, rest) := w.input.toList.span (· != '\n')
  (.ok (String.ofList line), { w with input := String.ofList (rest.drop 1) })

/-! ### Outcomes

A failure stops a run. Where the program looks at a result before it returns it, the run is
attempted, and concluded later; where it adds a context, it is made during something. -/

/-- What comes of something, without stopping when it fails. -/
def attempt {α : Type} (run : Run α) : Run (Except Failure α) := fun w =>
  let (result, w) := run.run w
  (.ok result, w)

def conclude {α : Type} : Except Failure α → Run α
  | .ok a => pure a
  | .error failure => throw failure

def during {α : Type} (what : String) (run : Run α) : Run α := do
  match ← attempt run with
  | .ok a => pure a
  | .error failure => throw (.during what failure)

/-! ### The disk

The directory of the store is what `config_dir` gives and its path what `config_path` gives: the
variable counts unless it is blank, and only without it the home of the user. -/

def storing {α : Type} (call : Server.StoreCall α) : Run α := fun w =>
  let (result, d) := call.run w.disk
  (result.mapError .store, { w with disk := d })

def ofStore {α : Type} : Except Server.Fault α → Run α
  | .ok a => pure a
  | .error fault => throw (.store fault)

def directoryVariable : String := "SANDCASTLE_CONFIG_DIR"

def storeName : String := "config.yaml"

/-- The home of the user. An empty variable does not count as one. -/
def World.home? (w : World) : Option String :=
  ((w.setting? "HOME").filter (fun h => !h.isEmpty)).or w.accountHome

def World.storeDirectory? (w : World) : Option String :=
  (w.spokenSetting? directoryVariable).or (w.home?.map (Files.join · ".sandcastle"))

def storePath : Run String := do
  match (← get).storeDirectory? with
  | some directory => return Files.join directory storeName
  | none => throw (.store .noHome)

def loadStore : Run Server.Config := do
  storing (Server.loadFrom (← storePath))

def saveStore (c : Server.Config) : Run Unit := do
  storing (c.save (← storePath))

/-! ### The server

`client` and `printServer` are the program's `client` and `print_server`: whoever asks a server has
the connection of the store and the token of the environment. -/

/-- What comes of asking a server. -/
def outcome {α : Type} (call : Remote.Call α) : Run (Except Remote.Fault α) := fun w =>
  let (result, n) := call.run w.network
  (.ok result, { w with network := n })

def asking {α : Type} (call : Remote.Call α) : Run α := do
  match ← outcome call with
  | .ok a => return a
  | .error fault => throw (.remote fault)

/-- Something that is a matter of the remote client alone, without asking. -/
def ofRemote {α : Type} : Except Remote.Fault α → Run α
  | .ok a => pure a
  | .error fault => throw (.remote fault)

def World.token? (w : World) : Option String := w.setting? Server.tokenVariable

def client : Run Remote.Client := do
  let c ← loadStore
  let w ← get
  let connection ← ofStore ((c.connection w.token?).mapError .unconnected)
  during "Failed to create API client" (ofRemote (Remote.Client.ofConnection connection))

def printServer (c : Remote.Client) : Run Unit := print (Terminal.hint ("Server: " ++ c.baseUrl))

/-! ### The active sandbox

The program's `active_sandbox`: the marker of the working directory, where one that cannot be read
counts as none. -/

def World.markerPath (w : World) : String := Session.markerPath w.workingDirectory

def activeName : Run (Option String) := fun w =>
  match (Session.readMarker w.markerPath).run w.disk with
  | (.ok name, d) => (.ok name, { w with disk := d })
  | (.error _, d) => (.ok none, { w with disk := d })

def ofWords {α : Type} : Except Session.WordFault α → Run α
  | .ok a => pure a
  | .error fault => throw (.words fault)

/-! ### What is printed

The lines that commands are made of (`success`, `field`, `hint`), and their tables. -/

def success (message : String) : Run Unit := print (Terminal.success message)

def field (label value : String) : Run Unit := print (Terminal.field label value)

def hint (message : String) : Run Unit := print (Terminal.hint message)

def printTable (headers : List String) (rows : List (List Terminal.Cell)) : Run Unit :=
  print (Terminal.Table.of headers rows).printed

def ago (moment : Option Time.Moment) (fallback : String) : Run String := do
  return Time.agoText (← get).now moment fallback

end SandboxClient.Program
