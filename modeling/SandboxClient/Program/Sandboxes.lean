/-
  SandboxClient/Program/Sandboxes.lean
  ====================================
  **Commands about sandboxes.** Listing, making, starting, stopping and removing
  them, and sessions in them. A sandbox that was made for one session is removed
  when the session has ended, in whatever way, unless it was meanwhile set to be
  kept.
-/
import SandboxClient.Program.Run
import SandboxClient.Text.Quoted
import SandboxClient.Usage.Command

namespace SandboxClient.Program

open SandboxClient.Remote (Client Sandbox ConnectInfo)
open SandboxClient.Terminal (Cell)
open SandboxClient.Text (quoted)

/-! ### Finding

A name is looked up in the list of the server each time (`find_by_name`). The name itself is the one
that is given or the active one (`resolve_sandbox_name`). -/

def findNamed (c : Client) (name : String) : Run Sandbox := do
  ofWords (Session.findNamed (← asking c.listSandboxes) name)

def meantName (given active : Option String) : Run String :=
  match Session.chosenName given active with
  | some name => pure name
  | none => throw (.words .noName)

def announcedClient : Run Client := do
  let c ← client
  printServer c
  return c

/-! ### Listing

The program's `list`. The column of routes is there only if some sandbox has one. -/

/-- A route as it is listed. -/
def routeText (r : Remote.Route) : String := r.url ++ " (:" ++ toString r.port ++ ")"

def sandboxHeaders (routed : Bool) : List String :=
  ["NAME", "STATUS", "PORT"] ++ (if routed then ["ROUTE"] else []) ++
    ["TAILSCALE IP", "IMAGE", "CREATED"]

def sandboxRow (now : Time.Moment) (routed : Bool) (s : Sandbox) : List Cell :=
  [Cell.plain (if s.temporary then s.name ++ " (temp)" else s.name),
   Cell.coloured s.status.name s.status.colour,
   Cell.plain ((s.sshPort.map toString).getD "")] ++
  (if routed then [Cell.plain (", ".intercalate (s.routes.map routeText))] else []) ++
  [Cell.plain (s.tailscaleIp.getD ""),
   Cell.plain s.image,
   Cell.plain (Time.agoText now s.createdAt "")]

def listSandboxes : Run Unit := do
  let c ← announcedClient
  let sandboxes ← asking c.listSandboxes
  if sandboxes.isEmpty then printLine "No sandboxes."
  else
    let routed := sandboxes.any (fun s => !s.routes.isEmpty)
    let now := (← get).now
    printTable (sandboxHeaders routed) (sandboxes.map (sandboxRow now routed))

/-! ### Sessions

The program waits for the port (`wait_for_ssh`) and then runs ssh in the terminal (`ssh_exec`);
`attach` does both. -/

def awaitPort (info : ConnectInfo) : Run Unit := do
  let address := Session.portAddress info
  let w ← get
  if !(Session.readyPatience.wait (w.port address)).ready then throw (.portClosed address)

/-- Runs ssh with arguments. Where there is none, or it cannot be started, nothing has run. -/
def runSsh (arguments : List String) : Run Session.SshOutcome := fun w =>
  match w.sshEnds w.sshRuns arguments with
  | .absent => (.ok .absent, w)
  | .notStarted => (.ok .notStarted, w)
  -- only what has run is counted
  | ending => (.ok ending, { w with sshRuns := w.sshRuns ++ [arguments] })

def session (info : ConnectInfo) (command : Option String) : Run Unit := do
  match (← runSsh (Session.sshArguments info command)).fault? with
  | some fault => throw (.ssh fault)
  | none => return ()

/-- A session in a sandbox, as soon as its port accepts connections. -/
def attach (c : Client) (s : Sandbox) (command : Option String) : Run Unit := do
  let info ← asking (c.connectInfo s.id)
  awaitPort info
  session info command

/-! ### Making

The program's `create`. With `remove` the sandbox is made for one session, and goes when that has
ended, whatever its end. -/

def requestFor (c : Usage.Creation) : Remote.NewSandbox :=
  { name := c.name
    image := c.image
    persistent := c.persistent
    snapshot := c.snapshot
    tailscale := c.tailscale
    mountHome := c.home
    dataPath := Session.dataPath c.data
    temporary := c.remove }

def dataText (path : String) : String :=
  "mounted (" ++ (if path == Session.dataRoot then "user data root" else path) ++ " → /data)"

def describe (c : Usage.Creation) (s : Sandbox) : Run Unit := do
  success ("Sandbox " ++ quoted s.name ++ " created.")
  if s.mountHome then field "Home" "mounted (~/ persisted)"
  match Session.dataPath c.data with
  | some path => field "Data" (dataText path)
  | none => pure ()
  if s.persistentVolume then field "Volume" "persistent (/workspace)"
  if s.tailscale then field "Tailscale" "enabled"
  if c.remove then field "Cleanup" "auto-remove on exit"

/-- Removes a sandbox that was made for one session, unless it is to be kept
(`remove_if_temporary`). When nobody knows whether it is, it is removed. -/
def removeTemporary (c : Client) (s : Sandbox) : Run Unit := do
  let kept := match ← outcome (c.getSandbox s.id) with
    | .ok current => !current.temporary
    | .error _ => false
  if kept then printLine ("Sandbox " ++ quoted s.name ++ " was set to keep, skipping removal.")
  else
    printLine ("Removing sandbox " ++ quoted s.name ++ "...")
    match ← outcome (c.destroySandbox s.id) with
    | .ok _ => success ("Sandbox " ++ quoted s.name ++ " deleted.")
    | .error fault => warn ("Warning: failed to delete sandbox: " ++ fault.message)

/-- Makes a sandbox, and begins a session in it. The outcome of the session is the outcome of the
command, whatever becomes of the sandbox. -/
def create (c : Usage.Creation) : Run Unit := do
  let remote ← announcedClient
  let s ← asking (remote.createSandbox (requestFor c))
  describe c s
  if !c.noConnect then
    -- the sandbox is removed before the outcome is returned, whichever it is
    let ending ← attempt (attach remote s (some Session.attachCommand))
    if c.remove then removeTemporary remote s
    conclude ending

/-! ### Changing

Each of these commands finds the sandbox, asks for one change, and tells what came of it. -/

def delete (name : String) : Run Unit := do
  let c ← announcedClient
  let s ← findNamed c name
  asking (c.destroySandbox s.id)
  success ("Sandbox " ++ quoted name ++ " deleted.")

def start (name : String) : Run Unit := do
  let c ← announcedClient
  let s ← findNamed c name
  let s ← asking (c.startSandbox s.id)
  success ("Sandbox " ++ quoted s.name ++ " started.")

def stop (name : String) : Run Unit := do
  let c ← announcedClient
  let s ← findNamed c name
  let s ← asking (c.stopSandbox s.id)
  success ("Sandbox " ++ quoted s.name ++ " stopped.")

def setLifetime (name : String) (lifetime : Usage.Lifetime) : Run Unit := do
  let c ← announcedClient
  let s ← findNamed c name
  let s ← asking (c.updateSandbox s.id (lifetime == .temporary))
  if s.temporary then
    success ("Sandbox " ++ quoted s.name ++ " set to temporary (will be removed on exit).")
  else success ("Sandbox " ++ quoted s.name ++ " set to keep (will not be removed on exit).")

/-! ### Entering

A stopped sandbox is started for `connect` only. `exec` does not wait for the port. -/

/-- Begins a session in a sandbox, inside the multiplexer. -/
def connect (name : Option String) : Run Unit := do
  let name ← meantName name (← activeName)
  let c ← client
  let s ← findNamed c name
  let s ←
    if s.status == .stopped then do
      printLine ("Starting sandbox " ++ quoted name ++ "...")
      during "Failed to start sandbox" (asking (c.startSandbox s.id))
    else pure s
  attach c s (some Session.attachCommand)

def ssh (name : Option String) : Run Unit := do
  let name ← meantName name (← activeName)
  let c ← client
  let s ← findNamed c name
  attach c s none

def exec (words : List String) : Run Unit := do
  let active ← activeName
  let c ← client
  let sandboxes ← asking c.listSandboxes
  let errand ← ofWords (Session.readErrand words (sandboxes.map (fun s => s.name)) active)
  let s ← ofWords (Session.findNamed sandboxes errand.name)
  let info ← asking (c.connectInfo s.id)
  session info (some errand.command)

/-! ### The active sandbox

The program's `use_sandbox`. A blank name counts as none. -/

def showActive : Run Unit := do
  let c ← loadStore
  field "Server" ((c.current?.map (fun e => e.server)).getD "(none)")
  field "Sandbox" ((← activeName).getD "(none)")

def makeActive (name : String) : Run Unit := do
  let w ← get
  match (Session.writeMarker w.markerPath name).run w.disk with
  | (.ok _, d) => set { w with disk := d }
  | (.error reason, d) =>
    set { w with disk := d }
    throw (.markerNotWritten w.markerPath reason)
  success ("Active sandbox set to " ++ quoted (Text.trimmed name))
  hint ("Saved in " ++ w.markerPath)

def use (name : Option String) : Run Unit :=
  match Session.spoken name with
  | some name => makeActive name
  | none => showActive

end SandboxClient.Program
