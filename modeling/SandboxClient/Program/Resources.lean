/-
  SandboxClient/Program/Resources.lean
  ====================================
  **Commands about other things a server has.** Routes, snapshots, tokens, the
  private network, and the server itself.
-/
import SandboxClient.Program.Sandboxes
import SandboxClient.Remote.Info
import SandboxClient.Terminal.Size

namespace SandboxClient.Program

open SandboxClient.Remote (Client)
open SandboxClient.Terminal (Cell)
open SandboxClient.Text (quoted)

/-! ### Routes

The actions of the program's `route`. The sandbox is found by its name first, so no request names a
domain below a sandbox that is not there. -/

def addRoute (c : Client) (sandbox domain : String) (port : Nat) : Run Unit := do
  let s ← findNamed c sandbox
  let r ← asking (c.addRoute s.id domain port)
  success ("Route added for sandbox " ++ quoted s.name ++ ".")
  field "Domain" r.domain
  field "Port" (toString r.port)
  field "URL" r.url
  printLine ""
  hint "Point your DNS to this server; TLS is handled automatically."

def routeRow (r : Remote.Route) : List Cell :=
  [Cell.plain r.domain, Cell.plain (toString r.port), Cell.plain r.url]

def listRoutes (c : Client) (sandbox : String) : Run Unit := do
  let s ← findNamed c sandbox
  let routes ← asking (c.listRoutes s.id)
  if routes.isEmpty then printLine ("No routes for sandbox " ++ quoted s.name ++ ".")
  else
    printTable ["DOMAIN", "PORT", "URL"] (routes.map routeRow)

def deleteRoute (c : Client) (sandbox domain : String) : Run Unit := do
  let s ← findNamed c sandbox
  asking (c.removeRoute s.id domain)
  success ("Route " ++ quoted domain ++ " removed from sandbox " ++ quoted s.name ++ ".")

def route (command : Usage.RouteCommand) : Run Unit := do
  let c ← client
  match command with
  | .add sandbox domain port => addRoute c sandbox domain port
  | .list sandbox => listRoutes c sandbox
  | .delete sandbox domain => deleteRoute c sandbox domain

/-! ### Snapshots

The actions of `snapshot`. Restoring takes the name or the image of a snapshot; the others take its
name. -/

def createSnapshot (c : Client) (sandbox : String) (name : Option String) : Run Unit := do
  let s ← findNamed c sandbox
  let kept ← asking (c.snapshotSandbox s.id name)
  success ("Snapshot " ++ quoted kept.name ++ " created from sandbox " ++ quoted s.name)
  field "Image" kept.image

def snapshotRow (now : Time.Moment) (s : Remote.Snapshot) : List Cell :=
  [Cell.plain s.name, Cell.plain (s.sandbox.getD "-"), Cell.plain s.image,
   Cell.plain (Terminal.sizeText s.size), Cell.plain (Time.agoText now s.createdAt "-")]

def listSnapshots (c : Client) : Run Unit := do
  let snapshots ← asking c.listSnapshots
  if snapshots.isEmpty then printLine "No snapshots."
  else
    let now := (← get).now
    printTable ["NAME", "SANDBOX", "IMAGE", "SIZE", "CREATED"] (snapshots.map (snapshotRow now))

def destroySnapshot (c : Client) (name : String) : Run Unit := do
  asking (c.destroySnapshot name)
  success ("Snapshot " ++ quoted name ++ " destroyed.")

def restoreSnapshot (c : Client) (sandbox reference : String) : Run Unit := do
  let s ← findNamed c sandbox
  let restored ← asking (c.restoreSandbox s.id (Session.snapshotName reference))
  success ("Sandbox " ++ quoted restored.name ++ " restored from snapshot " ++ quoted reference)

def snapshot (command : Usage.SnapshotCommand) : Run Unit := do
  let c ← client
  match command with
  | .create sandbox name => createSnapshot c sandbox name
  | .list => listSnapshots c
  | .destroy name => destroySnapshot c name
  | .restore sandbox reference => restoreSnapshot c sandbox reference

/-! ### Tokens

The actions of `token`. A token is listed by its number and its first characters, and revoked by its
number. -/

def tokenRow (now : Time.Moment) (t : Remote.Token) : List Cell :=
  [Cell.plain (toString t.id), Cell.plain t.name, Cell.plain t.start,
   Cell.plain (Time.agoText now (some t.createdAt) ""),
   Cell.plain (Time.agoText now t.lastUsedAt "Never"),
   Cell.plain (Time.agoText now t.expiresAt "Never")]

def listTokens (c : Client) : Run Unit := do
  let tokens ← asking c.listTokens
  if tokens.isEmpty then
    printLine "No API tokens found."
    hint "Run 'sandcastle login <url>' to create one for this machine."
  else
    let now := (← get).now
    printTable ["ID", "NAME", "PREFIX", "CREATED", "LAST USED", "EXPIRES"]
      (tokens.map (tokenRow now))

def revokeToken (c : Client) (id : Nat) : Run Unit := do
  asking (c.destroyToken id)
  success ("Revoked token ID " ++ toString id)

def token (command : Usage.TokenCommand) : Run Unit := do
  let c ← client
  match command with
  | .list => listTokens c
  | .revoke id => revokeToken c id

/-! ### The server

The answer to `status` is shown whatever it holds, that to `info` in the lines of `info_lines`. -/

def status : Run Unit := do
  let c ← announcedClient
  printLine (← asking c.status).shown

def info : Run Unit := do
  let c ← announcedClient
  let i ← asking c.info
  print (String.join (("" :: i.lines).map Terminal.line))

/-! ### The private network

The actions of `tailscale`. The key is asked for (`prompt_auth_key`) unless one is given that is not
blank. -/

def askForKey : Run String := do
  printLine "Paste a reusable Tailscale auth key."
  printLine "Generate one at: Tailscale Admin > Settings > Keys"
  printLine ""
  print "Auth key: "
  let key := Text.trimmed (← readLine)
  if key.isEmpty then throw .noKey
  return key

def enableTailscale (c : Client) (given : Option String) : Run Unit := do
  let key ← match Session.spoken given with
    | some key => pure (Text.trimmed key)
    | none => askForKey
  asking (c.tailscaleEnable key)
  success "Tailscale auth key saved."
  hint "Create sandboxes with --tailscale to connect them to your tailnet."

/-- What is known about the connection, with labels; empty values count as unknown. -/
def tailscaleFields (s : Remote.TailscaleStatus) : List (String × String) :=
  let known := [("IP", s.tailscaleIp), ("Hostname", s.hostname), ("Tailnet", s.tailnet),
    ("Network", s.network)].filterMap (fun f =>
      (f.2.filter (fun v => !v.isEmpty)).map (fun v => (f.1, v)))
  ("Sidecar", if s.running then "running" else "stopped") :: known ++
    [("Sandboxes", toString s.connectedSandboxes)]

def showTailscale (s : Remote.TailscaleStatus) : Run Unit := do
  print (String.join ((tailscaleFields s).map (fun f => Terminal.field f.1 f.2)))
  if !s.sandboxes.isEmpty then
    printLine ""
    printTable ["SANDBOX", "TAILSCALE IP"]
      (s.sandboxes.map (fun b => [Cell.plain b.name, Cell.plain (b.ip.getD "-")]))

def tailscale (command : Usage.TailscaleCommand) : Run Unit := do
  let c ← client
  match command with
  | .enable key => enableTailscale c key
  | .disable =>
    asking c.tailscaleDisable
    success "Tailscale auth key removed."
  | .status => showTailscale (← asking c.tailscaleStatus)

end SandboxClient.Program
