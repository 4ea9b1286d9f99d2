/-
  SandboxClient/Remote/Calls.lean
  ===============================
  **The questions that a server answers.** Each question has a method, a path, and
  what the answer holds. Fields of a body that say nothing are left out.
-/
import SandboxClient.Remote.Client
import SandboxClient.Remote.Info

namespace SandboxClient.Remote

open SandboxClient.Json (Reader Value)

/-! ### Bodies

Members that say nothing are left out, so that the server applies its own defaults. -/

/-- A member with a text, left out when there is none. -/
def textMember (name : String) (s : Option String) : List (String × Value) :=
  s.toList.map (fun s => (name, .text s))

/-- A member that says yes, left out when it does not. -/
def flagMember (name : String) (b : Bool) : List (String × Value) :=
  if b then [(name, .flag true)] else []

structure NewSandbox where
  name : String
  image : Option String
  persistent : Bool
  snapshot : Option String
  tailscale : Bool
  mountHome : Bool
  dataPath : Option String
  temporary : Bool
  deriving DecidableEq, Repr

def NewSandbox.body (s : NewSandbox) : Value :=
  .object ([("name", .text s.name)] ++ textMember "image" s.image ++
    flagMember "persistent" s.persistent ++ textMember "snapshot" s.snapshot ++
    flagMember "tailscale" s.tailscale ++ flagMember "mount_home" s.mountHome ++
    textMember "data_path" s.dataPath ++ flagMember "temporary" s.temporary)

def routeBody (domain : String) (port : Nat) : Value :=
  .object [("domain", .text domain), ("port", .integer port)]

/-! ### Sandboxes

The program's `list_sandboxes` and the calls for one sandbox, which is named by its number. Names
that users type never stand in these paths. -/

def sandboxPath (id : Nat) : List String := ["api", "sandboxes", toString id]

namespace Client

def listSandboxes (c : Client) : Call (List Sandbox) :=
  c.ask .get ["api", "sandboxes"] none "sandbox list" (Reader.list Sandbox.reader)

def getSandbox (c : Client) (id : Nat) : Call Sandbox :=
  c.ask .get (sandboxPath id) none "sandbox" Sandbox.reader

def createSandbox (c : Client) (s : NewSandbox) : Call Sandbox :=
  c.ask .post ["api", "sandboxes"] (some s.body) "sandbox" Sandbox.reader

/-- Says whether a sandbox is temporary. -/
def updateSandbox (c : Client) (id : Nat) (temporary : Bool) : Call Sandbox :=
  c.ask .patch (sandboxPath id) (some (.object [("temporary", .flag temporary)])) "sandbox"
    Sandbox.reader

def destroySandbox (c : Client) (id : Nat) : Call Unit := c.tell .delete (sandboxPath id) none

def startSandbox (c : Client) (id : Nat) : Call Sandbox :=
  c.ask .post (sandboxPath id ++ ["start"]) none "sandbox" Sandbox.reader

def stopSandbox (c : Client) (id : Nat) : Call Sandbox :=
  c.ask .post (sandboxPath id ++ ["stop"]) none "sandbox" Sandbox.reader

def connectInfo (c : Client) (id : Nat) : Call ConnectInfo :=
  c.ask .post (sandboxPath id ++ ["connect"]) none "connect info" ConnectInfo.reader

/-! ### Routes

The program's `list_routes`, `add_route` and `remove_route`. The domain of a route is a segment of
the path of the last one only. -/

def listRoutes (c : Client) (id : Nat) : Call (List Route) :=
  c.ask .get (sandboxPath id ++ ["routes"]) none "route list" (Reader.list Route.reader)

def addRoute (c : Client) (id : Nat) (domain : String) (port : Nat) : Call Route :=
  c.ask .post (sandboxPath id ++ ["routes"]) (some (routeBody domain port)) "route" Route.reader

def removeRoute (c : Client) (id : Nat) (domain : String) : Call Unit :=
  c.tell .delete (sandboxPath id ++ ["routes", domain]) none

/-! ### Snapshots

The program's `snapshot_sandbox`, `restore_sandbox`, `list_snapshots` and `destroy_snapshot`. -/

def snapshotSandbox (c : Client) (id : Nat) (name : Option String) : Call Snapshot :=
  c.ask .post (sandboxPath id ++ ["snapshot"]) (some (.object (textMember "name" name)))
    "snapshot" Snapshot.reader

def restoreSandbox (c : Client) (id : Nat) (snapshot : String) : Call Sandbox :=
  c.ask .post (sandboxPath id ++ ["restore"]) (some (.object [("snapshot", .text snapshot)]))
    "sandbox" Sandbox.reader

def listSnapshots (c : Client) : Call (List Snapshot) :=
  c.ask .get ["api", "snapshots"] none "snapshot list" (Reader.list Snapshot.reader)

def destroySnapshot (c : Client) (name : String) : Call Unit :=
  c.tell .delete ["api", "snapshots", name] none

/-! ### Tokens

The program's `list_tokens` and `destroy_token`. -/

def listTokens (c : Client) : Call (List Token) :=
  c.ask .get ["api", "tokens"] none "token list" (Reader.list Token.reader)

def destroyToken (c : Client) (id : Nat) : Call Unit :=
  c.tell .delete ["api", "tokens", toString id] none

/-! ### The private network

The program's `tailscale_enable`, `tailscale_disable` and `tailscale_status`. -/

def tailscaleEnable (c : Client) (key : String) : Call Unit :=
  c.tell .post ["api", "tailscale", "enable"] (some (.object [("auth_key", .text key)]))

def tailscaleDisable (c : Client) : Call Unit :=
  c.tell .delete ["api", "tailscale", "disable"] none

def tailscaleStatus (c : Client) : Call TailscaleStatus :=
  c.ask .get ["api", "tailscale", "status"] none "tailscale status" TailscaleStatus.reader

/-! ### The server

The program's `status`, whose answer has no form of its own, and `info`. -/

def status (c : Client) : Call Value := c.ask .get ["api", "status"] none "status" Reader.value

def info (c : Client) : Call ServerInfo :=
  c.ask .get ["api", "info"] none "server info" ServerInfo.reader

/-! ### Logins

The program's `request_device_code` and `poll_device_token`, asked by a client without a token. -/

def requestDeviceCode (c : Client) (clientName : String) : Call DeviceSession :=
  c.ask .post ["api", "auth", "device_code"] (some (.object [("client_name", .text clientName)]))
    "device code" DeviceSession.reader

end Client

inductive Verdict
  | approved (token : String)
  | pending
  | denied (message : String)
  deriving DecidableEq, Repr

def pendingStatus : Nat := 428

/-- Asks about a login that was begun. A refusal other than that nobody has decided yet is a denial,
and not a fault of the call. -/
def Client.pollDeviceToken (c : Client) (deviceCode : String) : Call Verdict := do
  let r ← c.send .post ["api", "auth", "device_token"]
    (some (.object [("device_code", .text deviceCode)]))
  if r.status == 200 then
    match Json.decode grantedTokenReader r.body with
    | some token => return .approved token
    | none => throw (.unreadable "device token")
  else if r.status == pendingStatus then return .pending
  else return .denied (← refused r)

end SandboxClient.Remote
