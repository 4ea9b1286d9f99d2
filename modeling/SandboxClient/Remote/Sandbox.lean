/-
  SandboxClient/Remote/Sandbox.lean
  =================================
  **Sandboxes.** A server runs sandboxes; each has a number, a name and a status,
  and may be reached by ssh and by routes. What a server does not tell has
  a value of its own.
-/
import SandboxClient.Json.Fields
import SandboxClient.Terminal.Style
import SandboxClient.Time.Moment

namespace SandboxClient.Remote

open SandboxClient.Json (Reader)

/-! ### Limits

The bounds of the types in which numbers are held. What is beyond them makes the whole answer one
that does not fit. -/

def idLimit : Nat := Nat.pow 2 64

def portLimit : Nat := Nat.pow 2 16

def countLimit : Nat := Nat.pow 2 32

def momentReader : Reader Time.Moment := fun t => do Time.Moment.read (← Reader.text t)

/-! ### Status

The program's `SandboxStatus`: a status that is not known is kept as it is, so that a newer server
can be used. -/

inductive Status
  | pending | running | stopped | destroyed
  /-- The server says nothing. -/
  | unknown
  /-- The server says something else. -/
  | other (word : String)
  deriving DecidableEq, Repr

/-- The status that a word stands for, in whatever letters it is written. -/
def Status.ofWord (word : String) : Status :=
  match String.ofList (word.toList.map Char.toLower) with
  | "pending" => .pending
  | "running" => .running
  | "stopped" => .stopped
  | "destroyed" => .destroyed
  | "" => .unknown
  | _ => .other word

/-- A status in a document; null says nothing. -/
def Status.reader : Reader Status := fun t => do
  return Status.ofWord ((← Reader.nullable Reader.text t).getD "")

def Status.name : Status → String
  | .pending => "pending"
  | .running => "running"
  | .stopped => "stopped"
  | .destroyed => "destroyed"
  | .unknown => "unknown"
  | .other word => word

def Status.colour : Status → Terminal.Colour
  | .running => .green
  | .pending => .yellow
  | .stopped => .darkGrey
  | .destroyed => .red
  | .unknown | .other _ => .white

/-! ### Routes

A domain that leads to a port of a sandbox. -/

structure Route where
  domain : String
  port : Nat
  url : String
  deriving DecidableEq, Repr

def Route.reader : Reader Route := fun t => do
  let fs ← Reader.fields ["domain", "port", "url"] t
  return ⟨← Reader.required fs "domain" Reader.text,
    ← Reader.required fs "port" (Reader.natural portLimit),
    ← Reader.withDefault fs "url" Reader.text ""⟩

/-! ### Sandboxes

The program's `Sandbox` and `ConnectInfo`. A sandbox has a number and a name; everything else may be
missing. -/

structure Sandbox where
  id : Nat
  name : String
  status : Status
  image : String
  sshPort : Option Nat
  persistentVolume : Bool
  mountHome : Bool
  tailscale : Bool
  tailscaleIp : Option String
  /-- Whether it is to be removed when the session that made it ends. -/
  temporary : Bool
  routes : List Route
  createdAt : Option Time.Moment
  deriving DecidableEq, Repr

/-- The fields of a sandbox in a document. -/
def Sandbox.fieldNames : List String :=
  ["id", "name", "status", "image", "ssh_port", "persistent_volume", "mount_home", "tailscale",
   "tailscale_ip", "temporary", "routes", "created_at"]

def Sandbox.reader : Reader Sandbox := fun t => do
  let fs ← Reader.fields Sandbox.fieldNames t
  let flag := fun name => Reader.withDefault fs name Reader.flag false
  return {
    id := ← Reader.required fs "id" (Reader.natural idLimit)
    name := ← Reader.required fs "name" Reader.text
    status := ← Reader.withDefault fs "status" Status.reader .unknown
    image := ← Reader.withDefault fs "image" Reader.text ""
    sshPort := ← Reader.withDefault fs "ssh_port" (Reader.nullable (Reader.natural portLimit)) none
    persistentVolume := ← flag "persistent_volume"
    mountHome := ← flag "mount_home"
    tailscale := ← flag "tailscale"
    tailscaleIp := ← Reader.withDefault fs "tailscale_ip" (Reader.nullable Reader.text) none
    temporary := ← flag "temporary"
    routes := ← Reader.withDefault fs "routes" (Reader.list Route.reader) []
    createdAt := ← Reader.withDefault fs "created_at" (Reader.nullable momentReader) none }

structure ConnectInfo where
  host : String
  port : Nat
  user : String
  deriving DecidableEq, Repr

def ConnectInfo.reader : Reader ConnectInfo := fun t => do
  let fs ← Reader.fields ["host", "port", "user"] t
  return ⟨← Reader.required fs "host" Reader.text,
    ← Reader.required fs "port" (Reader.natural portLimit),
    ← Reader.required fs "user" Reader.text⟩

end SandboxClient.Remote
