/-
  SandboxClient/Remote/Resource.lean
  ==================================
  **What else a server has.** Snapshots of sandboxes, tokens for programs, and
  the state of its connection to a private network.
-/
import SandboxClient.Remote.Sandbox

namespace SandboxClient.Remote

open SandboxClient.Json (Reader)

/-! ### Snapshots

A snapshot has a name and an image; the server may tell which sandbox it was made from. -/

structure Snapshot where
  name : String
  image : String
  sandbox : Option String
  size : Nat
  createdAt : Option Time.Moment
  deriving DecidableEq, Repr

def Snapshot.reader : Reader Snapshot := fun t => do
  let fs ← Reader.fields ["name", "image", "sandbox", "size", "created_at"] t
  return {
    name := ← Reader.required fs "name" Reader.text
    image := ← Reader.withDefault fs "image" Reader.text ""
    sandbox := ← Reader.withDefault fs "sandbox" (Reader.nullable Reader.text) none
    size := ← Reader.withDefault fs "size" (Reader.natural idLimit) 0
    createdAt := ← Reader.withDefault fs "created_at" (Reader.nullable momentReader) none }

/-! ### Tokens

Of a token that it has issued the server tells the start, and when it was used. -/

structure Token where
  id : Nat
  name : String
  /-- The first characters of the token. -/
  start : String
  lastUsedAt : Option Time.Moment
  expiresAt : Option Time.Moment
  createdAt : Time.Moment
  deriving DecidableEq, Repr

def Token.reader : Reader Token := fun t => do
  let fs ← Reader.fields ["id", "name", "prefix", "last_used_at", "expires_at", "created_at"] t
  return {
    id := ← Reader.required fs "id" (Reader.natural idLimit)
    name := ← Reader.required fs "name" Reader.text
    start := ← Reader.withDefault fs "prefix" Reader.text ""
    lastUsedAt := ← Reader.withDefault fs "last_used_at" (Reader.nullable momentReader) none
    expiresAt := ← Reader.withDefault fs "expires_at" (Reader.nullable momentReader) none
    createdAt := ← Reader.required fs "created_at" momentReader }

/-! ### The private network

The connection of the server, and the sandboxes that take part in it. -/

structure TailscaleSandbox where
  name : String
  ip : Option String
  deriving DecidableEq, Repr

def TailscaleSandbox.reader : Reader TailscaleSandbox := fun t => do
  let fs ← Reader.fields ["name", "ip"] t
  return ⟨← Reader.required fs "name" Reader.text,
    ← Reader.withDefault fs "ip" (Reader.nullable Reader.text) none⟩

structure TailscaleStatus where
  running : Bool
  network : Option String
  tailscaleIp : Option String
  hostname : Option String
  tailnet : Option String
  connectedSandboxes : Nat
  sandboxes : List TailscaleSandbox
  deriving DecidableEq, Repr

def TailscaleStatus.reader : Reader TailscaleStatus := fun t => do
  let fs ← Reader.fields ["running", "network", "tailscale_ip", "hostname", "tailnet",
    "connected_sandboxes", "sandboxes"] t
  let word := fun name => Reader.withDefault fs name (Reader.nullable Reader.text) none
  return {
    running := ← Reader.withDefault fs "running" Reader.flag false
    network := ← word "network"
    tailscaleIp := ← word "tailscale_ip"
    hostname := ← word "hostname"
    tailnet := ← word "tailnet"
    connectedSandboxes :=
      ← Reader.withDefault fs "connected_sandboxes" (Reader.natural countLimit) 0
    sandboxes := ← Reader.withDefault fs "sandboxes" (Reader.list TailscaleSandbox.reader) [] }

/-! ### Logins

What a server tells when a login begins, when it grants a token, and when it refuses one. -/

structure DeviceSession where
  deviceCode : String
  userCode : String
  verificationUrl : String
  /-- How many seconds the codes are good for. -/
  expiresIn : Int
  /-- How many seconds to wait between questions. -/
  interval : Int
  deriving DecidableEq, Repr

def DeviceSession.reader : Reader DeviceSession := fun t => do
  let fs ← Reader.fields ["device_code", "user_code", "verification_url", "expires_in",
    "interval"] t
  return {
    deviceCode := ← Reader.required fs "device_code" Reader.text
    userCode := ← Reader.required fs "user_code" Reader.text
    verificationUrl := ← Reader.required fs "verification_url" Reader.text
    expiresIn := ← Reader.withDefault fs "expires_in" Reader.integer 0
    interval := ← Reader.withDefault fs "interval" Reader.integer 0 }

def grantedTokenReader : Reader String := fun t => do
  Reader.required (← Reader.fields ["token"] t) "token" Reader.text

def errorReader : Reader String := fun t => do
  Reader.required (← Reader.fields ["error"] t) "error" Reader.text

end SandboxClient.Remote
