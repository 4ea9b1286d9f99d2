/-
  SandboxClient/Url/Basic.lean
  ============================
  **Addresses of resources.** An address names a scheme and, in most schemes,
  a host, perhaps with a user and a port, and a path of segments. All parts are
  kept in the form in which they are sent, so that writing an address only puts
  them together.
-/
import SandboxClient.Url.Address

namespace SandboxClient.Url

/-! ### Parts

An address is kept in its parts, each in the form in which it is written. -/

inductive Host
  /-- A domain name, or in schemes that are not special any other name. -/
  | name (text : List Char)
  | v4 (number : Nat)
  | v6 (pieces : List Nat)
  deriving DecidableEq, Repr

def Host.text : Host → List Char
  | .name s => s
  | .v4 n => V4.write n
  | .v6 ps => ['['] ++ V6.write ps ++ [']']

/-- What stands after the host. -/
inductive Path
  /-- Text without structure. -/
  | plain (text : List Char)
  | segments (items : List (List Char))
  deriving DecidableEq, Repr

def Path.text : Path → List Char
  | .plain s => s
  | .segments items => items.flatMap (fun s => '/' :: s)

end Url

structure Url where
  scheme : List Char
  /-- Whether two slashes stand after the scheme. -/
  slashes : Bool
  username : List Char
  password : List Char
  host : Option Url.Host
  port : Option Nat
  path : Url.Path
  query : Option (List Char)
  fragment : Option (List Char)
  deriving DecidableEq, Repr

namespace Url

/-! ### Schemes

Special schemes have ports of their own and, local files excepted, always a host. -/

def fileScheme : List Char := ['f', 'i', 'l', 'e']

/-- The ports that special schemes have when none is given. -/
def defaultPort? (scheme : List Char) : Option Nat :=
  match String.ofList scheme with
  | "http" | "ws" => some 80
  | "https" | "wss" => some 443
  | "ftp" => some 21
  | _ => none

/-- Whether addresses of a scheme always have a host, or are local files. -/
def isSpecial (scheme : List Char) : Bool := (defaultPort? scheme).isSome || scheme == fileScheme

/-! ### Writing

The parts are put together again. -/

def userText (u : Url) : List Char :=
  if u.username.isEmpty && u.password.isEmpty then []
  else u.username ++ (if u.password.isEmpty then [] else ':' :: u.password) ++ ['@']

def portText (u : Url) : List Char :=
  match u.port with
  | some p => ':' :: digitsOf 10 p
  | none => []

def hostText (u : Url) : List Char :=
  match u.host with
  | some h => h.text
  | none => []

/-- Two slashes at the front of a path without a host would begin a host; a dot keeps them
apart. -/
def pathGuard (u : Url) : List Char :=
  match u.path with
  | .segments ([] :: _ :: _) => if u.slashes then [] else ['/', '.']
  | _ => []

/-- A part behind its mark. -/
def partText (mark : Char) : Option (List Char) → List Char
  | some s => mark :: s
  | none => []

/-- The characters of an address, with `user` for its user and `fragment` for its fragment. -/
def assemble (u : Url) (user fragment : List Char) : List Char :=
  u.scheme ++ [':'] ++ (if u.slashes then ['/', '/'] else []) ++ user ++ u.hostText ++
    u.portText ++ u.pathGuard ++ u.path.text ++ partText '?' u.query ++ fragment

/-- An address as it is written. -/
def text (u : Url) : String :=
  String.ofList (u.assemble u.userText (partText '#' u.fragment))

/-- An address as it is asked for: without user and fragment. -/
def requestText (u : Url) : String := String.ofList (u.assemble [] [])

/-- Whether a path can be put behind the address. -/
def hasSegments (u : Url) : Bool :=
  match u.path with
  | .segments _ => true
  | .plain _ => false

end Url

end SandboxClient
