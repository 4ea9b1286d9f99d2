/-
  SandboxClient/Server/Alias.lean
  ===============================
  **Aliases that nobody had to think of.** A login without an alias gets one from
  the address of its server: a word for this machine, the number of another
  machine that has no name, and otherwise the first label of the name. An alias
  that is taken by another server gets a number behind it.
-/
import SandboxClient.Server.Config
import SandboxClient.Url.Reader

namespace SandboxClient.Server

open SandboxClient.Url (Host)

/-! ### Aliases of hosts

The cases are those of `derive_alias`: this machine under any of its names, a machine known by its
number alone, and one with a name. -/

def loopbackAlias : String := "local"

def loopbackName : List Char := "localhost".toList

def aliasOfV4 (n : Nat) : String :=
  if n / Nat.pow 256 3 == 127 then loopbackAlias else String.ofList (Url.V4.write n)

def aliasOfV6 (pieces : List Nat) : String :=
  if pieces == [0, 0, 0, 0, 0, 0, 0, 1] then loopbackAlias
  else String.ofList (Url.V6.display pieces)

/-- The first label of a name in small letters, unless it is empty. -/
def firstLabel (s : List Char) : Option String :=
  let label := s.takeWhile (· != '.')
  if label.isEmpty then none else some (String.ofList (label.map Char.toLower))

def aliasOfHost : Host → Option String
  | .v4 n => some (aliasOfV4 n)
  | .v6 ps => some (aliasOfV6 ps)
  | .name s =>
    if s.map Char.toLower == loopbackName then some loopbackAlias
    else match Url.V4.readQuad s with
      | some n => some (aliasOfV4 n)
      | none => firstLabel s

/-- The alias that the address of a server gives (`derive_alias`); none for what is no address or
names no host. -/
def deriveAlias (url : String) : Option String :=
  match Url.parse url with
  | .ok u => u.host.bind aliasOfHost
  | .error _ => none

/-! ### Choosing

The program's `choose_alias` tries `base`, `base-2`, `base-3` and so on until one is free. Here the
numbers are bounded; that they are enough is proved with the other facts on derived aliases. -/

def numbered (base : String) (n : Nat) : String := base ++ "-" ++ toString n

def Config.hasAlias (c : Config) (name : String) : Bool := c.servers.any (fun e => e.name == name)

/-- The first alias in the row that no entry has. One more number than there are entries is enough
to find one. -/
def Config.freeAlias (c : Config) (base : String) : String :=
  if !c.hasAlias base then base
  else
    -- the first alias counts as the one with the number 1
    let candidates := (List.range (c.servers.length + 1)).map (fun n => numbered base (n + 2))
    (candidates.find? (fun a => !c.hasAlias a)).getD base

/-- The alias for a login (`choose_alias`): the one that was given, else the one that the address
has already, else one that is derived from the address and free. -/
def Config.chooseAlias (c : Config) (url : String) (given : Option String) : String :=
  match (given.map Text.trimmed).filter (fun a => !a.isEmpty) with
  | some a => a
  | none =>
    let url := normalizeUrl url
    match c.servers.find? (fun e => e.server == url && !e.name.isEmpty) with
    | some e => e.name
    | none =>
      match deriveAlias url with
      | some base => c.freeAlias base
      | none => ""

end SandboxClient.Server
