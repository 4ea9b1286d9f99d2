/-
  SandboxClient/Server/Config.lean
  ================================
  **The store of servers.** A store is a list of entries and the key of the
  current one. Keys are looked up as aliases first and as addresses second, and
  of several entries that fit the first counts. The operations return the
  changed store or say why there is none; nothing is ever changed in part.
-/
import SandboxClient.Server.Entry

namespace SandboxClient.Server

/-- The store: entries in the order in which they were added, and the key of the current one. -/
structure Config where
  /-- The key of the current entry; empty when there is none. -/
  currentKey : String
  servers : List Entry
  deriving DecidableEq, Repr

namespace Config

def empty : Config := ⟨"", []⟩

/-! ### Looking up

The program's `position`, `find_server`, `current` and `is_current`. A key that is an alias of one
entry and the address of another names the first of the two kinds. -/

def position? (c : Config) (key : String) : Option Nat :=
  (c.servers.findIdx? (fun e => e.isNamed key)).orElse
    (fun _ => c.servers.findIdx? (fun e => e.server == key))

def find? (c : Config) (key : String) : Option Entry := do
  c.servers[← c.position? key]?

/-- The current entry; a key that names none counts as no key. -/
def current? (c : Config) : Option Entry :=
  if c.currentKey.isEmpty then none else c.find? c.currentKey

def isCurrent (c : Config) (e : Entry) : Bool :=
  match c.current? with
  | some cur => cur.server == e.server
  | none => false

/-! ### Changing

The program's `add_server`, `remove_server` and `use_server`. -/

inductive Conflict
  | nameTaken (name : String)
  | serverKnown (server : String)
  | notFound (key : String)
  deriving DecidableEq, Repr

/-- Adds an entry at the end. The first entry of a store becomes the current one. -/
def add (c : Config) (e : Entry) : Except Conflict Config :=
  let e := { e with server := normalizeUrl e.server }
  if !e.name.isEmpty && c.servers.any (fun s => s.name == e.name) then
    .error (.nameTaken e.name)
  else if c.servers.any (fun s => s.server == e.server) then .error (.serverKnown e.server)
  else .ok
    { currentKey := if c.servers.isEmpty then e.key else c.currentKey
      servers := c.servers ++ [e] }

/-- Removes the entry that a key names. When it was the current one, none is current after. -/
def remove (c : Config) (key : String) : Except Conflict (Config × Entry) :=
  match c.position? key with
  | none => .error (.notFound key)
  | some i =>
    match c.servers[i]? with
    | none => .error (.notFound key)
    | some e =>
      .ok ({ currentKey := if c.isCurrent e then "" else c.currentKey
             servers := c.servers.eraseIdx i }, e)

def use (c : Config) (key : String) : Except Conflict (Config × Entry) :=
  match c.find? key with
  | none => .error (.notFound key)
  | some e => .ok ({ c with currentKey := e.key }, e)

/-! ### Storing a login

The program's `set_server` in its parts: where the login goes, what the entry is afterwards, and
which others have to go. -/

/-- The position of the entry that a login goes to: the one with the alias, else the one with the
normalised address. -/
def target? (c : Config) (name url : String) : Option Nat :=
  -- without the first test every entry without an alias would be meant
  (if name.isEmpty then none else c.servers.findIdx? (fun e => e.name == name)).orElse
    (fun _ => c.servers.findIdx? (fun e => e.server == url))

/-- An entry after a login. Trust in a certificate belongs to the address it was given for. -/
def updated (e : Entry) (name url token : String) : Entry :=
  { name := if name.isEmpty then e.name else name
    server := url
    token := token
    insecure := e.insecure && e.server == url }

/-- Whether an entry may stay beside one that has just been stored: it has another address and
another alias. -/
def staysBeside (kept e : Entry) : Bool :=
  e.server != kept.server && (kept.name.isEmpty || e.name != kept.name)

/-- What storing a login gives: the store, and the position of the stored entry in it. -/
structure Stored where
  config : Config
  position : Nat
  deriving Repr

/-- Stores a login: updates the entry for the alias, or for the address when no alias is given
or none fits, or adds one; drops the entries that would then share its alias or address; and
makes it the current one. -/
def store (c : Config) (name url token : String) : Stored :=
  let url := normalizeUrl url
  let fresh : Entry := ⟨name, url, token, false⟩
  let (entries, i) := match c.target? name url with
    | some i => (c.servers.modify i (fun e => updated e name url token), i)
    | none => (c.servers ++ [fresh], c.servers.length)
  let kept := (entries[i]?).getD fresh
  let before := entries.take i
  { config :=
      { currentKey := kept.key
        servers := before.filter (staysBeside kept) ++
          kept :: (entries.drop (i + 1)).filter (staysBeside kept) }
    -- those dropped before it move it up
    position := i - before.countP (fun e => !staysBeside kept e) }

def set (c : Config) (name url token : String) : Config := (c.store name url token).config

def setEntry? (c : Config) (name url token : String) : Option Entry :=
  let s := c.store name url token
  s.config.servers[s.position]?

end Config

end SandboxClient.Server
