/-
  SandboxClient/Server/Layout.lean
  ================================
  **The layouts of the configuration file.** There are three: a list of
  entries, which is what is written today; a mapping from aliases to servers;
  and a single server. The layout of a document is decided by the shape of its
  `servers` and `server` fields alone, newest layout first, and only then are
  the fields read. Whatever the layout, aliases and addresses must be distinct.

  `Config.text` is the only way a store is written, always in today's layout.
-/
import SandboxClient.Server.Config
import SandboxClient.Text.Quoted
import SandboxClient.Yaml.Written

namespace SandboxClient.Server

open SandboxClient.Yaml (Node Block lookupField)

/-! ### Faults

Why the program's `parse` does not accept the text of a file. -/

inductive LayoutFault
  /-- It is no document, or its fields have the wrong types. The library that reads documents has a
  text for each way and place in which this happens; they are not modelled, and one message stands
  for all of them. -/
  | unreadable
  /-- It is a document of none of the three shapes. -/
  | unrecognized
  | duplicateAlias (name : String)
  | duplicateServer (url : String)
  deriving DecidableEq, Repr

def LayoutFault.message : LayoutFault → String
  | .unreadable => "not a configuration document"
  | .unrecognized => "unrecognized config layout"
  | .duplicateAlias name => "duplicate server alias " ++ Text.quoted name
  | .duplicateServer url => "duplicate server URL " ++ Text.quoted url

/-! ### Detection

The program's `detect`: the shape of the document alone decides, before any field is read
(`matches`). -/

inductive Layout
  /-- A list of entries. -/
  | current
  /-- A mapping from aliases to servers. -/
  | serverMap
  /-- A single server. -/
  | flat
  deriving DecidableEq, Repr

/-- The text that a value is, whatever its tags. -/
def textOf (n : Node) : Option String :=
  match n.untagged with
  | .text s => some s
  | _ => none

/-- Whether a document has the shape of a layout. -/
def Layout.fits (l : Layout) : Node → Bool
  | .null => l == .current
  | .mapping entries =>
    let servers := lookupField "servers" entries
    let server := lookupField "server" entries
    match l with
    | .current =>
      match servers with
      | some (.sequence _) => true
      | some .null => true
      | some _ => false
      | none => server.isNone
    | .serverMap =>
      match servers with
      | some (.mapping _) => true
      | _ => false
    | .flat => servers.isNone && server.any (fun v => (textOf v).isSome)
  | _ => false

/-- The layout of a document, newest first. No document has two. -/
def Layout.detect (n : Node) : Option Layout :=
  [Layout.current, .serverMap, .flat].find? (fun l => l.fits n)

/-! ### Fields

What reading a structure does with its fields: unknown ones are passed over, known ones may occur
once, and some have a value when they are missing. -/

/-- The fields of a mapping that have one of the known names. Keys must be texts. -/
def knownFields (known : List String) (n : Node) : Option (List (String × Node)) :=
  match n.untagged with
  | .mapping entries => do
    let named ← entries.mapM (fun e => do return (← textOf e.1, e.2))
    let mine := named.filter (fun f => known.contains f.1)
    if known.any (fun k => mine.countP (fun f => f.1 == k) > 1) then none else some mine
  | _ => none

def requiredText (fields : List (String × Node)) (name : String) : Option String := do
  textOf (← fields.lookup name)

/-- A field that is a text, or empty when it is missing. -/
def textOrEmpty (fields : List (String × Node)) (name : String) : Option String :=
  match fields.lookup name with
  | some v => textOf v
  | none => some ""

/-- A field that is a text, or empty when it is missing or null. -/
def textOrNothing (fields : List (String × Node)) (name : String) : Option String :=
  match fields.lookup name with
  | some .null => some ""
  | some v => textOf v
  | none => some ""

/-- A field that is a truth value, or false when it is missing. -/
def flagOrFalse (fields : List (String × Node)) (name : String) : Option Bool :=
  match fields.lookup name with
  | some v =>
    match v.untagged with
    | .bool b => some b
    | _ => none
  | none => some false

/-! ### Today's layout

A list of entries. A list or a current key that is null counts as one that is not there. -/

def entryOf (n : Node) : Option Entry := do
  let fields ← knownFields ["alias", "server", "token", "insecure"] n
  return ⟨← textOrEmpty fields "alias", ← requiredText fields "server",
    ← textOrEmpty fields "token", ← flagOrFalse fields "insecure"⟩

/-- The items of a list; null counts as an empty one. -/
def itemsOf (n : Node) : Option (List Node) :=
  match n.untagged with
  | .sequence items => some items
  | .null => some []
  | _ => none

def dropNull (key : String) (entries : List (Node × Node)) : List (Node × Node) :=
  match lookupField key entries with
  | some v =>
    match v.untagged with
    | .null => entries.filter (fun e => !e.1.same (.text key))
    | _ => entries
  | none => entries

def readCurrent : Node → Option Config
  | .mapping entries => do
    -- what is null is no text and no list, so it would not be read below
    let entries := dropNull "servers" (dropNull "current_server" entries)
    let fields ← knownFields ["current_server", "servers"] (.mapping entries)
    let key ← textOrEmpty fields "current_server"
    let items ← match fields.lookup "servers" with
      | some v => itemsOf v
      | none => some []
    return ⟨key, ← items.mapM entryOf⟩
  | _ => some Config.empty

/-! ### The mapping of aliases

The layout before: a mapping from aliases to servers, read in the order of the aliases. Of several
aliases of one address the first is kept. -/

structure MappedServer where
  url : String
  token : String
  insecure : Bool
  deriving DecidableEq, Repr

def mappedServerOf (n : Node) : Option MappedServer := do
  let fields ← knownFields ["url", "token", "insecure"] n
  return ⟨← requiredText fields "url", ← textOrNothing fields "token",
    ← flagOrFalse fields "insecure"⟩

/-- Puts a value into a list sorted by key, in the place of one with the same key. -/
def insertSorted {α : Type} (k : String) (v : α) : List (String × α) → List (String × α)
  | [] => [(k, v)]
  | e :: es =>
    if k < e.1 then (k, v) :: e :: es
    else if k = e.1 then (k, v) :: es
    else e :: insertSorted k v es

def mappedServers (n : Node) : Option (List (String × MappedServer)) :=
  match n.untagged with
  | .mapping entries => do
    let servers ← entries.mapM (fun e => do return (← textOf e.1, ← mappedServerOf e.2))
    return servers.foldl (fun done e => insertSorted e.1 e.2 done) []
  | _ => none

/-- Adds a mapped server to a store unless its address is there already. When the current key
named a server that is not added, it names the one with the same address instead. -/
def adopt (c : Config) (name : String) (m : MappedServer) : Config :=
  let url := normalizeUrl m.url
  match c.servers.find? (fun e => e.server == url) with
  -- an entry that is left out takes its token with it
  | some kept => if c.currentKey == name then { c with currentKey := kept.key } else c
  | none => { c with servers := c.servers ++ [⟨name, url, m.token, m.insecure⟩] }

def ofMapped (key : String) (servers : List (String × MappedServer)) : Config :=
  servers.foldl (fun c e => adopt c e.1 e.2) ⟨key, []⟩

def readServerMap (n : Node) : Option Config := do
  let fields ← knownFields ["current_server", "servers"] n
  let key ← textOrNothing fields "current_server"
  return ofMapped key (← mappedServers (← fields.lookup "servers"))

/-! ### The single server

The oldest layout: one server and one token. -/

/-- The store that a single server stands for; without an address there is none. -/
def ofSingle (server token : String) : Config :=
  let url := normalizeUrl server
  if url.isEmpty then Config.empty else ⟨url, [⟨"", url, token, false⟩]⟩

def readFlat (n : Node) : Option Config := do
  let fields ← knownFields ["server", "token"] n
  return ofSingle (← requiredText fields "server") (← textOrNothing fields "token")

/-! ### Reading

The program's `parse` and `check_unique`. Entries are compared by their normalised addresses here,
although a file may have others. -/

def Layout.convert (l : Layout) (n : Node) : Option Config :=
  match l with
  | .current => readCurrent n
  | .serverMap => readServerMap n
  | .flat => readFlat n

/-- The first alias or address in a list of entries that one of `earlier`, or one before it in the
list, has. -/
def firstDuplicate (earlier : List Entry) : List Entry → Option LayoutFault
  | [] => none
  | e :: es =>
    let url := normalizeUrl e.server
    if !e.name.isEmpty && earlier.any (fun s => s.name == e.name) then
      some (.duplicateAlias e.name)
    else if earlier.any (fun s => normalizeUrl s.server == url) then some (.duplicateServer url)
    else firstDuplicate (earlier ++ [e]) es

def checkUnique (c : Config) : Except LayoutFault Config :=
  match firstDuplicate [] c.servers with
  | some fault => .error fault
  | none => .ok c

def ofDocument (n : Node) : Except LayoutFault (Config × Layout) :=
  match Layout.detect n with
  | none => .error .unrecognized
  | some l =>
    match l.convert n with
    | none => .error .unreadable
    | some c => (checkUnique c).map (·, l)

/-- The store in the text of a file, and the layout it is in. A blank text is an empty store. -/
def parse (text : String) : Except LayoutFault (Config × Layout) :=
  if Text.isBlankText text then .ok (Config.empty, .current)
  else match Yaml.read text.toList with
    | .error _ => .error .unreadable -- whatever the fault of the reader
    | .ok n => ofDocument n

/-! ### Writing

Only today's layout is written. Fields that have their default are left out. -/

def textField (name s : String) : List (String × Block) :=
  if s.isEmpty then [] else [(name, .text s)]

def Entry.block (e : Entry) : Block :=
  .fields (textField "alias" e.name ++ [("server", .text e.server)] ++
    textField "token" e.token ++ (if e.insecure then [("insecure", .flag true)] else []))

def Config.block (c : Config) : Block :=
  .fields (textField "current_server" c.currentKey ++
    (if c.servers.isEmpty then [] else [("servers", .items (c.servers.map Entry.block))]))

def Config.text (c : Config) : String := c.block.write

end SandboxClient.Server
