/-
  SandboxClient/Yaml/Node.lean
  ============================
  **Documents as values.** Scalars have their meaning, references are replaced
  by the nodes they refer to, and no mapping has the same key twice. `read` is
  the whole way from text to value.
-/
import SandboxClient.Yaml.Tree
import SandboxClient.Yaml.Scalar

namespace SandboxClient.Yaml

/-! ### Values

What a document is once references are followed and plain scalars are understood. -/

inductive Node
  | null
  | bool (b : Bool)
  | integer (n : Int)
  | real (x : Real)
  | text (s : String)
  | sequence (items : List Node)
  | mapping (entries : List (Node × Node))
  /-- A value under a tag of the document's own. -/
  | tagged (tag : String) (value : Node)
  deriving Repr

mutual

/-- Whether two values count as the same key. The order of a mapping's entries does not
matter. -/
def Node.same : Node → Node → Bool
  | .null, .null => true
  | .bool a, .bool b => a == b
  | .integer a, .integer b => a == b
  | .real a, .real b => a.same b
  | .text a, .text b => a == b
  | .sequence as, .sequence bs => sameItems as bs
  | .mapping as, .mapping bs => as.length == bs.length && sameEntries as bs
  | .tagged s a, .tagged t b => s == t && a.same b
  | _, _ => false

/-- Whether two lists hold the same values in the same order. -/
def sameItems : List Node → List Node → Bool
  | [], [] => true
  | a :: as, b :: bs => a.same b && sameItems as bs
  | _, _ => false

/-- Whether every entry of the first list has its like in the second. -/
def sameEntries : List (Node × Node) → List (Node × Node) → Bool
  | [], _ => true
  | (k, v) :: as, bs => bs.any (fun b => k.same b.1 && v.same b.2) && sameEntries as bs

end

/-- The value under the tags of a node. -/
def Node.untagged : Node → Node
  | .tagged _ v => v.untagged
  | v => v

/-- The value of the entry whose key is the given text. -/
def lookupField (key : String) (entries : List (Node × Node)) : Option Node :=
  (entries.find? (fun e => e.1.same (.text key))).map Prod.snd

/-! ### Anchors

An anchor's name is bound to a number when its node is met, and a reference is
bound to the number that its name has at that point. The number is the count of
distinct names so far; what it stands for is the node bound to it last. -/

/-- A node whose references are numbers. -/
inductive Linked
  | reference (number : Nat)
  | scalar (tag : Option String) (text : String) (plain : Bool)
  | sequence (tag : Option String) (items : List Linked)
  | mapping (tag : Option String) (entries : List (Linked × Linked))
  deriving Repr

/-- The names bound so far and the nodes met so far. -/
structure Anchors where
  names : List (String × Nat)
  /-- For each number, the position of its node among the nodes that carry an anchor. -/
  homes : List (Nat × Nat)
  /-- The nodes that carry an anchor, by position. -/
  nodes : List (Nat × Linked)
  /-- How many nodes carry an anchor. -/
  count : Nat
  /-- How many events the document consists of: one for a scalar or a reference, two for
  a collection. -/
  events : Nat

/-- Binds the name of an anchor, if there is one, and gives the position of its node. -/
def Anchors.bind (a : Anchors) : Option String → Anchors × Option Nat
  | none => (a, none)
  | some name =>
    let number := a.names.length
    ({ a with
        names := (name, number) :: a.names.filter (fun e => e.1 != name)
        homes := (number, a.count) :: a.homes
        count := a.count + 1 }, some a.count)

/-- Records the node at a position. -/
def Anchors.record (a : Anchors) (position : Option Nat) (n : Linked) : Anchors :=
  match position with
  | some p => { a with nodes := (p, n) :: a.nodes }
  | none => a

/-- Counts events. -/
def Anchors.tally (a : Anchors) (n : Nat) : Anchors := { a with events := a.events + n }

mutual

/-- Replaces the names of references by numbers. -/
def Tree.link (a : Anchors) : Tree → Except Fault (Linked × Anchors)
  | .reference name =>
    match a.names.lookup name with
    | some n => .ok (.reference n, a.tally 1)
    | none => .error .unknownAnchor
  | .scalar p text plain =>
    let (a, position) := (a.tally 1).bind p.anchor
    let n := .scalar p.tag text plain
    .ok (n, a.record position n)
  | .sequence p items => do
    let (a, position) := (a.tally 2).bind p.anchor
    let (items, a) ← linkItems a items
    let n := .sequence p.tag items
    return (n, a.record position n)
  | .mapping p entries => do
    let (a, position) := (a.tally 2).bind p.anchor
    let (entries, a) ← linkEntries a entries
    let n := .mapping p.tag entries
    return (n, a.record position n)

/-- Links the items of a sequence in order. -/
def linkItems (a : Anchors) : List Tree → Except Fault (List Linked × Anchors)
  | [] => .ok ([], a)
  | t :: ts => do
    let (n, a) ← t.link a
    let (ns, a) ← linkItems a ts
    return (n :: ns, a)

/-- Links the keys and values of a mapping in order. -/
def linkEntries (a : Anchors) :
    List (Tree × Tree) → Except Fault (List (Linked × Linked) × Anchors)
  | [] => .ok ([], a)
  | (k, v) :: es => do
    let (k, a) ← k.link a
    let (v, a) ← v.link a
    let (es, a) ← linkEntries a es
    return ((k, v) :: es, a)

end

/-- The node that a number stands for. -/
def Anchors.home (a : Anchors) (number : Nat) : Option Linked := do
  let position ← a.homes.lookup number
  a.nodes.lookup position

/-! ### From nodes to values

Plain scalars mean what the core schema says; quoted ones are always texts. -/

/-- The tag of the document's own that a resolved tag is, without its exclamation mark. -/
def localTag (tag : Option String) : Option String := do
  let t ← tag
  match t.toList with
  | ['!'] => some "!"
  | '!' :: r => some (String.ofList r)
  | _ => none

def plainValue (s : String) : Except Fault Node :=
  match meaning s with
  | .null => .ok .null
  | .bool b => .ok (.bool b)
  | .integer n => .ok (.integer n)
  | .real x => .ok (.real x)
  | .wideInteger => .error .scalar
  | .text => .ok (.text s)

/-- The value of a scalar under a tag that is not the document's own: the tags of the core types
demand their type, every other one makes the scalar text. -/
def coreValue (tag : String) (s : String) : Except Fault Node :=
  if tag == coreTagStart ++ "bool" then
    match truth s with
    | some b => .ok (.bool b)
    | none => .error .scalar
  else if tag == coreTagStart ++ "int" then
    match integerMeaning s with
    | some (.integer n) => .ok (.integer n)
    | _ => .error .scalar
  else if tag == coreTagStart ++ "float" then
    match real s.toList with
    | some x => .ok (.real x)
    | none => .error .scalar
  else if tag == coreTagStart ++ "null" then
    if isNull s then .ok .null else .error .scalar
  else .ok (.text s)

def scalarValue (tag : Option String) (s : String) (plain : Bool) : Except Fault Node :=
  match localTag tag with
  | some t => do
    let v ← if plain then plainValue s else .ok (.text s)
    return .tagged t v
  | none =>
    match tag with
    | some t => coreValue t s
    | none => if plain then plainValue s else .ok (.text s)

/-- Puts a value under the document's own tag of a collection, if it has one. -/
def underTag (tag : Option String) (v : Node) : Node :=
  match localTag tag with
  | some t => .tagged t v
  | none => v

/-- How many collections may be inside each other. -/
def depthLimit : Nat := 128

/-- How many references may be followed for each event of the document. -/
def jumpsPerEvent : Nat := 100

/-- Adds an entry to a mapping that does not have its key yet. -/
def addEntry (entries : List (Node × Node)) (k v : Node) : Except Fault (List (Node × Node)) :=
  if entries.any (fun e => e.1.same k) then .error .duplicateKey else .ok ((k, v) :: entries)

/-- The value of a node, with as many collections inside each other as `depth` allows; the state
counts the references that have been followed. -/
def Linked.value (a : Anchors) (depth : Nat) (n : Linked) :
    StateT Nat (Except Fault) Node := do
  let target ←
    match n with
    | .reference number => do
      let jumps ← get
      set (jumps + 1)
      if jumps + 1 > a.events * jumpsPerEvent then throw .repetition
      match a.home number with
      | some t => pure t
      | none => throw .unknownAnchor
    | n => pure n
  match target, depth with
  | .scalar tag s plain, _ => liftM (scalarValue tag s plain)
  | .sequence tag items, d + 1 => do
    let items ← items.mapM (fun i => i.value a d)
    return underTag tag (.sequence items)
  | .mapping tag entries, d + 1 => do
    let entries ← entries.foldlM (fun done (k, v) => do
      let k ← k.value a d
      let v ← v.value a d
      liftM (addEntry done k v)) []
    return underTag tag (.mapping entries.reverse)
  | .reference _, _ => throw .unknownAnchor
  | _, 0 => throw .depth

/-- The value of a text that holds one document, or none, which is null. -/
def read (text : List Char) : Except Fault Node := do
  match ← readDocument (← tokens text) with
  | none => return .null
  | some tree =>
    let (linked, a) ← tree.link ⟨[], [], [], 0, 0⟩
    return (← (linked.value a depthLimit).run 0).1

end SandboxClient.Yaml
