/-
  SandboxClient/Json/Fields.lean
  ==============================
  **Reading what a document means.** A reader takes from a document what it asks
  for: a text, a number in some range, a structure with named fields. Fields
  that nobody asks for may hold anything. A structure may also be written as a
  list of its fields in their order.
-/
import SandboxClient.Json.Scalar
import SandboxClient.Json.Tree
import SandboxClient.Json.Written

namespace SandboxClient.Json

open SandboxClient.Number

/-- What takes something from a document, if the document holds it. -/
abbrev Reader (α : Type) := Tree → Option α

namespace Reader

/-! ### Scalars

Readers of single values, each of which fails on all others. -/

def text : Reader String
  | .text s => textOfParts s
  | _ => none

def flag : Reader Bool
  | .flag b => some b
  | _ => none

/-- A natural number below a limit. -/
def natural (limit : Nat) : Reader Nat
  | .number n =>
    match quantityOfNumber n with
    | some (.natural k) => if k < limit then some k else none
    | _ => none
  | _ => none

/-- An integer of 64 bits with sign. -/
def integer : Reader Int
  | .number n =>
    match quantityOfNumber n with
    | some (.natural k) => if k < Nat.pow 2 63 then some k else none
    | some (.negative k) => some k
    | _ => none
  | _ => none

def real : Reader Binary64
  | .number n =>
    match quantityOfNumber n with
    | some (.natural k) => Binary64.ofNat k
    | some (.negative k) => (Binary64.ofNat k.natAbs).map Binary64.neg
    | some (.real x) => some x
    | none => none
  | _ => none

/-- Something that may be null instead. -/
def nullable {α : Type} (r : Reader α) : Reader (Option α)
  | .null => some none
  | t => (r t).map some

/-- A list. -/
def list {α : Type} (r : Reader α) : Reader (List α)
  | .list items => items.mapM r
  | _ => none

/-! ### Structures

A structure may be written as an object or as a list of its fields. -/

abbrev Fields := List (String × Tree)

/-- The fields with the given names, of which none may be there twice. -/
def fields (names : List String) : Reader Fields
  | .object members => do
    let all ← members.mapM (fun m => do return (← textOfParts m.1, m.2))
    let known := all.filter (fun m => names.contains m.1)
    if (known.map Prod.fst).Nodup then return known else none
  | .list items => if items.length ≤ names.length then some (names.zip items) else none
  | _ => none

def required {α : Type} (fs : Fields) (name : String) (r : Reader α) : Option α := do
  r (← fs.lookup name)

/-- A field that has a value also when it is not there. -/
def withDefault {α : Type} (fs : Fields) (name : String) (r : Reader α) (default : α) :
    Option α :=
  match fs.lookup name with
  | some t => r t
  | none => some default

end Reader

/-! ### Whole documents

Documents of any form are kept as values, their members sorted by name. -/

def depthLimit : Nat := 128

/-- Puts a member into members that are sorted by name, in the place of one with the same
name. -/
def insertMember (name : String) (v : Value) : List (String × Value) → List (String × Value)
  | [] => [(name, v)]
  | m :: ms =>
    if name < m.1 then (name, v) :: m :: ms
    else if name = m.1 then (name, v) :: ms
    else m :: insertMember name v ms

def sortMembers (ms : List (String × Value)) : List (String × Value) :=
  ms.foldl (fun done m => insertMember m.1 m.2 done) []

def Quantity.value : Quantity → Value
  | .natural n => .integer n
  | .negative n => .integer n
  | .real x => .real x

mutual

/-- The value of a document that is less deep than `room`. -/
def Value.ofTree (room : Nat) : Tree → Option Value
  | .null => some .null
  | .flag b => some (.flag b)
  | .number n => (quantityOfNumber n).map Quantity.value
  | .text s => (textOfParts s).map .text
  | .list items => if room ≤ 1 then none else (valuesOfTrees (room - 1) items).map .list
  | .object members =>
    if room ≤ 1 then none
    else (membersOfTrees (room - 1) members).map (fun ms => .object (sortMembers ms))

def valuesOfTrees (room : Nat) : List Tree → Option (List Value)
  | [] => some []
  | t :: ts => do
    let v ← Value.ofTree room t
    return v :: (← valuesOfTrees room ts)

def membersOfTrees (room : Nat) :
    List (List StringPart × Tree) → Option (List (String × Value))
  | [] => some []
  | (name, t) :: ms => do
    let name ← textOfParts name
    let v ← Value.ofTree room t
    return (name, v) :: (← membersOfTrees room ms)

end

def Reader.value : Reader Value := Value.ofTree depthLimit

/-- What a reader takes from octets. -/
def decode {α : Type} (r : Reader α) (s : List UInt8) : Option α := do r (← Tree.read s)

end SandboxClient.Json
