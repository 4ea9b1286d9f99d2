/-
  SandboxClient/Json/Tree.lean
  ============================
  **Documents as trees.** A document is one value; lists and objects hold others.
  The tokens are read one after the other by a machine that keeps the lists and
  objects that are still open.
-/
import SandboxClient.Json.Token

namespace SandboxClient.Json

/-- A document whose numbers and strings are as they are written. -/
inductive Tree
  | null
  | flag (b : Bool)
  | number (n : NumberText)
  | text (s : List StringPart)
  | list (items : List Tree)
  | object (members : List (List StringPart × Tree))
  deriving Repr

namespace Tree

/-! ### The machine

Tokens are taken one by one, with the lists and objects that are open on a stack. -/

/-- A list or object that a value is being read for. -/
inductive Open
  /-- A list with the items so far, last first. -/
  | list (items : List Tree)
  /-- An object with the members so far, last first, and the name of the next one. -/
  | object (members : List (List StringPart × Tree)) (name : List StringPart)
  deriving Repr

/-- What the machine waits for. -/
inductive State
  | value (outer : List Open)
  | firstItem (outer : List Open)
  | afterItem (items : List Tree) (outer : List Open)
  | firstName (outer : List Open)
  | name (members : List (List StringPart × Tree)) (outer : List Open)
  | colon (members : List (List StringPart × Tree)) (name : List StringPart) (outer : List Open)
  | afterMember (members : List (List StringPart × Tree)) (outer : List Open)
  | finished (t : Tree)
  deriving Repr

/-- Puts a value where it belongs. -/
def put (t : Tree) : List Open → State
  | [] => .finished t
  | .list items :: outer => .afterItem (t :: items) outer
  | .object members name :: outer => .afterMember ((name, t) :: members) outer

def beginValue (outer : List Open) : Token → Option State
  | .null => some (put .null outer)
  | .flag b => some (put (.flag b) outer)
  | .number n => some (put (.number n) outer)
  | .text s => some (put (.text s) outer)
  | .openBracket => some (.firstItem outer)
  | .openBrace => some (.firstName outer)
  | _ => none

def step : State → Token → Option State
  | .value outer, t => beginValue outer t
  | .firstItem outer, .closeBracket => some (put (.list []) outer)
  | .firstItem outer, t => beginValue (.list [] :: outer) t
  | .afterItem items outer, .comma => some (.value (.list items :: outer))
  | .afterItem items outer, .closeBracket => some (put (.list items.reverse) outer)
  | .firstName outer, .closeBrace => some (put (.object []) outer)
  | .firstName outer, .text s => some (.colon [] s outer)
  | .name members outer, .text s => some (.colon members s outer)
  | .colon members name outer, .colon => some (.value (.object members name :: outer))
  | .afterMember members outer, .comma => some (.name members outer)
  | .afterMember members outer, .closeBrace => some (put (.object members.reverse) outer)
  | _, _ => none

def ofTokens (ts : List Token) : Option Tree := do
  match ← ts.foldlM step (.value []) with
  | .finished t => return t
  | _ => none

def read (s : List UInt8) : Option Tree := do ofTokens (← tokens s)

end Tree

end SandboxClient.Json
