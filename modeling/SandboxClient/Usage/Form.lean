/-
  SandboxClient/Usage/Form.lean
  =============================
  **Forms of command lines.** A form says which options and words a command takes
  and which commands are below it. A command without commands below it is built
  from what was found for its options and words.
-/
import SandboxClient.Usage.Command

namespace SandboxClient.Usage

/-! ### Options and words

What a command takes is data, so that one reader serves all commands. -/

inductive Effect
  /-- It says yes. -/
  | flag
  /-- It takes a value. -/
  | value
  /-- It takes a value, or stands for one without it. -/
  | optionalValue (standing : String)
  /-- It asks for help. -/
  | help
  /-- It asks for the version. -/
  | version
  deriving DecidableEq, Repr

/-- An option. Its long name is also the name under which it is found. -/
structure OptionForm where
  long : String
  short : Option Char
  effect : Effect
  /-- The environment variable that stands in for it. -/
  standsIn : Option String
  deriving DecidableEq, Repr

/-- Whether an option takes a value. -/
def OptionForm.takesValue (o : OptionForm) : Bool :=
  match o.effect with
  | .value | .optionalValue _ => true
  | _ => false

/-- What a word may be. -/
inductive WordKind
  | text
  /-- A number below a limit. -/
  | number (limit : Nat)
  /-- One of a few words. -/
  | choice (words : List String)
  deriving DecidableEq, Repr

structure WordForm where
  name : String
  kind : WordKind
  required : Bool
  /-- Whether it takes all that follows, options and all. -/
  takesRest : Bool
  deriving DecidableEq, Repr

/-! ### What is found

Values by name, in the order in which they were given. A flag of the environment is a word too, and
some words mean no. -/

/-- The values that were found, by name. -/
abbrev Found := List (String × List String)

def Found.value? (f : Found) (name : String) : Option String := do
  (← f.lookup name).head?

def Found.value (f : Found) (name : String) : String := (f.value? name).getD ""

def Found.values (f : Found) (name : String) : List String := (f.lookup name).getD []

def falseWords : List String := ["n", "no", "f", "false", "off", "0"]

/-- Whether a word means yes: every word does but those that mean no, and the empty one. -/
def saysYes (word : String) : Bool :=
  !word.isEmpty && !falseWords.contains (String.ofList (word.toList.map Char.toLower))

/-- Whether a name has a value that means yes. -/
def Found.flag (f : Found) (name : String) : Bool := (f.value? name).any saysYes

/-! ### Numbers

Numbers are read in decimal, in the range of what they are for. -/

/-- The number that decimal digits write, a plus sign being allowed in front. -/
def readNumber (word : String) : Option Nat :=
  let digits := match word.toList with
    | '+' :: r => r
    | s => s
  if digits.isEmpty || !digits.all Char.isDigit then none
  else some (digits.foldl (fun n c => n * 10 + (c.toNat - '0'.toNat)) 0)

def Found.number (f : Found) (name : String) (otherwise : Nat) : Nat :=
  ((f.value? name).bind readNumber).getD otherwise

/-- What is wrong with a word of a kind, if anything is. -/
def WordKind.refusal? (k : WordKind) (word : String) : Option Refusal :=
  match k with
  | .text => none
  | .number limit =>
    match readNumber word with
    | some n => if n < limit then none else some .invalidNumber
    | none => some .invalidNumber
  | .choice words => if words.contains word then none else some .invalidValue

/-! ### Forms

The form of a command is a single command or a group of commands. -/

inductive Form
  | single (options : List OptionForm) (words : List WordForm) (build : Found → Command)
  /-- Commands by their names, of which each may have several. -/
  | group (commands : List (List String × Form))

end SandboxClient.Usage
