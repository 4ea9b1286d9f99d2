/-
  SandboxClient/Session/Named.lean
  ================================
  **Finding what is named.** Servers know sandboxes by number and users know them by
  name, so names are looked up in the list of sandboxes that a server tells. The
  words of a command to run in a sandbox may begin with the name of one.
-/
import SandboxClient.Remote.Sandbox
import SandboxClient.Session.Words
import SandboxClient.Text.Quoted

namespace SandboxClient.Session

open SandboxClient.Remote (Sandbox)

/-! ### Faults

Why words lead to no sandbox, or to none that is told what to do. -/

inductive WordFault
  | notFound (name : String)
  /-- No name is given, and the marker tells none. -/
  | noName
  | noWords
  /-- The first word is no name, and the marker tells none. -/
  | noneMeant (first : String)
  | noCommand (name : String)
  deriving DecidableEq, Repr

def WordFault.message : WordFault → String
  | .notFound name => "sandbox " ++ Text.quoted name ++ " not found"
  | .noName => "specify a sandbox name or set one with: sandcastle use <name>"
  | .noWords => "specify a sandbox and a command: sandcastle exec <name> -- <command...>"
  | .noneMeant first =>
    "sandbox " ++ Text.quoted first ++ " not found and no active sandbox set"
  | .noCommand name => "no command given for sandbox " ++ Text.quoted name

/-! ### Names

The program's `find_in`. Names are compared as they are; of several sandboxes of a name the first
counts. -/

def findNamed (known : List Sandbox) (name : String) : Except WordFault Sandbox :=
  match known.find? (fun s => s.name == name) with
  | some s => .ok s
  | none => .error (.notFound name)

/-! ### Commands for a sandbox

The program's `split_exec_args`. Whether the first word is a name depends on which sandboxes there
are. -/

structure Errand where
  name : String
  command : String
  deriving DecidableEq, Repr

def separator : String := "--"

/-- The sandbox that words mean, and the words that are left for the command. The first word is
a name if a sandbox has it; otherwise all words are left, for the active sandbox. -/
def errandSandbox (words : List String) (known : List String) (active : Option String) :
    Except WordFault (String × List String) :=
  match words with
  | [] => .error .noWords
  | first :: rest =>
    if known.contains first then .ok (first, rest)
    else match active with
      | some name => .ok (name, words)
      | none => .error (.noneMeant first)

/-- The errand that words tell. All separators in front of the command are dropped. -/
def readErrand (words : List String) (known : List String) (active : Option String) :
    Except WordFault Errand := do
  let (name, said) ← errandSandbox words known active
  let command := said.dropWhile (· == separator)
  if command.isEmpty then throw (.noCommand name)
  else return ⟨name, " ".intercalate command⟩

end SandboxClient.Session
