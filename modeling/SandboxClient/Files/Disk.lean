/-
  SandboxClient/Files/Disk.lean
  =============================
  **A disk.** Directories and files stand at places, which are the names on the way
  from the root. A file that is open is known by its serial number, which stays
  with it when it is moved. Every call that changes a disk may meet trouble that
  the disk itself does not show, and an octet string may then be written in part.
-/
import SandboxClient.Files.Path

namespace SandboxClient.Files

/-! ### What stands on a disk

A disk is a finite map from places to what stands there, with a count of the calls made of it; which
call meets which trouble is a function of that count. -/

/-- The names on the way from the root. -/
abbrev Place := List String

inductive Item
  | directory (mode : Nat)
  | file (serial : Nat) (content : List UInt8) (mode : Nat)
  deriving DecidableEq, Repr

/-- A disk, as one program sees it. -/
structure Disk where
  items : List (Place × Item)
  /-- The working directory. -/
  here : Place
  /-- The serial number of the next file. -/
  nextSerial : Nat
  /-- How many calls there have been. -/
  calls : Nat
  /-- Whether a call meets trouble, and after how many octets. -/
  trouble : Nat → Option Nat

inductive DiskFault
  /-- Nothing is there. -/
  | missing
  /-- Something is there already. -/
  | occupied
  | notDirectory
  | isDirectory
  /-- There is trouble that the disk itself does not show. -/
  | trouble
  deriving DecidableEq, Repr

/-- A fault in the words of the operating system. -/
def DiskFault.message : DiskFault → String
  | .missing => "No such file or directory (os error 2)"
  | .occupied => "File exists (os error 17)"
  | .notDirectory => "Not a directory (os error 20)"
  | .isDirectory => "Is a directory (os error 21)"
  | .trouble => "Input/output error (os error 5)"

abbrev DiskCall (α : Type) := ExceptT DiskFault (StateM Disk) α

namespace Disk

/-- What stands at a place; at the root there is always a directory. -/
def item? (d : Disk) (p : Place) : Option Item :=
  if p.isEmpty then some (.directory 0o755) else d.items.lookup p

/-- The content of the file at a place, none for a directory. -/
def content? (d : Disk) (p : Place) : Option (List UInt8) :=
  match d.item? p with
  | some (.file _ content _) => some content
  | _ => none

def isDirectory (d : Disk) (p : Place) : Bool :=
  match d.item? p with
  | some (.directory _) => true
  | _ => false

def without (d : Disk) (p : Place) : Disk :=
  { d with items := d.items.filter (fun e => e.1 != p) }

/-- The disk with something at a place, where nothing or something else stood. -/
def put (d : Disk) (p : Place) (i : Item) : Disk :=
  { d with items := (d.without p).items ++ [(p, i)] }

/-- The disk after a change of the file of a serial number, wherever it stands. -/
def change (d : Disk) (serial : Nat) (f : List UInt8 → List UInt8) : Disk :=
  { d with items := d.items.map (fun e =>
      match e.2 with
      | .file n content mode => if n == serial then (e.1, .file n (f content) mode) else e
      | .directory _ => e) }

/-! ### Ways

A way is walked name by name, as the operating system does: what is gone through has to be there,
also where the next name leads back. -/

/-- The place that names lead to from a directory. All of them but the last must lead to
directories. -/
def walk (d : Disk) (p : Place) : List String → Except DiskFault Place
  | [] => .ok p
  | name :: names =>
    match d.item? p with
    | none => .error .missing
    | some (.file ..) => .error .notDirectory
    | some (.directory _) => d.walk (if name == above then p.dropLast else p ++ [name]) names

def find (d : Disk) (p : Path) : Except DiskFault Place :=
  d.walk (if p.fromRoot then [] else d.here) p.names

end Disk

/-! ### Calls

The calls of the operating system that the program makes. Every call is counted; one that meets
trouble does nothing, or only a part of what it is for. -/

/-- Begins a call: it is counted, and meets the trouble that awaits it, if there is any. -/
def begin : DiskCall (Option Nat) := do
  let d ← get
  set { d with calls := d.calls + 1 }
  return d.trouble d.calls

/-- Begins a call that does nothing at all when it meets trouble. -/
def beginWhole : DiskCall Unit := do
  if (← begin).isSome then throw .trouble

def place (p : Path) : DiskCall Place := fun d => (d.find p, d)

def readFile (p : Path) : DiskCall (List UInt8) := do
  beginWhole
  let q ← place p
  match (← get).item? q with
  | some (.file _ content _) => return content
  | some (.directory _) => throw .isDirectory
  | none => throw .missing

/-- Makes the directories that are missing on the way from a directory. -/
def makeDirectoriesFrom (mode : Nat) (q : Place) : List String → DiskCall Unit
  | [] => pure ()
  | name :: names => do
    let next := if name == above then q.dropLast else q ++ [name]
    match (← get).item? next with
    | some (.directory _) => makeDirectoriesFrom mode next names
    | some (.file ..) => throw (if names.isEmpty then .occupied else .notDirectory)
    | none =>
      beginWhole
      modify (fun d => d.put next (.directory mode))
      makeDirectoriesFrom mode next names

/-- Makes the directories that are missing on a path. Those made before a failure stay. -/
def makeDirectories (mode : Nat) (p : Path) : DiskCall Unit := do
  let d ← get
  makeDirectoriesFrom mode (if p.fromRoot then [] else d.here) p.names

/-- Opens a file that is to be written from the beginning, making it if there is none. Its
serial number is the result. -/
def openEmpty (mode : Nat) (p : Path) : DiskCall Nat := do
  beginWhole
  let q ← place p
  let d ← get
  match d.item? q with
  | some (.directory _) => throw .isDirectory
  | some (.file serial _ kept) =>
    set (d.put q (.file serial [] kept))
    return serial
  | none =>
    set { d.put q (.file d.nextSerial [] mode) with nextSerial := d.nextSerial + 1 }
    return d.nextSerial

def setMode (mode : Nat) (p : Path) : DiskCall Unit := do
  beginWhole
  let q ← place p
  let d ← get
  match d.item? q with
  | some (.file serial content _) => set (d.put q (.file serial content mode))
  | some (.directory _) => set (d.put q (.directory mode))
  | none => throw .missing

/-- A content over whose beginning octets have been written. -/
def writtenOver (octets content : List UInt8) : List UInt8 :=
  octets ++ content.drop octets.length

/-- Writes octets from the beginning of an open file on. -/
def write (serial : Nat) (octets : List UInt8) : DiskCall Unit := do
  match ← begin with
  | none => modify (fun d => d.change serial (writtenOver octets))
  | some written =>
    modify (fun d => d.change serial (writtenOver (octets.take written)))
    throw .trouble

/-- Waits until what has been written is safe. -/
def sync : DiskCall Unit := beginWhole

/-- Moves a file to another place, where no directory may stand. -/
def move (source target : Path) : DiskCall Unit := do
  beginWhole
  let s ← place source
  let t ← place target
  let d ← get
  match d.item? s with
  | some (.file serial content mode) =>
    if d.isDirectory t then throw .isDirectory
    set ((d.without s).put t (.file serial content mode))
  | some (.directory _) => throw .isDirectory
  | none => throw .missing

def remove (p : Path) : DiskCall Unit := do
  beginWhole
  let q ← place p
  let d ← get
  match d.item? q with
  | some (.file ..) => set (d.without q)
  | some (.directory _) => throw .isDirectory
  | none => throw .missing

end SandboxClient.Files
