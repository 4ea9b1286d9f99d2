/-
  SandboxClient/Main.lean
  =======================
  **The command line.** The files that a command may use are read, the command is
  carried out on them, and what it changed is written back. This program opens no
  connections of its own, so that every server is out of its reach.
-/
import SandboxClient.Program.Perform

namespace SandboxClient

open SandboxClient.Files (Disk Item Path Place)
open SandboxClient.Program (World)

/-- The settings of the environment that the program looks at. -/
def usedSettings : List String :=
  ["HOME", Program.directoryVariable, Server.tokenVariable, "SANDCASTLE_HOME", "SANDCASTLE_DATA",
   "SANDCASTLE_RM"]

/-- Those settings that are set. -/
def readSettings : IO (List (String × String)) := do
  let values ← usedSettings.mapM (fun name => do return (name, ← IO.getEnv name))
  return values.filterMap (fun v => v.2.map (fun value => (v.1, value)))

/-- The text of the path to a place. -/
def placeText (p : Place) : String := "/" ++ "/".intercalate p

/-- What stands at a place. What cannot be read stands in the way like a directory. -/
def survey (serial : Nat) (p : Place) : IO (Option Item) := do
  try
    let content ← IO.FS.readBinFile (placeText p)
    return some (.file serial content.toList 0o644)
  catch
    | .noFileOrDirectory .. => return none
    | _ => return some (.directory 0o700)

/-- The place that a path means to those who do not look. -/
def meantPlace (here : Place) (p : Path) : Place :=
  p.names.foldl (fun q name => if name == Files.above then q.dropLast else q ++ [name])
    (if p.fromRoot then [] else here)

/-- The places on the way to a place, the place itself included. -/
def placesTo (p : Place) : List Place := (List.range p.length).map (fun n => p.take (n + 1))

/-- The part of the disk that paths lead through. -/
def readDisk (here : Place) (paths : List String) : IO Disk := do
  let places := ((here :: paths.map (fun p => meantPlace here (Path.read p))).flatMap
    placesTo).eraseDups
  let found ← places.zipIdx.mapM (fun p => do return (p.1, ← survey p.2 p.1))
  return { items := found.filterMap (fun f => f.2.map (fun i => (f.1, i)))
           here := here
           nextSerial := places.length
           calls := 0
           trouble := fun _ => none }

/-- What one of the three kinds of users may do, by the octal digit for it. -/
def accessRight (digit : Nat) : IO.AccessRight :=
  ⟨digit / 4 % 2 == 1, digit / 2 % 2 == 1, digit % 2 == 1⟩

/-- Sets the permissions of what stands at a place. -/
def restrict (p : Place) (mode : Nat) : IO Unit :=
  IO.setAccessRights (placeText p)
    ⟨accessRight (mode / 64), accessRight (mode / 8), accessRight mode⟩

/-- Makes what stands at a place stand there in truth. A file is moved there when it is whole. -/
def writeItem (p : Place) : Item → IO Unit
  | .directory mode => do
    IO.FS.createDirAll (placeText p)
    restrict p mode
  | .file _ content mode => do
    let whole := p.dropLast ++ [(p.getLast?.getD "") ++ ".whole"]
    IO.FS.writeBinFile (placeText whole) ⟨content.toArray⟩
    restrict whole mode
    IO.FS.rename (placeText whole) (placeText p)

/-- Writes back what has changed. -/
def writeDisk (before after : Disk) : IO Unit := do
  for (p, i) in after.items do
    if before.item? p != some i then writeItem p i

/-- Whether a command may ask the user for something. -/
def asksUser : Usage.Command → Bool
  | .tailscale (.enable key) => (Session.spoken key).isNone
  | _ => false

/-- The moment at which the program runs, as far as that matters without a server. -/
def present : Time.Moment := .ofSeconds 0

/-- The world in which a command is carried out. -/
def readWorld (command : Usage.Command) (settings : List (String × String)) : IO World := do
  let directory := (← IO.currentDir).toString
  let input ← if asksUser command then (← IO.getStdin).getLine else pure ""
  let world : World :=
    { disk := { items := [], here := [], nextSerial := 0, calls := 0, trouble := fun _ => none }
      network := { answer := fun _ _ => .unreachable, sent := [] }
      settings := settings
      workingDirectory := directory
      accountHome := none
      input := input
      output := ""
      errors := ""
      now := present
      machineName := none
      browserOpens := false
      notices := []
      sleeps := []
      port := fun _ _ => ⟨false, Session.attemptLimit⟩
      sshEnds := fun _ _ => .absent
      sshRuns := [] }
  let store := (world.storeDirectory?.map (Files.join · Program.storeName)).toList
  let disk ← readDisk (Path.read directory).names (world.markerPath :: store)
  return { world with disk := disk }

/-- Carries out a command; the result is the exit code. -/
def runCommand (command : Usage.Command) (settings : List (String × String)) : IO Nat := do
  let world ← readWorld command settings
  let (code, after) := Program.execute command world
  writeDisk world.disk after.disk
  IO.print after.output
  IO.eprint after.errors
  return code

/-- Carries out a command line; the result is the exit code. -/
def runLine (line : List String) : IO Nat := do
  let settings ← readSettings
  match Usage.parse settings line with
  | .ok invocation => runCommand invocation.command settings
  | .error .version =>
    IO.print Usage.versionText
    return Usage.Refusal.version.exitCode
  | .error refusal =>
    IO.eprintln "usage: sandcastle [OPTIONS] <COMMAND>"
    return refusal.exitCode

end SandboxClient

/-- Carries out the command line. -/
def main (line : List String) : IO UInt32 := do
  return (← SandboxClient.runLine line).toUInt32
