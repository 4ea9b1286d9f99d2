/-
  SandboxClient/Remote/Info.lean
  ==============================
  **What a server tells about itself.** Versions, load, memory and counts; what
  is missing is empty or zero. The lines of the overview have their values in
  one column.
-/
import SandboxClient.Number.Fixed
import SandboxClient.Remote.Sandbox

namespace SandboxClient.Remote

open SandboxClient.Json (Reader)
open SandboxClient.Number (Binary64 fixed)

/-! ### Types

Each part of the answer, which may be missing as a whole. -/

structure LoadAverage where
  one : Binary64
  five : Binary64
  fifteen : Binary64
  deriving DecidableEq, Repr

structure Usage where
  usedGb : Binary64
  totalGb : Binary64
  percent : Binary64
  deriving DecidableEq, Repr

structure HostInfo where
  uptime : String
  cpuCount : Nat
  load : LoadAverage
  memory : Usage
  disk : Usage
  deriving DecidableEq, Repr

structure SandboxCounts where
  total : Nat
  running : Nat
  stopped : Nat
  deriving DecidableEq, Repr

structure DockerInfo where
  version : String
  containers : Nat
  containersRunning : Nat
  images : Nat
  deriving DecidableEq, Repr

structure UserCounts where
  total : Nat
  admins : Nat
  deriving DecidableEq, Repr

structure ServerInfo where
  version : String
  rails : String
  ruby : String
  host : HostInfo
  sandboxes : SandboxCounts
  docker : DockerInfo
  users : UserCounts
  deriving DecidableEq, Repr

/-! ### Reading

What is missing is empty or zero, but what is there must have the right type. -/

def zero : Binary64 := Binary64.zero false

def LoadAverage.unknown : LoadAverage := ⟨zero, zero, zero⟩

def Usage.unknown : Usage := ⟨zero, zero, zero⟩

def HostInfo.unknown : HostInfo := ⟨"", 0, .unknown, .unknown, .unknown⟩

def count (fs : Reader.Fields) (name : String) : Option Nat :=
  Reader.withDefault fs name (Reader.natural countLimit) 0

def word (fs : Reader.Fields) (name : String) : Option String :=
  Reader.withDefault fs name Reader.text ""

def amount (fs : Reader.Fields) (name : String) : Option Binary64 :=
  Reader.withDefault fs name Reader.real zero

def LoadAverage.reader : Reader LoadAverage := fun t => do
  let fs ← Reader.fields ["one", "five", "fifteen"] t
  return ⟨← amount fs "one", ← amount fs "five", ← amount fs "fifteen"⟩

def Usage.reader : Reader Usage := fun t => do
  let fs ← Reader.fields ["used_gb", "total_gb", "percent"] t
  return ⟨← amount fs "used_gb", ← amount fs "total_gb", ← amount fs "percent"⟩

def HostInfo.reader : Reader HostInfo := fun t => do
  let fs ← Reader.fields ["uptime", "cpu_count", "load", "memory", "disk"] t
  return ⟨← word fs "uptime", ← count fs "cpu_count",
    ← Reader.withDefault fs "load" LoadAverage.reader .unknown,
    ← Reader.withDefault fs "memory" Usage.reader .unknown,
    ← Reader.withDefault fs "disk" Usage.reader .unknown⟩

def SandboxCounts.reader : Reader SandboxCounts := fun t => do
  let fs ← Reader.fields ["total", "running", "stopped"] t
  return ⟨← count fs "total", ← count fs "running", ← count fs "stopped"⟩

def DockerInfo.reader : Reader DockerInfo := fun t => do
  let fs ← Reader.fields ["version", "containers", "containers_running", "images"] t
  return ⟨← word fs "version", ← count fs "containers", ← count fs "containers_running",
    ← count fs "images"⟩

def UserCounts.reader : Reader UserCounts := fun t => do
  let fs ← Reader.fields ["total", "admins"] t
  return ⟨← count fs "total", ← count fs "admins"⟩

def ServerInfo.reader : Reader ServerInfo := fun t => do
  let fs ← Reader.fields ["version", "rails", "ruby", "host", "sandboxes", "docker", "users"] t
  return ⟨← word fs "version", ← word fs "rails", ← word fs "ruby",
    ← Reader.withDefault fs "host" HostInfo.reader .unknown,
    ← Reader.withDefault fs "sandboxes" SandboxCounts.reader ⟨0, 0, 0⟩,
    ← Reader.withDefault fs "docker" DockerInfo.reader ⟨"", 0, 0, 0⟩,
    ← Reader.withDefault fs "users" UserCounts.reader ⟨0, 0⟩⟩

/-! ### Overview

The program's `info_lines`: labels and values in two columns, parted by empty lines. -/

def Usage.text (u : Usage) : String :=
  fixed 1 u.usedGb ++ " / " ++ fixed 1 u.totalGb ++ " GB (" ++ fixed 0 u.percent ++ "% used)"

def LoadAverage.text (l : LoadAverage) : String :=
  fixed 2 l.one ++ " / " ++ fixed 2 l.five ++ " / " ++ fixed 2 l.fifteen

/-- The rows of the overview, with nothing for an empty line. -/
def ServerInfo.rows (i : ServerInfo) : List (Option (String × String)) :=
  [some ("Version", i.version),
   some ("Rails", i.rails),
   some ("Ruby", i.ruby),
   some ("Docker", i.docker.version),
   none,
   some ("Uptime", i.host.uptime),
   some ("CPUs", toString i.host.cpuCount),
   some ("Load", i.host.load.text),
   none,
   some ("Memory", i.host.memory.text),
   some ("Disk", i.host.disk.text),
   none,
   some ("Sandboxes", toString i.sandboxes.running ++ " running, " ++
     toString i.sandboxes.stopped ++ " stopped, " ++ toString i.sandboxes.total ++ " total"),
   some ("Containers", toString i.docker.containersRunning ++ " running, " ++
     toString i.docker.containers ++ " total"),
   some ("Images", toString i.docker.images),
   some ("Users", toString i.users.total ++ " (" ++ toString i.users.admins ++ " admins)")]

def labelWidth (rows : List (Option (String × String))) : Nat :=
  ((rows.filterMap id).map (fun r => r.1.length + 1)).foldl max 0

def ServerInfo.lines (i : ServerInfo) : List String :=
  let width := labelWidth i.rows
  i.rows.map (fun row =>
    match row with
    | some (label, value) =>
      label ++ ":" ++ Terminal.spaces (width - (label.length + 1)) ++ "  " ++ value
    | none => "")

end SandboxClient.Remote
