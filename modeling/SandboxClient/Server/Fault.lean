/-
  SandboxClient/Server/Fault.lean
  ===============================
  **What can be wrong with the store.** Its file cannot be read, understood or
  written; an operation on it has no result; or it leads to no server.
-/
import SandboxClient.Files.Disk
import SandboxClient.Server.Layout
import SandboxClient.Server.Token
import SandboxClient.Url.Reader

namespace SandboxClient.Server

/-! ### Addresses that users type

The checks of `parse_server_url`, in their order: a text that is empty once normalised is refused
before it is read as an address. -/

inductive AddressFault
  | empty
  | unreadable (fault : Url.Fault)
  | otherScheme
  | noHost
  deriving DecidableEq, Repr

def AddressFault.message : AddressFault → String
  | .empty => "empty URL"
  | .unreadable f => f.message
  | .otherScheme => "scheme must be http or https"
  | .noHost => "missing host"

/-- A text with the scheme that is meant when it names none. -/
def withScheme (input : String) : String :=
  let raw := Text.trim input.toList
  if Text.occursIn "://".toList raw then String.ofList raw
  else "https://" ++ String.ofList raw

/-- The address of a server that a user means by a text (`parse_server_url`). -/
def readAddress (input : String) : Except AddressFault String :=
  if (normalizeUrl input).isEmpty then .error .empty
  else
    -- read before its slashes are trimmed, so that a scheme alone is not taken for a host
    let candidate := withScheme input
    match Url.parse candidate with
    | .error f => .error (.unreadable f)
    | .ok u =>
      if !(["http".toList, "https".toList].contains u.scheme) then .error .otherScheme
      else if u.host.isNone then .error .noHost
      else .ok (normalizeUrl candidate)

/-! ### Faults

The faults of the store with their texts (`ConfigError`). Some tell in a second paragraph what to
do. -/

inductive Unreadable
  | disk (fault : Files.DiskFault)
  /-- Its octets are no text. -/
  | notText
  deriving DecidableEq, Repr

def Unreadable.message : Unreadable → String
  | .disk fault => fault.message
  | .notText => "stream did not contain valid UTF-8"

inductive Fault
  | notReadable (path : String) (reason : Unreadable)
  | corrupt (path : String) (reason : LayoutFault)
  | notWritable (path : String) (reason : Files.DiskFault)
  | conflict (reason : Config.Conflict)
  | unconnected (reason : NoConnection)
  | badAddress (input : String) (reason : AddressFault)
  | noHome
  deriving DecidableEq, Repr

def Config.Conflict.message : Config.Conflict → String
  | .nameTaken name => "Alias already in use: " ++ name
  | .serverKnown url => "Server already exists: " ++ url
  | .notFound key =>
    "Server not found: " ++ key ++
      "\n\nRun 'sandcastle server list' to see configured servers."

def NoConnection.message : NoConnection → String
  | .noCurrent =>
    "No server configured.\n\nRun 'sandcastle login <url>' or 'sandcastle server add <url>'."
  | .notLoggedIn url => "Not logged in to " ++ url ++ ".\n\nRun 'sandcastle login " ++ url ++ "'."
  | .blankEnvironment =>
    tokenVariable ++ " is set but empty/whitespace. Set a valid token or unset " ++
      tokenVariable ++ " to use the stored one."
  | .blankStored key server =>
    "Stored token for " ++ key ++ " is empty/whitespace. Run 'sandcastle login " ++ server ++
      "' again."

def Fault.message : Fault → String
  | .notReadable path reason =>
    "Failed to read config file " ++ path ++ ": " ++ reason.message
  | .corrupt path reason =>
    "Config file " ++ path ++ " is corrupt: " ++ reason.message ++
      "\n\nFix or delete the file, then run 'sandcastle login <url>' again."
  | .notWritable path reason =>
    "Failed to write config file " ++ path ++ ": " ++ reason.message
  | .conflict reason => reason.message
  | .unconnected reason => reason.message
  | .badAddress input reason => "Invalid server URL '" ++ input ++ "': " ++ reason.message
  | .noHome => "Could not determine home directory for the config file"

end SandboxClient.Server
