/-
  SandboxClient/Server/Token.lean
  ===============================
  **Tokens.** Requests carry a token: the one in the environment if there is one,
  else the one that the last login stored. A token of blanks alone is a mistake
  and is reported as one. Displays show at most the first characters of a token.
-/
import SandboxClient.Server.Config

namespace SandboxClient.Server

/-! ### Display

The program's `mask_token`. The length is counted in characters, so a cut is never inside of one. -/

/-- A display shows so many characters of a token, and only of one that has more. -/
def shownTokenLength : Nat := 12

def maskToken (token : String) : String :=
  let s := token.toList
  if s.isEmpty then "(not set)"
  else if s.length > shownTokenLength then
    String.ofList (s.take shownTokenLength ++ ['.', '.', '.'])
  else "(set)"

/-! ### Where the token comes from

The program's `resolve_token`. Once the variable is set it decides, also when it is blank. -/

def tokenVariable : String := "SANDCASTLE_TOKEN"

/-- Where the token of the current server comes from, or why there is none. -/
inductive TokenSource
  | environment
  | stored
  | missing
  /-- The environment has only blanks. -/
  | blankEnvironment
  /-- The entry has only blanks. -/
  | blankStored
  deriving DecidableEq, Repr

def TokenSource.label : TokenSource → String
  | .environment => "env (" ++ tokenVariable ++ ")"
  | .stored => "config"
  | .missing => "missing"
  | .blankEnvironment => "invalid: " ++ tokenVariable ++ " is whitespace-only"
  | .blankStored => "invalid: stored token is whitespace-only"

/-- The source of the token for an entry, and the token itself without blanks around it; it is
empty unless the source has one. -/
def resolveToken (e : Entry) (environment : Option String) : TokenSource × String :=
  match environment with
  | some t => if Text.isBlankText t then (.blankEnvironment, "") else (.environment, Text.trimmed t)
  | none =>
    if e.token.isEmpty then (.missing, "")
    else if Text.isBlankText e.token then (.blankStored, "")
    else (.stored, Text.trimmed e.token)

def Config.tokenSource (c : Config) (environment : Option String) : TokenSource :=
  match c.current? with
  | some e => (resolveToken e environment).1
  | none => .missing

/-! ### Connections

The program's `resolve_connection`. -/

structure Connection where
  url : String
  token : String
  insecure : Bool
  deriving DecidableEq, Repr

inductive NoConnection
  | noCurrent
  | notLoggedIn (url : String)
  | blankEnvironment
  | blankStored (key server : String)
  deriving DecidableEq, Repr

def Config.connection (c : Config) (environment : Option String) :
    Except NoConnection Connection :=
  match c.current? with
  | none => .error .noCurrent
  | some e =>
    match resolveToken e environment with
    | (.environment, t) | (.stored, t) => .ok ⟨e.server, t, e.insecure⟩
    | (.missing, _) => .error (.notLoggedIn e.server)
    | (.blankEnvironment, _) => .error .blankEnvironment
    | (.blankStored, _) => .error (.blankStored e.key e.server)

end SandboxClient.Server
