/-
  SandboxClient/Program/Servers.lean
  ==================================
  **Commands about servers.** Logging in, adding, listing, choosing and removing
  servers, and showing the configuration.
-/
import SandboxClient.Program.Run
import SandboxClient.Server.Alias
import SandboxClient.Usage.Command

namespace SandboxClient.Program

open SandboxClient.Server (Config Entry TokenSource)
open SandboxClient.Terminal (Cell)

/-! ### Logging in

Two functions of the program are called `login`: the command, here `login`, which reads the address
and makes a client, and `logIn`, which runs the device flow and stores the token. -/

def notice (n : Login.Notice) : Run Unit :=
  modify (fun w => { w with notices := w.notices ++ [n] })

/-- The world as a login sees it: the server is asked by the client, and what the user is told is
kept in order. -/
def loginHost (c : Remote.Client) (clientName : String) : Login.Host Run where
  sleep seconds := modify (fun w => { w with sleeps := w.sleeps ++ [seconds] })
  requestCode := outcome (c.requestDeviceCode clientName)
  askVerdict code := outcome (c.pollDeviceToken code)
  showCode session := do
    notice .code
    print (Login.codeText session)
  openBrowser url := do
    notice (.browser url)
    print (Login.browserText (← get).browserOpens)
  waiting := notice .waiting
  done := notice .done

/-- Logs in to a server and stores the token in the file that a path leads to; the result is
the entry it is stored in. A store that cannot be read is found out before the user is asked
for anything. -/
def logIn (h : Login.Host Run) (path url : String) (name : Option String) (inBrowser : Bool) :
    Run Entry := do
  let c ← storing (Server.loadFrom path)
  match ← Login.authorize h inBrowser with
  | .error fault => throw (.login fault)
  | .ok token =>
    let chosen := c.chooseAlias url name
    storing ((c.set chosen url token).save path)
    let entry := c.setEntry? chosen url token
    return entry.getD ⟨chosen, Server.normalizeUrl url, token, false⟩

/-- The name of this machine as servers are told it (`client_name`); it is never empty. -/
def World.clientName (w : World) : String :=
  ((w.machineName.map Text.trimmed).filter (fun n => !n.isEmpty)).getD "cli"

/-- Whether certificates go unchecked during a login, as stored with the entry that the address
names. -/
def trusts (c : Config) (url : String) : Bool := (c.find? url).any (fun e => e.insecure)

def login (url : String) (name : Option String) (noBrowser : Bool) : Run Unit := do
  let address ← ofStore ((Server.readAddress url).mapError (.badAddress url))
  let path ← storePath
  let c ← storing (Server.loadFrom path)
  let client ← ofRemote (Remote.Client.anonymous address (trusts c address))
  printLine ("Logging in to " ++ address)
  let entry ← logIn (loginHost client (← get).clientName) path address name (!noBrowser)
  success ("Logged in to " ++ entry.server)
  if !entry.name.isEmpty then field "Alias" entry.name

/-! ### Remembered servers

The actions of the program's `server`, each a use of the store between loading and saving. -/

def addServer (url : String) (name : Option String) (insecure : Bool) : Run Unit := do
  let address ← ofStore ((Server.readAddress url).mapError (.badAddress url))
  let c ← loadStore
  let entry := { Entry.fresh ((name.map Text.trimmed).getD "") address with insecure := insecure }
  let c ← ofStore ((c.add entry).mapError .conflict)
  saveStore c
  if c.servers.length == 1 then success ("Added server " ++ address ++ " (set as current)")
  else success ("Added server " ++ address)
  hint ("Run 'sandcastle login " ++ address ++ "' to authenticate.")

def serverRow (c : Config) (e : Entry) : List Cell :=
  [if c.isCurrent e then Cell.coloured "*" .green else Cell.plain " ",
   Cell.plain e.name,
   Cell.plain (if e.insecure then e.server ++ " (insecure)" else e.server),
   Cell.plain (Server.maskToken e.token)]

def listServers : Run Unit := do
  let c ← loadStore
  if c.servers.isEmpty then printLine "No servers configured. Run: sandcastle login <url>"
  else printTable ["", "ALIAS", "SERVER", "TOKEN"] (c.servers.map (serverRow c))

def useServer (key : String) : Run Unit := do
  let c ← loadStore
  let (c, entry) ← ofStore ((c.use key).mapError .conflict)
  saveStore c
  success ("Switched to " ++ entry.server)

def removeServer (key : String) : Run Unit := do
  let c ← loadStore
  let (c, entry) ← ofStore ((c.remove key).mapError .conflict)
  saveStore c
  success ("Removed server " ++ entry.server)
  if c.currentKey.isEmpty && !c.servers.isEmpty then
    hint "No current server. Run: sandcastle server use <alias-or-url>"

def server : Usage.ServerCommand → Run Unit
  | .add url name insecure => addServer url name insecure
  | .list => listServers
  | .use key => useServer key
  | .remove key => removeServer key

/-! ### Configuration

The program's `config_show`. Tokens are shown by `maskToken` only. -/

def noCurrentLines (c : Config) : List String :=
  [if c.currentKey.isEmpty then "Server: (none)"
   else "Server: " ++ c.currentKey ++ " (not configured)",
   "",
   "Run 'sandcastle login <url>' or 'sandcastle server add <url>'."]

/-- The token that is shown for an entry: the one of the environment where that is the source, else
the stored one. -/
def shownToken (c : Config) (e : Entry) (environment : Option String) : String :=
  match c.tokenSource environment with
  | .environment => Server.maskToken (Text.trimmed (environment.getD ""))
  | _ => Server.maskToken e.token

def currentLines (c : Config) (e : Entry) (environment : Option String) : List String :=
  (if e.name.isEmpty then [] else ["Alias:  " ++ e.name]) ++
  ["Server: " ++ e.server] ++
  (if e.insecure then ["TLS:    certificate checks disabled"] else []) ++
  ["Token:  " ++ shownToken c e environment,
   "",
   "# Token source: " ++ (c.tokenSource environment).label,
   "# Servers configured: " ++ toString c.servers.length]

def configLines (path : String) (c : Config) (environment : Option String) : List String :=
  ["# " ++ path, ""] ++
    match c.current? with
    | none => noCurrentLines c
    | some e => currentLines c e environment

def showConfig : Run Unit := do
  let path ← storePath
  let c ← storing (Server.loadFrom path)
  print (String.join ((configLines path c (← get).token?).map Terminal.line))

end SandboxClient.Program
