/-
  SandboxClient/Remote/Client.lean
  ================================
  **Asking a server.** A client knows the address of a server and perhaps a token.
  It asks below that address, each part of a path being one segment. A status
  other than success is a refusal with a message that always says something.
-/
import SandboxClient.Json.Fields
import SandboxClient.Remote.Fault
import SandboxClient.Remote.Resource
import SandboxClient.Server.Token
import SandboxClient.Url.Segments

namespace SandboxClient.Remote

open SandboxClient.Json (Reader Value)

/-! ### Clients

The program's `build`: an address below which nothing can stand is refused before anything is asked.
-/

structure Client where
  base : Url
  /-- The address as it was given, without slashes at its end. -/
  baseUrl : String
  token : Option String
  /-- Whether certificates are accepted unchecked. -/
  insecure : Bool
  deriving DecidableEq, Repr

def Client.build (address : String) (token : Option String) (insecure : Bool) :
    Except Fault Client :=
  let baseUrl := String.ofList (Text.dropTail (· == '/') address.toList)
  match Url.parse baseUrl with
  | .error f => .error (.badBase baseUrl (.unreadable f))
  | .ok u =>
    if u.hasSegments then .ok ⟨u, baseUrl, token, insecure⟩
    else .error (.badBase baseUrl .noServer)

def Client.ofConnection (c : Server.Connection) : Except Fault Client :=
  Client.build c.url (some c.token) c.insecure

def Client.anonymous (address : String) (insecure : Bool) : Except Fault Client :=
  Client.build address none insecure

/-- The address that segments lead to (`endpoint`). -/
def Client.endpoint (c : Client) (segments : List String) : Url := Url.below c.base segments

/-! ### Requests

What every request has. The address in it has neither user nor fragment. -/

/-- The header value for the user and password in the address of a server, if it has them. -/
def userHeader? (u : Url) : Option String := do
  let name ← Text.strictChars (Url.unescape u.username)
  let password := (Text.strictChars (Url.unescape u.password)).getD []
  -- a user without a name still has a password
  if name.isEmpty && u.password.isEmpty then none
  else
    return "Basic " ++ String.ofList (base64 (Text.octetsOfChars (name ++ ':' :: password)))

def tokenHeader (token : String) : String := "Bearer " ++ token

def Client.request (c : Client) (method : Method) (segments : List String)
    (body : Option Value) : Request :=
  let url := c.endpoint segments
  { method := method
    url := url.requestText
    authorization := (userHeader? url).toList ++ c.token.toList.map tokenHeader
    userAgent := userAgent
    contentType := body.map (fun _ => bodyType)
    body := body.map Value.sent }

/-- Whether addresses of a scheme are asked. -/
def isAsked (u : Url) : Bool :=
  u.host.isSome && ["http".toList, "https".toList].contains u.scheme

/-! ### Calls

The program's `send`, `call` and `call_empty`. A fault is found before the network is asked where
that is possible: a scheme that nobody asks, a header that cannot be sent. -/

abbrev Call (α : Type) := ExceptT Fault (StateM Network) α

def exchange (r : Request) : Call Reply := fun n =>
  let (reply, n) := n.exchange r
  (.ok reply, n)

def Client.send (c : Client) (method : Method) (segments : List String) (body : Option Value) :
    Call Response := do
  let url := { c.endpoint segments with username := [], password := [] }
  let r := c.request method segments body
  if !isAsked url then throw (.noAnswer (.badScheme url.text))
  else if !r.authorization.all isHeaderValue then throw (.noAnswer .badHeader)
  else
    match ← exchange r with
    | .unreachable => throw (.noAnswer (.unreachable url.text))
    | .dropped => throw (.noAnswer (.dropped url.text))
    | .response a => return a

/-- The message of a refusal (`extract_api_error`): the error that the body tells, or else the body,
or else the phrase of the status. -/
def refusalMessage (read : BodyReader) (r : Response) : String :=
  let body := read r.contentType r.body
  match (Json.decode errorReader (Text.octets body)).filter (fun m => !m.isEmpty) with
  | some m => m
  | none =>
    if Text.isBlankText body then (reasonPhrase? r.status).getD "unexpected status"
    else Text.trimmed body

def refused (r : Response) : Call String := do return refusalMessage (← get).bodyText r

def refuse {α : Type} (r : Response) : Call α := do throw (.refused r.status (← refused r))

/-- Sends a request and reads the answer (`call`). -/
def Client.ask {α : Type} (c : Client) (method : Method) (segments : List String)
    (body : Option Value) (what : String) (reader : Reader α) : Call α := do
  let r ← c.send method segments body
  if !r.succeeded then refuse r
  else match Json.decode reader r.body with
    | some x => return x
    | none => throw (.unreadable what)

/-- Sends a request of which only the success matters (`call_empty`). -/
def Client.tell (c : Client) (method : Method) (segments : List String) (body : Option Value) :
    Call Unit := do
  let r ← c.send method segments body
  if !r.succeeded then refuse r

end SandboxClient.Remote
