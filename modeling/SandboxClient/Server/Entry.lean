/-
  SandboxClient/Server/Entry.lean
  ===============================
  **Remembered servers.** A server is remembered under its address and, if the
  user gave it one, under an alias. `normalizeUrl` is the one form in which
  addresses are stored and compared.
-/
import SandboxClient.Text.Blank

namespace SandboxClient.Server

open SandboxClient.Text

/-! ### Addresses

The program's `normalize_url`. Blanks go before slashes do, so what is left may still end in a
blank. -/

def normalizeChars (url : List Char) : List Char := dropTail (· == '/') (trim url)

/-- The form in which addresses are stored and compared. -/
def normalizeUrl (url : String) : String := String.ofList (normalizeChars url.toList)

/-! ### Entries

The program's `ServerEntry`. -/

structure Entry where
  /-- The alias; empty when the server has none. -/
  name : String
  /-- The address. -/
  server : String
  /-- The token of the last login; empty when there was none. -/
  token : String
  /-- Whether certificates of this server are accepted unchecked. -/
  insecure : Bool
  deriving DecidableEq, Repr

def Entry.fresh (name url : String) : Entry := ⟨name, normalizeUrl url, "", false⟩

/-- The text by which the store names an entry (`key`): its alias, or its address if it has none. -/
def Entry.key (e : Entry) : String := if e.name.isEmpty then e.server else e.name

/-- Whether an entry goes by an alias that is not empty. -/
def Entry.isNamed (e : Entry) (name : String) : Bool := !e.name.isEmpty && e.name == name

end SandboxClient.Server
