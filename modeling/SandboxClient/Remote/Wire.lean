/-
  SandboxClient/Remote/Wire.lean
  ==============================
  **Requests and answers.** A request has a method, an address, a few headers and
  perhaps a body. What comes back is up to the network: nothing may be reached,
  the connection may break, or there is an answer with a status and a body. A
  network keeps a list of the requests that have reached a server.
-/
import SandboxClient.Text.Charset
import SandboxClient.Url.Percent

namespace SandboxClient.Remote

/-! ### Requests

Of the headers only those are kept that the program sets itself; what the network adds, and where a
redirection leads, is the network's. -/

inductive Method
  | get | post | patch | delete
  deriving DecidableEq, Repr

def Method.name : Method → String
  | .get => "GET"
  | .post => "POST"
  | .patch => "PATCH"
  | .delete => "DELETE"

/-- A request with its headers. -/
structure Request where
  method : Method
  url : String
  /-- The values of the header that says who asks, in order. -/
  authorization : List String
  userAgent : String
  contentType : Option String
  body : Option String
  deriving DecidableEq, Repr

def bodyType : String := "application/json"

def userAgent : String := "sandcastle-cli/0.1.0"

/-! ### Answers

What comes of a request is a function of the requests before it, so that a server may change its
mind. -/

structure Response where
  status : Nat
  contentType : Option String
  body : List UInt8
  deriving DecidableEq, Repr

def Response.succeeded (r : Response) : Bool := 200 ≤ r.status && r.status < 300

inductive Reply
  /-- No server is reached. -/
  | unreachable
  /-- The server closes the connection without an answer. -/
  | dropped
  | response (r : Response)
  deriving DecidableEq, Repr

/-- How the text of a body is read, given the type that the answer names for it. -/
abbrev BodyReader := Option String → List UInt8 → String

/-- The network: what it makes of a request after those that have reached a server, and which these
are, in order. How bodies are read is left open: `Text.contentText` reads the character sets it
knows. -/
structure Network where
  answer : List Request → Request → Reply
  sent : List Request
  bodyText : BodyReader := Text.contentText

/-- What the network makes of a request now, and the network after that. A request that reaches no
server leaves no trace. -/
def Network.exchange (n : Network) (r : Request) : Reply × Network :=
  match n.answer n.sent r with
  | .unreachable => (.unreachable, n)
  | reply => (reply, { n with sent := n.sent ++ [r] })

/-! ### Statuses in words

The phrases of the statuses, which stand in for the message of a refusal that has none. -/

def reasonPhrases : List (Nat × String) :=
  [(100, "Continue"), (101, "Switching Protocols"), (102, "Processing"), (103, "Early Hints"),
   (200, "OK"), (201, "Created"), (202, "Accepted"), (203, "Non Authoritative Information"),
   (204, "No Content"), (205, "Reset Content"), (206, "Partial Content"), (207, "Multi-Status"),
   (208, "Already Reported"), (226, "IM Used"), (300, "Multiple Choices"),
   (301, "Moved Permanently"), (302, "Found"), (303, "See Other"), (304, "Not Modified"),
   (305, "Use Proxy"), (307, "Temporary Redirect"), (308, "Permanent Redirect"),
   (400, "Bad Request"), (401, "Unauthorized"), (402, "Payment Required"), (403, "Forbidden"),
   (404, "Not Found"), (405, "Method Not Allowed"), (406, "Not Acceptable"),
   (407, "Proxy Authentication Required"), (408, "Request Timeout"), (409, "Conflict"),
   (410, "Gone"), (411, "Length Required"), (412, "Precondition Failed"),
   (413, "Payload Too Large"), (414, "URI Too Long"), (415, "Unsupported Media Type"),
   (416, "Range Not Satisfiable"), (417, "Expectation Failed"), (418, "I'm a teapot"),
   (421, "Misdirected Request"), (422, "Unprocessable Entity"), (423, "Locked"),
   (424, "Failed Dependency"), (425, "Too Early"), (426, "Upgrade Required"),
   (428, "Precondition Required"), (429, "Too Many Requests"),
   (431, "Request Header Fields Too Large"), (451, "Unavailable For Legal Reasons"),
   (500, "Internal Server Error"), (501, "Not Implemented"), (502, "Bad Gateway"),
   (503, "Service Unavailable"), (504, "Gateway Timeout"), (505, "HTTP Version Not Supported"),
   (506, "Variant Also Negotiates"), (507, "Insufficient Storage"), (508, "Loop Detected"),
   (510, "Not Extended"), (511, "Network Authentication Required")]

def reasonPhrase? (status : Nat) : Option String := reasonPhrases.lookup status

def statusText (status : Nat) : String :=
  toString status ++ " " ++ (reasonPhrase? status).getD "<unknown status code>"

/-! ### Who asks

User and password are sent in base 64. A token is sent as it is, so it must be one that a header can
hold. -/

def base64Digits : List Char :=
  "ABCDEFGHIJKLMNOPQRSTUVWXYZabcdefghijklmnopqrstuvwxyz0123456789+/".toList

def base64Digit (n : Nat) : Char := base64Digits.getD (n % 64) 'A'

/-- Octets in base 64, three at a time as four digits. -/
def base64 : List UInt8 → List Char
  | [] => []
  | [a] =>
    let n := a.toNat * 65536
    [base64Digit (n / 262144), base64Digit (n / 4096), '=', '=']
  | [a, b] =>
    let n := a.toNat * 65536 + b.toNat * 256
    [base64Digit (n / 262144), base64Digit (n / 4096), base64Digit (n / 64), '=']
  | a :: b :: c :: r =>
    let n := a.toNat * 65536 + b.toNat * 256 + c.toNat
    base64Digit (n / 262144) :: base64Digit (n / 4096) :: base64Digit (n / 64) ::
      base64Digit n :: base64 r

def isHeaderOctet (b : UInt8) : Bool := (b ≥ 0x20 && b != 0x7F) || b == 0x09

def isHeaderValue (s : String) : Bool := (Text.octets s).all isHeaderOctet

end SandboxClient.Remote
