/-
  SandboxClient/Remote/Fault.lean
  ===============================
  **What can go wrong between the program and a server.** The address may be no
  address of a server, no answer may come, the server may refuse, or its answer
  may not be what it should be. Each fault has a message and the messages of its
  causes.
-/
import SandboxClient.Remote.Wire
import SandboxClient.Text.Quoted
import SandboxClient.Url.Reader

namespace SandboxClient.Remote

/-! ### No answer

Why there is no answer, with the texts of those who carry requests, outermost first. -/

inductive NoAnswer
  /-- A header would have a value that headers cannot have. -/
  | badHeader
  /-- Addresses of this scheme are not asked. -/
  | badScheme (url : String)
  | unreachable (url : String)
  | dropped (url : String)
  deriving DecidableEq, Repr

def NoAnswer.chain : NoAnswer → List String
  | .badHeader => ["builder error", "failed to parse header value"]
  | .badScheme url => ["builder error for url (" ++ url ++ ")", "URL scheme is not allowed"]
  | .unreachable url =>
    ["error sending request for url (" ++ url ++ ")", "client error (Connect)",
     "tcp connect error", "Network is unreachable (os error 101)"]
  | .dropped url =>
    ["error sending request for url (" ++ url ++ ")", "client error (SendRequest)",
     "connection closed before message completed"]

/-! ### Faults

The program's `ApiError`. -/

inductive BadBase
  | unreadable (fault : Url.Fault)
  /-- Nothing can be below it. -/
  | noServer
  deriving DecidableEq, Repr

def BadBase.message : BadBase → String
  | .unreadable f => f.message
  | .noServer => "not a server address"

inductive Fault
  | badBase (url : String) (reason : BadBase)
  | noAnswer (reason : NoAnswer)
  /-- The server answers with a status other than success. -/
  | refused (status : Nat) (message : String)
  /-- The answer is not what was asked for. -/
  | unreadable (what : String)
  deriving DecidableEq, Repr

/-- What is said of an answer that is not of the form asked for. The library that reads answers has
a text for each way and place in which this happens; they are not modelled, and one text stands for
all of them. -/
def readerText : String := "not a document of this form"

def noAnswerStart : String := "request failed: "

def Fault.message : Fault → String
  | .badBase url reason => "invalid server URL " ++ Text.quoted url ++ ": " ++ reason.message
  | .noAnswer reason => noAnswerStart ++ (reason.chain.head?).getD ""
  | .refused status message => "API error (" ++ statusText status ++ "): " ++ message
  | .unreadable what => "failed to parse " ++ what ++ " response: " ++ readerText

def Fault.causes : Fault → List String
  | .noAnswer reason => reason.chain
  | .unreadable _ => [readerText]
  | _ => []

end SandboxClient.Remote
