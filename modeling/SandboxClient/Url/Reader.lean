/-
  SandboxClient/Url/Reader.lean
  =============================
  **Reading addresses.** Controls and spaces around an address and tabs and line
  ends in it are dropped. Then each part is cut off at the marks that end it and
  brought into the form in which it is sent. In special schemes a backslash is a
  slash and any number of slashes leads to the host.
-/
import SandboxClient.Url.Basic
import SandboxClient.Url.Domain

namespace SandboxClient.Url

/-! ### What can be wrong

The faults, with the texts that users see. -/

inductive Fault
  | emptyHost
  | badDomain
  | badPort
  | badV4
  | badV6
  | badHostCharacter
  | noScheme
  deriving DecidableEq, Repr

def Fault.message : Fault → String
  | .emptyHost => "empty host"
  | .badDomain => "invalid international domain name"
  | .badPort => "invalid port number"
  | .badV4 => "invalid IPv4 address"
  | .badV6 => "invalid IPv6 address"
  | .badHostCharacter => "invalid domain character"
  | .noScheme => "relative URL without a base"

/-! ### Characters

Slashes the other way count where schemes are special. -/

def isSlash (special : Bool) (c : Char) : Bool := c == '/' || (special && c == '\\')

/-- Whether a character ends the part with user, host and port. -/
def endsAuthority (special : Bool) (c : Char) : Bool :=
  isSlash special c || c == '?' || c == '#'

def isDropped (c : Char) : Bool := c == '\t' || c == '\n' || c == '\r'

def counted (s : List Char) : List Char :=
  let outer := fun (c : Char) => decide (c.toNat ≤ 0x20)
  (Text.dropTail outer (s.dropWhile outer)).filter (fun c => !isDropped c)

/-! ### Scheme

A text without one is no address. -/

def isSchemeChar (c : Char) : Bool := c.isAlphanum || c == '+' || c == '-' || c == '.'

/-- The scheme in small letters, and what stands after its colon. -/
def readScheme (s : List Char) : Option (List Char × List Char) :=
  match s.head?, s.span isSchemeChar with
  | some first, (scheme, ':' :: rest) =>
    if first.isAlpha then some (scheme.map Char.toLower, rest) else none
  | _, _ => none

/-! ### Host

In a special scheme a host is a domain name or a number, else it is kept as it is. -/

def readBracketed (s : List Char) : Except Fault Host :=
  if s.getLast? != some ']' then .error .badV6
  else match V6.read (s.drop 1).dropLast with
    | some ps => .ok (.v6 ps)
    | none => .error .badV6

def readHost (s : List Char) : Except Fault Host :=
  if s.head? == some '[' then readBracketed s
  else match (Text.strictChars (unescape s)).bind Domain.ascii with
    | none => .error .badDomain
    | some d =>
      if d.isEmpty then .error .emptyHost
      else if V4.endsInNumber d then
        match V4.read d with
        | some n => .ok (.v4 n)
        | none => .error .badV4
      else .ok (.name d)

def isForbiddenInHost (c : Char) : Bool :=
  ['\x00', '\t', '\n', '\r', ' ', '#', '/', ':', '<', '>', '?', '@', '[', '\\', ']', '^',
    '|'].contains c

/-- A host in a scheme that is not special; none is one too. -/
def readPlainHost (s : List Char) : Except Fault (Option Host) :=
  if s.head? == some '[' then (readBracketed s).map some
  else if s.any isForbiddenInHost then .error .badHostCharacter
  else if s.isEmpty then .ok none
  else .ok (some (.name (escape isControl s)))

/-- The text of the host, up to a colon outside of brackets or the end of the part, and what
stands after it. -/
def cutHost (special : Bool) (inBrackets : Bool) : List Char → List Char × List Char
  | [] => ([], [])
  | c :: r =>
    if (c == ':' && !inBrackets) || endsAuthority special c then ([], c :: r)
    else
      let (host, rest) := cutHost special (if c == '[' then true else if c == ']' then false
        else inBrackets) r
      (c :: host, rest)

def takeHost (special : Bool) (s : List Char) : Except Fault (Option Host × List Char) :=
  let (h, rest) := cutHost special false s
  if special then
    if h.isEmpty then .error .emptyHost else (readHost h).map (fun x => (some x, rest))
  else do
    let x ← readPlainHost h
    if x.isNone && rest.head? == some ':' then .error .emptyHost else return (x, rest)

/-! ### Port

The port of the scheme is the same as none. -/

def greatestPort : Nat := 65535

/-- The port behind a colon, unless it is the usual one, and what stands after it. -/
def takePort (scheme : List Char) (s : List Char) : Except Fault (Option Nat × List Char) :=
  match s with
  | ':' :: r =>
    let (digits, rest) := r.span Char.isDigit
    let port := digits.foldl (fun n c => n * 10 + (c.toNat - 0x30)) 0
    if port > greatestPort then .error .badPort
    else if !(rest.head?.all (endsAuthority true)) then .error .badPort
    else
      .ok (if digits.isEmpty || defaultPort? scheme == some port then none else some port, rest)
  | s => .ok (none, s)

/-! ### User

What stands before the last at sign. -/

/-- The text before the last at sign of the part, and what stands after it. -/
def cutUser (special : Bool) (s : List Char) : Option (List Char × List Char) :=
  let (part, rest) := s.span (fun c => !endsAuthority special c)
  let host := (part.reverse.takeWhile (· != '@')).reverse
  if host.length == part.length then none
  else some (part.take (part.length - host.length - 1), host ++ rest)

def takeUser (special : Bool) (s : List Char) :
    Except Fault (List Char × List Char × List Char) :=
  match cutUser special s with
  | none => .ok ([], [], s)
  | some ([], rest) =>
    if rest.head?.any (endsAuthority special) then .error .emptyHost else .ok ([], [], rest)
  | some (user, rest) =>
    let (name, password) := user.span (· != ':')
    .ok (escape escapedInUser name, escape escapedInUser (password.drop 1), rest)

/-! ### Path

Segments that stand for others are resolved as they are read. -/

/-- Whether a segment stands for the one above. -/
def isParent (s : List Char) : Bool :=
  ["..", "%2e%2e", "%2e.", ".%2e"].contains (String.ofList (s.map Char.toLower))

def isHere (s : List Char) : Bool := [".", "%2e"].contains (String.ofList (s.map Char.toLower))

def isDriveLetter : List Char → Bool
  | [c, d] => c.isAlpha && (d == ':' || d == '|')
  | _ => false

/-- A path without its last segment. The letter of a drive stays. -/
def parent (scheme : List Char) (done : List (List Char)) : List (List Char) :=
  if scheme == fileScheme && done.length == 1 && done.any isDriveLetter then done
  else done.dropLast

/-- Puts a segment in the form in which it is sent at the end of a path; `last` says that none
follows. -/
def putSegment (scheme : List Char) (done : List (List Char)) (s : List Char) (last : Bool) :
    List (List Char) :=
  if isParent s then parent scheme done ++ (if last then [[]] else [])
  else if isHere s then done ++ (if last then [[]] else [])
  else if scheme == fileScheme && done.isEmpty && isDriveLetter s then
    [s.take 1 ++ [':']]
  else done ++ [s]

def putSegments (scheme : List Char) (done : List (List Char)) :
    List (List Char) → List (List Char)
  | [] => done
  | s :: ss => putSegments scheme (putSegment scheme done (escape escapedInPath s) ss.isEmpty) ss

/-- A path without the empty segments at the front, of which one may be left. -/
def dropEmptyFront : List (List Char) → List (List Char)
  | [] :: s :: ss => dropEmptyFront (s :: ss)
  | ss => ss

/-- The segments of the text after the first slash of a path. -/
def readSegments (scheme : List Char) (s : List Char) : List (List Char) :=
  let pieces := s.splitOnP (isSlash (isSpecial scheme))
  if scheme == fileScheme then
    dropEmptyFront (putSegments scheme [] (dropEmptyFront pieces))
  else putSegments scheme [] pieces

/-! ### What follows the path

A query and a fragment. -/

structure Tail where
  path : Path
  query : Option (List Char)
  fragment : Option (List Char)
  deriving Repr

/-- The query and fragment that a text after a path holds. -/
def readQuery (special : Bool) (s : List Char) : Option (List Char) × Option (List Char) :=
  let (query, fragment) := s.span (· != '#')
  let fragment := match fragment with
    | _ :: f => some (escape escapedInFragment f)
    | [] => none
  match query with
  | _ :: q => (some (escape (escapedInQuery special) q), fragment)
  | [] => (none, fragment)

def cutPath (s : List Char) : List Char × List Char := s.span (fun c => c != '?' && c != '#')

def readTail (scheme : List Char) (s : List Char) : Tail :=
  let special := isSpecial scheme
  let (p, rest) := cutPath s
  let (query, fragment) := readQuery special rest
  let segments := match p with
    | [] => if special then [[]] else []
    | c :: r => readSegments scheme (if isSlash special c then r else c :: r)
  ⟨.segments segments, query, fragment⟩

/-! ### Kinds of schemes

Special schemes, local files, and all others. -/

def readAuthority (scheme : List Char) (s : List Char) : Except Fault Url := do
  let special := isSpecial scheme
  let (username, password, s) ← takeUser special s
  let (host, s) ← takeHost special s
  let (port, s) ← takePort scheme s
  if host.isNone && !(username.isEmpty && password.isEmpty) then .error .emptyHost
  else
    let t := readTail scheme s
    return ⟨scheme, true, username, password, host, port, t.path, t.query, t.fragment⟩

/-- The host of a local file: none for this machine, and none in the place of which the letter
of a drive stands. -/
def takeFileHost (s : List Char) : Except Fault (Option Host × List Char) :=
  let (h, rest) := s.span (fun c => !endsAuthority true c)
  if isDriveLetter h then .ok (none, s)
  else if h.isEmpty then .ok (none, rest)
  else do
    let host ← readHost h
    return (if host == .name ['l', 'o', 'c', 'a', 'l', 'h', 'o', 's', 't'] then none
      else some host, rest)

def readFile (s : List Char) : Except Fault Url := do
  let (host, s) ← match s with
    | a :: b :: r => if isSlash true a && isSlash true b then takeFileHost r else .ok (none, s)
    | s => .ok (none, s)
  let t := readTail fileScheme s
  let onDrive := match t.path with
    | .segments (p :: _) => isDriveLetter p
    | _ => false
  return ⟨fileScheme, true, [], [], if onDrive then none else host, none, t.path, t.query,
    t.fragment⟩

/-- What follows a scheme that is not special. -/
def readOther (scheme : List Char) (s : List Char) : Except Fault Url :=
  match s with
  | '/' :: '/' :: r => readAuthority scheme r
  | '/' :: _ =>
    let t := readTail scheme s
    .ok ⟨scheme, false, [], [], none, none, t.path, t.query, t.fragment⟩
  | s =>
    let (p, rest) := cutPath s
    let (query, fragment) := readQuery false rest
    .ok ⟨scheme, false, [], [], none, none, .plain (escape isControl p), query, fragment⟩

/-- The address that a text writes. -/
def parse (text : String) : Except Fault Url :=
  match readScheme (counted text.toList) with
  | none => .error .noScheme
  | some (scheme, s) =>
    if scheme == fileScheme then readFile s
    else if isSpecial scheme then readAuthority scheme (s.dropWhile (isSlash true))
    else readOther scheme s

end SandboxClient.Url
