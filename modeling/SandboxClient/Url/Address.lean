/-
  SandboxClient/Url/Address.lean
  ==============================
  **Numeric addresses.** An address of 32 bits is written as four decimal
  numbers, and read from up to four numbers of which the last fills what is left
  and which may be octal or hexadecimal. An address of 128 bits is written as
  eight hexadecimal numbers, the longest run of zeros left out.
-/
import SandboxClient.Text.Blank
import SandboxClient.Url.Percent

namespace SandboxClient.Url

/-! ### Numbers

Digits of the bases that numbers in addresses may have. -/

def digitsOf (base n : Nat) : List Char := Nat.toDigits base n

/-- The number that digits of a base write, if they are digits and not none at all. -/
def readDigits (base : Nat) (s : List Char) : Option Nat :=
  if s.isEmpty then none
  else s.foldlM (fun n c => do
    let d ← hexValue? c
    if d < base then return n * base + d else none) 0

namespace V4

/-! ### Addresses of 32 bits

What a host may write for such an address is more than four octets; `readQuad` reads four octets
only. -/

/-- A part of an address: its number, or nothing for a part that is no number. Nothing after the
sign of a base counts as zero. -/
def readPart (s : List Char) : Option Nat :=
  match s with
  | '0' :: 'x' :: r | '0' :: 'X' :: r => if r.isEmpty then some 0 else readDigits 16 r
  | ['0'] => some 0
  | '0' :: r => readDigits 8 r
  | s => readDigits 10 s

/-- The parts between dots; a dot at the end counts for nothing. -/
def parts (s : List Char) : List (List Char) :=
  let ps := s.splitOnP (· == '.')
  if ps.getLast? == some [] && ps.length > 1 then ps.dropLast else ps

/-- Whether the last part of a host is a number, so that the host has to be an address. -/
def endsInNumber (s : List Char) : Bool :=
  match (parts s).getLast? with
  | none => false
  | some p => (!p.isEmpty && p.all Char.isDigit) || (readPart p).isSome

/-- The address that a host writes: each part but the last is an octet, and the last one is all
that is left. -/
def read (s : List Char) : Option Nat := do
  let ps := parts s
  if ps.length > 4 then none
  else
    let ns ← ps.mapM readPart
    let front := ns.dropLast
    let last ← ns.getLast?
    if front.any (· > 255) || last ≥ Nat.pow 256 (4 - front.length) then none
    else return ((front.zipIdx.map (fun p => p.1 * Nat.pow 256 (3 - p.2))).foldl (· + ·) 0) + last

def readOctet (s : List Char) : Option Nat := do
  let n ← readDigits 10 s
  if n > 255 || (s.length > 1 && s.head? == some '0') then none else return n

/-- The address that four octets between dots write. -/
def readQuad (s : List Char) : Option Nat := do
  match ← (s.splitOnP (· == '.')).mapM readOctet with
  | [a, b, c, d] => return ((a * 256 + b) * 256 + c) * 256 + d
  | _ => none

def write (n : Nat) : List Char :=
  List.intercalate ['.'] ([n / Nat.pow 256 3 % 256, n / Nat.pow 256 2 % 256, n / 256 % 256, n % 256].map
    (digitsOf 10))

end V4

namespace V6

/-! ### Addresses of 128 bits

Eight numbers between colons, with a gap of zeros. -/

def readPiece (s : List Char) : Option Nat := if s.length > 4 then none else readDigits 16 s

/-- Numbers between colons; the last may be an address of 32 bits, in the place of two. -/
def readPieces : List (List Char) → Option (List Nat)
  | [] => some []
  | [p] =>
    if p.contains '.' then do
      let n ← V4.readQuad p
      return [n / 65536, n % 65536]
    else return [← readPiece p]
  | p :: ps => do
    let n ← readPiece p
    return n :: (← readPieces ps)

def side (s : List Char) : List (List Char) :=
  if s.isEmpty then [] else s.splitOnP (· == ':')

/-- The text on both sides of the first gap. -/
def splitGap : List Char → Option (List Char × List Char)
  | ':' :: ':' :: r => some ([], r)
  | [] => none
  | c :: r => (splitGap r).map (fun s => (c :: s.1, s.2))

/-- The eight numbers of an address. A gap stands for one zero or more. -/
def read (s : List Char) : Option (List Nat) := do
  match splitGap s with
  | none =>
    let ns ← readPieces (side s)
    if ns.length == 8 then return ns else none
  | some (left, right) =>
    let front ← (side left).mapM readPiece
    let back ← readPieces (side right)
    if front.length + back.length > 7 then none
    else return front ++ List.replicate (8 - front.length - back.length) 0 ++ back

/-- The number of zeros at the front. -/
def zeros (ns : List Nat) : Nat := (ns.takeWhile (· == 0)).length

/-- Where the first of the longest runs of zeros begins, and its length. -/
def longestRun : List Nat → Nat × Nat
  | [] => (0, 0)
  | n :: ns =>
    let (start, length) := longestRun ns
    let here := zeros (n :: ns)
    if here > 0 && here ≥ length then (0, here) else (start + 1, length)

def writePieces (ns : List Nat) : List Char := List.intercalate [':'] (ns.map (digitsOf 16))

/-- An address; a run of at least two zeros is left out. -/
def write (ns : List Nat) : List Char :=
  let (start, length) := longestRun ns
  if length < 2 then writePieces ns
  else writePieces (ns.take start) ++ [':', ':'] ++ writePieces (ns.drop (start + length))

/-- The address of 32 bits that an address stands for. -/
def mapped? : List Nat → Option Nat
  | [0, 0, 0, 0, 0, 0xFFFF, a, b] => some (a * 65536 + b)
  | _ => none

/-- An address as it is shown: one that stands for an address of 32 bits ends in that. -/
def display (ns : List Nat) : List Char :=
  match mapped? ns with
  | some n => [':', ':', 'f', 'f', 'f', 'f', ':'] ++ V4.write n
  | none => write ns

end V6

end SandboxClient.Url
