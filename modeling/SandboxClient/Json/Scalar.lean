/-
  SandboxClient/Json/Scalar.lean
  ==============================
  **What numbers and strings stand for.** A string stands for a text if its octets
  are one and its units pair up. A number without fraction and exponent stands
  for an integer if it fits into 64 bits; every other number stands for a
  floating point number, reached from as many leading digits as 64 bits hold by
  one multiplication or a few divisions, each of them rounded.
-/
import SandboxClient.Json.Token
import SandboxClient.Number.Binary64
import SandboxClient.Text.Utf8

namespace SandboxClient.Json

open SandboxClient.Number

/-! ### Strings

Escapes of units of sixteen bits stand for a character alone or in pairs. -/

def isHighSurrogate (n : Nat) : Bool := 0xD800 ≤ n && n < 0xDC00

def isLowSurrogate (n : Nat) : Bool := 0xDC00 ≤ n && n < 0xE000

/-- The octets that a string stands for. -/
def octetsOfParts : List StringPart → Option (List UInt8)
  | [] => some []
  | .octet b :: r => (octetsOfParts r).map (b :: ·)
  | .unit n :: r =>
    if isHighSurrogate n then
      match r with
      | .unit m :: r' =>
        if isLowSurrogate m then
          let c := Char.ofNat (0x10000 + (n - 0xD800) * 0x400 + (m - 0xDC00))
          (octetsOfParts r').map (String.utf8EncodeChar c ++ ·)
        else none
      | _ => none
    else if isLowSurrogate n then none
    else (octetsOfParts r).map (String.utf8EncodeChar (Char.ofNat n) ++ ·)

def textOfParts (s : List StringPart) : Option String := do
  Text.strictText (← octetsOfParts s)

/-! ### Numbers

Integers are kept as such where sixty-four bits hold them; every other number becomes a floating
point number, in steps that may round more than once. -/

/-- What a number stands for. -/
inductive Quantity
  | natural (n : Nat)
  | negative (n : Int)
  | real (x : Binary64)
  deriving DecidableEq, Repr

/-- Integers and leading digits stay below this. -/
def wordLimit : Nat := Nat.pow 2 64

/-- Takes digits as long as the number that they write stays below the limit: that number, and
the digits that are left. -/
def takeSignificant (n : Nat) : List Nat → Nat × List Nat
  | [] => (n, [])
  | d :: ds => if n * 10 + d < wordLimit then takeSignificant (n * 10 + d) ds else (n, d :: ds)

/-- The greatest power of ten that one step multiplies or divides by. -/
def greatestPower : Nat := 308

def powerOfTen (n : Nat) : Option Binary64 := Binary64.ofNat (Nat.pow 10 n)

/-- Divides by a power of ten: by the greatest one, up to so many times, as long as more than
that is left to divide by, and then by the rest. -/
def divideByPower (x : Binary64) (n : Nat) : Nat → Option Binary64
  | 0 => do x.div (← powerOfTen (min n greatestPower))
  | rounds + 1 =>
    if n ≤ greatestPower then do x.div (← powerOfTen n)
    else if x.isZero then some x
    else do divideByPower (← x.div (← powerOfTen greatestPower)) (n - greatestPower) rounds

/-- So many steps leave nothing of any number. -/
def mostRounds : Nat := 4

/-- Scales leading digits by a power of ten; `none` when the result is too great. -/
def scale (significant : Nat) (exponent : Int) : Option Binary64 := do
  let x ← Binary64.ofNat significant
  if exponent ≥ 0 then
    if x.isZero then return x
    else if exponent > greatestPower then none
    else x.mul (← powerOfTen exponent.toNat)
  else divideByPower x (min exponent.natAbs (mostRounds * greatestPower)) mostRounds

/-- The value of the digits of an exponent, bounded from above; a greater one makes no
difference. -/
def exponentValue (negative : Bool) (digits : List Nat) : Int :=
  let n : Nat := digits.foldl (fun (n d : Nat) => min (n * 10 + d) (Nat.pow 2 31)) 0
  if negative then -(n : Int) else n

/-- The floating point number that a number stands for. -/
def realOfNumber (n : NumberText) : Option Binary64 := do
  let (front, left) := takeSignificant 0 n.whole
  let (significant, unread) := takeSignificant front n.fraction
  let places : Int := left.length - (n.fraction.length - unread.length : Nat)
  let exponent : Int := match n.exponent with
    | some (negative, digits) => exponentValue negative digits
    | none => 0
  let x ← scale significant (places + exponent)
  return if n.negative then x.neg else x

def quantityOfNumber (n : NumberText) : Option Quantity :=
  let (value, left) := takeSignificant 0 n.whole
  if n.fraction.isEmpty && n.exponent.isNone && left.isEmpty then
    if !n.negative then some (.natural value)
    else if value == 0 || value > Nat.pow 2 63 then (realOfNumber n).map .real
    else some (.negative (-(value : Int)))
  else (realOfNumber n).map .real

end SandboxClient.Json
