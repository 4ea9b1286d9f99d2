/-
  SandboxClient/Number/Fixed.lean
  ===============================
  **Numbers with a fixed count of places.** A number is rounded to the nearest
  multiple of its last place, a tie to the even one. The sign stays even when
  nothing else is left.
-/
import SandboxClient.Number.Binary64

namespace SandboxClient.Number

def paddedDigits (width n : Nat) : List Char :=
  let ds := Nat.toDigits 10 n
  List.replicate (width - ds.length) '0' ++ ds

/-- A natural number of units of the last of so many places. -/
def writePlaces (places n : Nat) : List Char :=
  let ds := paddedDigits (places + 1) n
  if places == 0 then ds
  else ds.take (ds.length - places) ++ '.' :: ds.drop (ds.length - places)

/-- A number with so many places. -/
def fixed (places : Nat) (x : Binary64) : String :=
  let (num, den) := x.quotient
  let digits := writePlaces places (Binary64.roundDiv (num * Nat.pow 10 places) den)
  String.ofList (if x.negative then '-' :: digits else digits)

end SandboxClient.Number
