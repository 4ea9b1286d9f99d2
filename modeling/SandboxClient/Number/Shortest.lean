/-
  SandboxClient/Number/Shortest.lean
  ==================================
  **The fewest digits that read back.** Of the decimals that round to a given
  binary number, those with the fewest digits are found, and of these the one
  that is nearest to the number, an even one if two are equally near. Seventeen
  digits are always enough.
-/
import SandboxClient.Number.Binary64

namespace SandboxClient.Number

structure Decimal where
  digits : Nat
  exponent : Int
  deriving DecidableEq, Repr

def digitCount (n : Nat) : Nat := (Nat.toDigits 10 n).length

/-- The exponent of the greatest power of ten that is not above `num / den`, both positive. -/
def magnitude (num den : Nat) : Int :=
  if num ≥ den then (digitCount (num / den) : Int) - 1
  else
    let places := digitCount (den / num) - 1
    if num * Nat.pow 10 places ≥ den then -(places : Int) else -(places + 1 : Nat)

def atExponent (num den : Nat) (e : Int) : Nat × Nat :=
  if e ≥ 0 then (num, den * Nat.pow 10 e.toNat) else (num * Nat.pow 10 (-e).toNat, den)

/-- Whether a decimal rounds to the size of a number. -/
def Decimal.readsBack (d : Decimal) (x : Binary64) : Bool :=
  match Binary64.ofDecimal false d.digits d.exponent with
  | some y => y.sameValue { x with negative := false }
  | none => false

/-- The better one of the two decimals next to a number on the grid of some exponent, if one of
them reads back. -/
def onGrid (x : Binary64) (num den : Nat) (e : Int) : Option Decimal :=
  let (n, d) := atExponent num den e
  let below : Decimal := ⟨n / d, e⟩
  let above : Decimal := ⟨n / d + 1, e⟩
  match below.readsBack x, above.readsBack x with
  | false, false => none
  | true, false => some below
  | false, true => some above
  | true, true =>
    let twice := 2 * (n % d)
    some (if twice < d || (twice == d && n / d % 2 == 0) then below else above)

/-- The first grid on which a decimal reads back, from the coarsest one on. -/
def firstGrid (x : Binary64) (num den : Nat) (e : Int) : Nat → Option Decimal
  | 0 => none
  | n + 1 =>
    match onGrid x num den e with
    | some d => some d
    | none => firstGrid x num den (e - 1) n

def mostDigits : Nat := 17

/-- A decimal without zeros at the end of its digits, of which there are at most `n`. -/
def Decimal.stripped (d : Decimal) : Nat → Decimal
  | 0 => d
  | n + 1 =>
    if d.digits % 10 == 0 && d.digits != 0 then
      Decimal.stripped ⟨d.digits / 10, d.exponent + 1⟩ n
    else d

/-- The shortest decimal that reads back as the size of a number. -/
def shortest (x : Binary64) : Decimal :=
  let (num, den) := x.quotient
  if num == 0 then ⟨0, 0⟩
  else
    let d := (firstGrid x num den (magnitude num den) mostDigits).getD ⟨0, 0⟩
    d.stripped mostDigits

end SandboxClient.Number
