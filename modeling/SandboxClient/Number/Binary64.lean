/-
  SandboxClient/Number/Binary64.lean
  ==================================
  **Binary floating point numbers of 64 bits, as exact numbers.** A finite
  number is a sign, a significand below `2 ^ 53` and an exponent of two. All
  arithmetic is rounding of an exact quotient of natural numbers to the nearest
  such number, ties going to the even significand; so every operation here is
  decided by integer arithmetic alone.
-/

namespace SandboxClient.Number

/-- A finite binary floating point number: `± significand * 2 ^ exponent`. -/
structure Binary64 where
  negative : Bool
  significand : Nat
  exponent : Int
  deriving DecidableEq, Repr

namespace Binary64

/-! ### Limits of the format

Significands and exponents are bounded; what is less than the least number is rounded to it or to
zero. -/

/-- Significands have at most this many bits. -/
def precision : Nat := 53

def minExponent : Int := -1074

def maxExponent : Int := 971

def zero (negative : Bool) : Binary64 := ⟨negative, 0, minExponent⟩

def isZero (x : Binary64) : Bool := x.significand == 0

def neg (x : Binary64) : Binary64 := { x with negative := !x.negative }

/-- Whether two numbers have the same value; the two zeros do. -/
def sameValue (x y : Binary64) : Bool := x == y || (x.isZero && y.isZero)

/-! ### Rounding

All results are the nearest numbers, ties going to the even one. -/

/-- The quotient of `num` by `den`, rounded to the nearest natural number, a tie to the even
one. -/
def roundDiv (num den : Nat) : Nat :=
  let q := num / den
  let twice := 2 * (num % den)
  if twice > den || (twice == den && q % 2 == 1) then q + 1 else q

def roundScaled (num den : Nat) (e : Int) : Nat :=
  if e ≥ 0 then roundDiv num (den * Nat.pow 2 e.toNat) else roundDiv (num * Nat.pow 2 (-e).toNat) den

/-- The nearest number to `num / den`; `none` when that is beyond the greatest. -/
def ofQuotient (negative : Bool) (num den : Nat) : Option Binary64 :=
  if num == 0 || den == 0 then some (zero negative)
  else
    let guess : Int := (num.log2 : Int) - den.log2 - precision
    let tight := if roundScaled num den guess ≥ Nat.pow 2 precision then guess + 1 else guess
    let e := max tight minExponent
    let m := roundScaled num den e
    let (m, e) := if m == Nat.pow 2 precision then (Nat.pow 2 (precision - 1), e + 1) else (m, e)
    if e > maxExponent then none else some ⟨negative, m, e⟩

def ofNat (n : Nat) : Option Binary64 := ofQuotient false n 1

/-- Numerator and denominator of the size of a number. -/
def quotient (x : Binary64) : Nat × Nat :=
  if x.exponent ≥ 0 then (x.significand * Nat.pow 2 x.exponent.toNat, 1)
  else (x.significand, Nat.pow 2 (-x.exponent).toNat)

/-- The rounded product; `none` on overflow. -/
def mul (x y : Binary64) : Option Binary64 :=
  let (a, b) := x.quotient
  let (c, d) := y.quotient
  ofQuotient (x.negative != y.negative) (a * c) (b * d)

/-- The rounded quotient by a number that is not zero; `none` on overflow. -/
def div (x y : Binary64) : Option Binary64 :=
  let (a, b) := x.quotient
  let (c, d) := y.quotient
  ofQuotient (x.negative != y.negative) (a * d) (b * c)

/-! ### Decimals

Decimals are rounded once, from their exact value. -/

/-- Decimal exponents beyond which every number with a bounded significand overflows or is
zero. -/
def decimalReach : Int := 400

/-- The nearest number to `digits * 10 ^ exponent`; `none` on overflow. -/
def ofDecimal (negative : Bool) (digits : Nat) (exponent : Int) : Option Binary64 :=
  if digits == 0 then some (zero negative)
  else
    -- the size of the number as a power of ten, up to one place
    let size : Int := exponent + ((digits.log2 : Int) * 3 / 10)
    if size > decimalReach then none
    else if size < -2 * decimalReach then some (zero negative)
    else if exponent ≥ 0 then ofQuotient negative (digits * Nat.pow 10 exponent.toNat) 1
    else ofQuotient negative digits (Nat.pow 10 (-exponent).toNat)

end Binary64

end SandboxClient.Number
