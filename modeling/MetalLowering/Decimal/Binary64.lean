/-!
# Binary floating-point numbers of 64 bits

The numbers that a JSON number with a fraction or an exponent stands for. A finite one is a sign, a
significand below 2^53 and an exponent of two from -1074 up; the significand is at least 2^52 unless
the exponent is the least one, so each number has one form, the two zeros apart.

* `Binary64.ofDecimal` reads a decimal: the nearest number, a tie goes to the even significand;
* `Binary64.equalsInt`, `Binary64.same` compare by value.
-/

namespace MetalLowering

/-- A 64-bit binary floating-point number. -/
inductive Binary64
  /-- The number with the given sign and magnitude `significand * 2 ^ exponent`. -/
  | finite (negative : Bool) (significand : Nat) (exponent : Int)
  | infinite (negative : Bool)
  | nan
  deriving Repr, DecidableEq

namespace Binary64

/-- The power of two with the given exponent. -/
def twoTo (exponent : Nat) : Nat := Nat.pow 2 exponent

/-- The power of ten with the given exponent. -/
def tenTo (exponent : Nat) : Nat := Nat.pow 10 exponent

/-- The quotient rounded to the nearest natural number, a tie to the even one. -/
def roundDiv (num den : Nat) : Nat :=
  let q := num / den
  let r := num % den
  if 2 * r < den || (2 * r = den && q % 2 = 0) then q else q + 1

/-- The largest `k` with `2 ^ k * den ≤ num`, for positive arguments. -/
def quotientLog2 (num den : Nat) : Int :=
  let k : Int := (num.log2 : Int) - (den.log2 : Int)
  if den * twoTo k.toNat ≤ num * twoTo (-k).toNat then k else k - 1

/-- The number nearest to the positive quotient `num / den`. -/
def ofQuotient (negative : Bool) (num den : Nat) : Binary64 :=
  let exponent := max (-1074) (quotientLog2 num den - 52)
  let significand := roundDiv (num * twoTo (-exponent).toNat) (den * twoTo exponent.toNat)
  let (significand, exponent) :=
    if significand = twoTo 53 then (twoTo 52, exponent + 1) else (significand, exponent)
  if 971 < exponent then .infinite negative else .finite negative significand exponent

/-- The number nearest to `digits * 10 ^ exponent`. Decimals far outside the range are decided by
their order of magnitude, so that no large power is formed for them. -/
def ofDecimal (negative : Bool) (digits : Nat) (exponent : Int) : Binary64 :=
  let magnitude : Int := ((Nat.toDigits 10 digits).length : Int) + exponent
  if digits = 0 || magnitude < -330 then .finite negative 0 (-1074)
  else if 310 < magnitude then .infinite negative
  else ofQuotient negative (digits * tenTo exponent.toNat) (tenTo (-exponent).toNat)

/-- Whether the number is the given integer. -/
def equalsInt : Binary64 → Int → Bool
  | .finite negative significand exponent, n =>
    let signed : Int := if negative then -(significand : Int) else significand
    signed * twoTo exponent.toNat = n * twoTo (-exponent).toNat
  | _, _ => false

/-- Whether two numbers are the same key of a table: equal in value, or both not a number. -/
def same : Binary64 → Binary64 → Bool
  | .finite _ 0 _, .finite _ 0 _ => true
  | x, y => x = y

end Binary64

end MetalLowering
