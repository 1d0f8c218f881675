import MetalLowering.Decimal.Binary64
import MetalLowering.Text.Digit

/-!
# The shortest decimal of a binary number

A floating-point number is written with the fewest digits that read back as the same number, and of
those decimals with the one nearest to it. `Binary64.shortest` finds digits and order of magnitude
in exact arithmetic; `Binary64.text` lays them out: positionally from 10^-4 up to below 10^16, with
`.0` after a whole number, and otherwise with an exponent of a sign and at least two digits.
-/

namespace MetalLowering.Binary64

open MetalLowering (Text)

/-- Compares `a * 10 ^ p` with `b * 2 ^ q`. -/
def compareScaled (a : Nat) (p : Int) (b : Nat) (q : Int) : Ordering :=
  compare (a * tenTo p.toNat * twoTo (-q).toNat) (b * twoTo q.toNat * tenTo (-p).toNat)

/-- Whether `digits * 10 ^ p` rounds to the number `m * 2 ^ q`. Half-way points belong to the even
significand; below a power of two the neighbours are twice as dense. -/
def readsBack (m : Nat) (q : Int) (digits : Nat) (p : Int) : Bool :=
  let below := if m = twoTo 52 && -1074 < q then 4 * m - 1 else 4 * m - 2
  let lower := compareScaled digits p below (q - 2)
  let upper := compareScaled digits p (4 * m + 2) (q - 2)
  (lower = .gt || (lower = .eq && m % 2 = 0)) && (upper = .lt || (upper = .eq && m % 2 = 0))

/-- The order of magnitude of `m * 2 ^ q`: the largest `e` with `10 ^ e` at most the number. -/
def magnitude (m : Nat) (q : Int) : Int :=
  ((Nat.toDigits 10 (m * twoTo q.toNat * tenTo 400 / twoTo (-q).toNat)).length : Int) - 401

/-- The nearest of the decimals with `count` digits around the number that read back, if any. -/
def decimalWith (m : Nat) (q : Int) (count : Nat) : Option (Nat × Int) :=
  let p := magnitude m q + 1 - count
  let low := m * twoTo q.toNat * tenTo (-p).toNat / (twoTo (-q).toNat * tenTo p.toNat)
  match readsBack m q low p, readsBack m q (low + 1) p with
  | true, true =>
    -- the midpoint of both candidates decides, a tie goes to the even one
    match compareScaled (2 * low + 1) p (2 * m) q with
    | .gt => some (low, p)
    | .lt => some (low + 1, p)
    | .eq => some (if low % 2 = 0 then low else low + 1, p)
  | true, false => some (low, p)
  | false, true => some (low + 1, p)
  | false, false => none

/-- Digits and power of ten of the shortest decimal; seventeen digits always suffice. -/
def shortest (m : Nat) (q : Int) : Nat × Int :=
  ((List.range 17).findSome? fun k => decimalWith m q (k + 1)).getD (m, 0)

/-- Digits `d` and power `p` laid out, `e` being the exponent of the first digit. -/
def layout (digits : Text) (e : Int) : Text :=
  if -4 ≤ e && e < 16 then
    if e < 0 then "0.".toList ++ List.replicate (-e - 1).toNat '0' ++ digits
    else
      let whole := e.toNat + 1
      let padded := digits ++ List.replicate (whole - digits.length) '0'
      let fraction := padded.drop whole
      padded.take whole ++ '.' :: (if fraction = [] then ['0'] else fraction)
  else
    let mantissa :=
      match digits with
      | d :: rest => if rest = [] then [d] else d :: '.' :: rest
      | [] => []
    mantissa ++ 'e' :: (if e < 0 then '-' else '+') :: Text.ofNatPadded 2 e.natAbs

/-- A floating-point number as text. -/
def text : Binary64 → Text
  | .nan => "nan".toList
  | .infinite negative => if negative then "-inf".toList else "inf".toList
  | .finite negative m q =>
    let sign : Text := if negative then ['-'] else []
    if m = 0 then sign ++ "0.0".toList
    else
      let (d, p) := shortest m q
      let all := Text.ofNat d
      let digits := (all.reverse.dropWhile (· = '0')).reverse
      sign ++ layout digits (p + all.length - 1)

end MetalLowering.Binary64
