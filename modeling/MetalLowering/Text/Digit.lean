import MetalLowering.Text.Basic

/-!
# Decimal digits and natural numbers

A decimal digit is one of the ten digits of any script: they stand in ascending runs of ten code
points, so a script is given by the code point of its zero.

* `Text.digitValue?` gives a digit's value;
* `Text.firstNumber` gives the first run of digits in a text;
* `Text.ofNat`, `Text.ofInt` write a number with ASCII digits.
-/

namespace MetalLowering.Text

/-- The zeros of the scripts beyond ASCII, as of Unicode 14. -/
def scriptZeros : List Nat := [
    0x660, 0x6f0, 0x7c0, 0x966, 0x9e6, 0xa66, 0xae6, 0xb66, 0xbe6,
    0xc66, 0xce6, 0xd66, 0xde6, 0xe50, 0xed0, 0xf20, 0x1040, 0x1090,
    0x17e0, 0x1810, 0x1946, 0x19d0, 0x1a80, 0x1a90, 0x1b50, 0x1bb0, 0x1c40,
    0x1c50, 0xa620, 0xa8d0, 0xa900, 0xa9d0, 0xa9f0, 0xaa50, 0xabf0, 0xff10,
    0x104a0, 0x10d30, 0x11066, 0x110f0, 0x11136, 0x111d0, 0x112f0, 0x11450, 0x114d0,
    0x11650, 0x116c0, 0x11730, 0x118e0, 0x11950, 0x11c50, 0x11d50, 0x11da0, 0x16a60,
    0x16ac0, 0x16b50, 0x1d7ce, 0x1d7d8, 0x1d7e2, 0x1d7ec, 0x1d7f6, 0x1e140, 0x1e2f0,
    0x1e950, 0x1fbf0]

/-- The value of a decimal digit of any script. -/
def digitValue? (c : Char) : Option Nat :=
  let n := c.toNat
  if n < 0x80 then
    if c.isDigit then some (n - 0x30) else none
  else
    (scriptZeros.find? fun z => z ≤ n && n < z + 10).map fun z => n - z

/-- Whether a character is a decimal digit of any script. -/
def isDecimal (c : Char) : Bool := (digitValue? c).isSome

/-- The number that a run of digits writes in base ten, whatever the scripts of the digits. -/
def numberOf (digits : Text) : Nat :=
  digits.foldl (fun n c => 10 * n + (digitValue? c).getD 0) 0

/-- The first maximal run of decimal digits in a text, empty if there is no digit. -/
def firstDigits (t : Text) : Text := (t.dropWhile (!isDecimal ·)).takeWhile isDecimal

/-- A natural number in ASCII digits. -/
def ofNat (n : Nat) : Text := Nat.toDigits 10 n

/-- An integer in ASCII digits, with a minus sign if negative. -/
def ofInt : Int → Text
  | .ofNat n => ofNat n
  | .negSucc n => '-' :: ofNat (n + 1)

/-- The digits of a number under a least count, filled up with zeros in front. -/
def ofNatPadded (width n : Nat) : Text :=
  List.replicate (width - (ofNat n).length) '0' ++ ofNat n

end MetalLowering.Text
