
/-!
# Doubles as exact numbers

A finite double is `m · 2^q` with a natural `m` and an integer `q`, up to its sign. This module
reads the three parts off the bits and rounds quotients of natural numbers, so that printing never
goes through a second approximation.

* `twoTo` and `tenTo` are the powers that sizes of machine numbers and places of decimals are.
* `Binary64.ofFloat` decodes a double.
* `roundQuotient` rounds a quotient to the nearest integer, a tie to the even one.
* `fixed` writes a double with a given number of decimals.
-/

namespace LiveBundle.Decimal

/-- Two to a power. -/
def twoTo (n : Nat) : Nat := Nat.pow 2 n

/-- Ten to a power. -/
def tenTo (n : Nat) : Nat := Nat.pow 10 n

/-- A finite double: the sign and the exact value `significand · 2^exponent`. -/
structure Binary64 where
  negative : Bool
  significand : Nat
  exponent : Int
  /-- Whether the next smaller double is only half as far away as the next larger one. -/
  boundary : Bool

/-- Reads the parts of a finite double off its bits. -/
def Binary64.ofFloat (x : Float) : Binary64 :=
  let bits := x.toBits.toNat
  let fraction := bits % twoTo 52
  let biased := bits / twoTo 52 % twoTo 11
  { negative := bits / twoTo 63 = 1
    significand := if biased = 0 then fraction else twoTo 52 + fraction
    exponent := (max biased 1 : Nat) - 1075
    boundary := fraction = 0 && 1 < biased }

/-- The magnitude as a quotient of two natural numbers. -/
def Binary64.quotient (b : Binary64) : Nat × Nat :=
  if 0 ≤ b.exponent then (b.significand * twoTo b.exponent.toNat, 1)
  else (b.significand, twoTo (-b.exponent).toNat)

/-- The integer nearest to `num / den`, the even one of two that are equally near. -/
def roundQuotient (num den : Nat) : Nat :=
  let q := num / den
  let r := num % den
  if 2 * r < den then q
  else if den < 2 * r then q + 1
  else if q % 2 = 0 then q else q + 1

/-- `n` in decimal, with zeros in front up to `width` digits. -/
def padZeros (width n : Nat) : String :=
  let digits := toString n
  String.ofList (List.replicate (width - digits.length) '0') ++ digits

/-- A double with `places` decimals. -/
def fixed (places : Nat) (x : Float) : String :=
  let b := Binary64.ofFloat x
  let (num, den) := b.quotient
  let scaled := roundQuotient (num * tenTo places) den
  let sign := if b.negative then "-" else ""
  let whole := toString (scaled / tenTo places)
  if places = 0 then sign ++ whole
  else sign ++ whole ++ "." ++ padZeros places (scaled % tenTo places)

end LiveBundle.Decimal
