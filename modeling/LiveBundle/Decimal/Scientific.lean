import LiveBundle.Decimal.Binary64

/-!
# Decimals for doubles and fractions

Of all decimals that round to a given double, `shortest` chooses one with the fewest digits and
among those the nearest to the double. It tests the two neighbours of the exact value on the grid
of `1, 2, … 17` significant digits in exact arithmetic and takes the first grid with a hit.

Exact numbers are written with a limited count of significant digits; a half goes away from zero.
Zeros at the end vanish, as does the zero in front of the point.

* `roundTo` chooses the digits.
* `write` has six digits and is positional from `10^-6` up to `10^21`; `writeFull` keeps the zero.
-/

namespace LiveBundle.Decimal

/-! ## The shortest decimal that reads back -/

/-- A decimal `digits · 10^exponent`. -/
structure Scientific where
  digits : Nat
  exponent : Int
deriving Repr, DecidableEq

/-- Whether `d · 10^e` lies among the reals that round to the double; the ends count when the
significand is even. -/
def Binary64.holds (b : Binary64) (d : Nat) (e : Int) : Bool :=
  let low := 4 * b.significand - (if b.boundary then 1 else 2)
  let high := 4 * b.significand + 2
  let q := b.exponent - 2
  -- Compare `d · 10^e` with `low · 2^q` and `high · 2^q` after clearing negative exponents.
  let left := d * tenTo e.toNat * twoTo (-q).toNat
  let scale := twoTo q.toNat * tenTo (-e).toNat
  if b.significand % 2 = 0 then low * scale ≤ left && left ≤ high * scale
  else low * scale < left && left < high * scale

/-- The distance of `d · 10^e` from the double, up to a factor that depends on `e` only. -/
def Binary64.distance (b : Binary64) (d : Nat) (e : Int) : Nat :=
  let left := d * tenTo e.toNat * twoTo (-b.exponent).toNat
  let right := b.significand * twoTo b.exponent.toNat * tenTo (-e).toNat
  if left ≤ right then right - left else left - right

/-- The largest multiple of `10^e` that is not above the double, in units of `10^e`. -/
def Binary64.floorAt (b : Binary64) (e : Int) : Nat :=
  let (num, den) := b.quotient
  num * tenTo (-e).toNat / (den * tenTo e.toNat)

/-- The better of the two neighbours of the double on the grid of multiples of `10^e`, if one of
them rounds to the double. -/
def Binary64.onGrid (b : Binary64) (e : Int) : Option Scientific :=
  let d := b.floorAt e
  match b.holds d e, b.holds (d + 1) e with
  | true, true => some ⟨if b.distance d e ≤ b.distance (d + 1) e then d else d + 1, e⟩
  | true, false => some ⟨d, e⟩
  | false, true => some ⟨d + 1, e⟩
  | false, false => none

/-- The number of digits before the decimal point, or minus the number of zeros after it. -/
def Binary64.magnitude (b : Binary64) : Int :=
  let (num, den) := b.quotient
  if den ≤ num then ((toString (num / den)).length : Int)
  else 1 - ((toString ((den - 1) / num)).length : Int)

/-- Removes trailing zeros of the digits. -/
def Scientific.normalize : Nat → Scientific → Scientific
  | 0, s => s
  | n + 1, s =>
    if s.digits ≠ 0 ∧ s.digits % 10 = 0 then
      Scientific.normalize n ⟨s.digits / 10, s.exponent + 1⟩
    else s

/-- The shortest decimal that rounds to a positive finite double. -/
def Binary64.shortest (b : Binary64) : Scientific :=
  let magnitude := b.magnitude
  let grids := (List.range 18).map fun (n : Nat) => magnitude - (n : Int)
  match grids.findSome? b.onGrid with
  | some s => s.normalize 400
  | none => ⟨b.floorAt (magnitude - 17), magnitude - 17⟩

/-! ## Decimals of a few digits -/

/-- The number of digits before the point of `num / den`, or minus the number of zeros after it. -/
def magnitude (num den : Nat) : Int :=
  if den ≤ num then ((Nat.toDigits 10 (num / den)).length : Int)
  else 1 - ((Nat.toDigits 10 ((den - 1) / num)).length : Int)

/-- The nearest whole number to `num / den`; a half goes up. -/
def nearest (num den : Nat) : Nat := (2 * num + den) / (2 * den)

/-- `num / den` with `count` significant digits. -/
def roundTo (count num den : Nat) : Scientific :=
  if num = 0 then ⟨0, 0⟩
  else
    let e := magnitude num den - (count : Int)
    Scientific.normalize 400
      ⟨nearest (num * tenTo (-e).toNat) (den * tenTo e.toNat), e⟩

/-- Digits with the point `point` places from the left; there is no zero in front of it. -/
def positional (digits : List Char) (point : Int) : List Char :=
  if point ≤ 0 then '.' :: (List.replicate (-point).toNat '0' ++ digits)
  else
    let whole := point.toNat
    if digits.length ≤ whole then digits ++ List.replicate (whole - digits.length) '0'
    else digits.take whole ++ '.' :: digits.drop whole

/-- Digits with an exponent. -/
def withExponent (digits : List Char) (point : Int) : List Char :=
  let mantissa := match digits with
    | [] => []
    | [d] => [d]
    | d :: ds => d :: '.' :: ds
  mantissa ++ 'e' :: (toString (point - 1)).toList

/-- A decimal as text. -/
def Scientific.text (s : Scientific) : List Char :=
  if s.digits = 0 then ['0']
  else
    let digits := Nat.toDigits 10 s.digits
    let point := (digits.length : Int) + s.exponent
    if -6 < point && point ≤ 21 then positional digits point else withExponent digits point

/-- A sign in front of the text of a negative number that is not rounded to zero. -/
def signed (q : Rat) (text : List Char) : String :=
  String.ofList (if q < 0 && text != ['0'] then '-' :: text else text)

/-- An exact number with at most six significant digits. -/
def write (q : Rat) : String := signed q (roundTo 6 q.num.natAbs q.den).text

/-- The same with a zero in front of a leading point. -/
def writeFull (q : Rat) : String :=
  let text := (roundTo 6 q.num.natAbs q.den).text
  signed q (if text.head? = some '.' then '0' :: text else text)

end LiveBundle.Decimal
