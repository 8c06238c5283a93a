import LiveBundle.Decimal.Scientific
import LiveBundle.Style.Reader
import LiveBundle.Style.Written

/-!
# Measures

Numbers with a unit, percentages and plain numbers. A unit belongs to one dimension; the units of
fixed length are multiples of the pixel, all angles of the degree, all times of the second.

* `Measure.sum?` adds measures of one unit or of comparable units.
* `Measure.compare?` compares them.
* `Measure.text` writes one in full, `Measure.short` without the unit of a length zero.
-/

namespace LiveBundle.Style

/-- What a unit measures. -/
inductive Dimension where
  | length
  | angle
  | time
  | resolution
  /-- A share of the space left over in a grid. -/
  | fraction
deriving DecidableEq, Repr

/-- The units of length that every target browser knows. -/
def commonLengthUnits : List String := [
  "px", "in", "cm", "mm", "q", "pt", "pc", "em", "rem", "ex", "ch", "vw", "vh", "vmin", "vmax"]

/-- The other units of length. -/
def recentLengthUnits : List String := [
  "rex", "rch", "cap", "rcap", "ic", "ric", "lh", "rlh", "lvw", "svw", "dvw", "cqw", "lvh",
  "svh", "dvh", "cqh", "vi", "svi", "lvi", "dvi", "cqi", "vb", "svb", "lvb", "dvb", "cqb",
  "svmin", "lvmin", "dvmin", "cqmin", "svmax", "lvmax", "dvmax", "cqmax"]

/-- What a unit, given in lower case, measures. -/
def Dimension.ofUnit? (unit : String) : Option Dimension :=
  if commonLengthUnits.contains unit || recentLengthUnits.contains unit then some .length
  else if ["deg", "grad", "rad", "turn"].contains unit then some .angle
  else if ["s", "ms"].contains unit then some .time
  else if ["dpi", "dpcm", "dppx", "x"].contains unit then some .resolution
  else if unit = "fr" then some .fraction
  else none

/-- A number, a percentage, or a number with a unit in lower case. -/
inductive Measure where
  | number (q : Rat)
  | percentage (q : Rat)
  | quantity (q : Rat) (unit : String)
deriving DecidableEq, Repr

namespace Measure

/-- The amount. -/
def amount : Measure → Rat
  | number q => q
  | percentage q => q
  | quantity q _ => q

/-- The measure with its amount changed. -/
def map (f : Rat → Rat) : Measure → Measure
  | number q => number (f q)
  | percentage q => percentage (f q)
  | quantity q unit => quantity (f q) unit

/-- Whether the amount is zero. -/
def isZero (m : Measure) : Bool := m.amount == 0

/-- Whether it is a length. -/
def isLength : Measure → Bool
  | quantity _ unit => Dimension.ofUnit? unit == some .length
  | _ => false

/-- The size of a unit of fixed length in pixels. -/
def pixelsPer? : String → Option Rat
  | "px" => some 1
  | "in" => some 96
  | "cm" => some (9600 / 254)
  | "mm" => some (960 / 254)
  | "q" => some (240 / 254)
  | "pt" => some (96 / 72)
  | "pc" => some 16
  | _ => none

/-- Half a turn in radians makes so many degrees per radian. -/
def degreesPerRadian : Rat := 57295779513082 / 1000000000000

/-- The size of a unit of angle in degrees. -/
def degreesPer? : String → Option Rat
  | "deg" => some 1
  | "grad" => some (360 / 400)
  | "turn" => some 360
  | "rad" => some degreesPerRadian
  | _ => none

/-- The size of a unit of time in seconds. -/
def secondsPer? : String → Option Rat
  | "s" => some 1
  | "ms" => some (1 / 1000)
  | _ => none

/-- The unit to which a unit is converted, and its size in that unit. -/
def scale? (unit : String) : Option (String × Rat) :=
  match pixelsPer? unit with
  | some q => some ("px", q)
  | none =>
    match degreesPer? unit with
    | some q => some ("deg", q)
    | none => (secondsPer? unit).map ("s", ·)

/-- Two quantities in one unit. -/
def common? (a : Rat) (u : String) (b : Rat) (v : String) : Option (Rat × Rat × String) :=
  if u = v then some (a, b, u)
  else
    match scale? u, scale? v with
    | some (w, p), some (w', q) => if w = w' then some (a * p, b * q, w) else none
    | _, _ => none

/-- The sum of two measures, if it is one measure. -/
def sum? : Measure → Measure → Option Measure
  | number a, number b => some (number (a + b))
  | percentage a, percentage b => some (percentage (a + b))
  | quantity a u, quantity b v => (common? a u b v).map fun (a, b, w) => quantity (a + b) w
  | _, _ => none

/-- The order of two measures, if it can be told. -/
def compare? : Measure → Measure → Option Ordering
  | number a, number b => some (compareOfLessAndEq a b)
  | percentage a, percentage b => some (compareOfLessAndEq a b)
  | quantity a u, quantity b v => (common? a u b v).map fun (a, b, _) => compareOfLessAndEq a b
  | _, _ => none

/-- A time as text: tenths of a second and more in seconds, less in milliseconds. -/
def timeText (seconds : Rat) : String :=
  if 0 < seconds ∧ seconds < 1 / 10 then Decimal.write (seconds * 1000) ++ "ms"
  else Decimal.write seconds ++ "s"

/-- Milliseconds as text. -/
def millisecondsText (ms : Rat) : String :=
  if ms = 0 ∨ 100 ≤ ms then Decimal.write (ms / 1000) ++ "s" else Decimal.write ms ++ "ms"

/-- A number of units as text. -/
def quantityText (q : Rat) (unit : String) : String :=
  match unit with
  | "s" => timeText q
  | "ms" => millisecondsText q
  | "rad" =>
    let degrees := q * degreesPerRadian
    if (degrees * 100000).den = 1 then Decimal.write degrees ++ "deg"
    else Decimal.write q ++ "rad"
  | "x" => Decimal.write q ++ "dppx"
  | unit => Decimal.write q ++ unitText unit

/-- A measure as text. -/
def text : Measure → String
  | number q => Decimal.write q
  | percentage q => Decimal.write q ++ "%"
  | quantity q unit => quantityText q unit

/-- A measure as text; a length zero has no unit. -/
def short (m : Measure) : String := if m.isLength && m.isZero then "0" else m.text

/-- Whether every target browser knows its unit. -/
def isCommon : Measure → Bool
  | quantity _ unit => !recentLengthUnits.contains unit
  | _ => true

/-- A measure with a unit of one of the dimensions, or one of the other kinds if allowed. -/
def read (dimensions : List Dimension) (percentages numbers : Bool) : Reader Measure := do
  match ← Reader.token with
  | .number n => if numbers then return number n.value else Reader.fail
  | .percentage n => if percentages then return percentage n.value else Reader.fail
  | .dimension n unit =>
    let unit := Text.asciiLower unit
    match Dimension.ofUnit? unit with
    | some d => if dimensions.contains d then return quantity n.value unit else Reader.fail
    | none => Reader.fail
  | _ => Reader.fail

end Measure

end LiveBundle.Style
