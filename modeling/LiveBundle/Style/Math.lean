import LiveBundle.Style.Measure

/-!
# Calculations

The arithmetic inside `calc()` and the functions of calculations. It is worked out as far as the
units allow: equal units are added, factors are multiplied in, arguments that cannot win are left
out. What remains is written with one space around each operator.

* `Math.add` and `Math.scale` are the two operations, `Math.simplest` picks arguments.
* `Math.read` reads a calculation.
-/

namespace LiveBundle.Style

/-- A calculation. -/
inductive Math where
  | measure (m : Measure)
  | sum (summands : List Math)
  | product (factor : Rat) (m : Math)
  | call (name : String) (arguments : List Math)
deriving Repr, Inhabited

namespace Math

/-! ## Operations -/

/-- The calculation times a number. -/
def scale (k : Rat) : Math → Math
  | measure m => measure (m.map (k * ·))
  | sum ms => sum (scaleAll ms)
  | product factor m => if k * factor = 1 then m else product (k * factor) m
  | call name arguments =>
    if k = 1 then call name arguments
    else
      match name, arguments with
      | "calc", [m] => call "calc" [scale k m]
      | _, _ => product k (call name arguments)
where
  /-- Each of some calculations times a number. -/
  scaleAll : List Math → List Math
    | [] => []
    | m :: ms => scale k m :: scaleAll ms

mutual

/-- Whether every summand is negative. -/
def isNegative : Math → Bool
  | measure m => m.amount < 0
  | sum ms => areNegative ms
  | product factor _ => factor < 0
  | call .. => false

/-- Whether all of some calculations are negative. -/
def areNegative : List Math → Bool
  | [] => true
  | m :: ms => isNegative m && areNegative ms

end

/-- The summands. -/
def summands : Math → List Math
  | sum ms => ms
  | m => [m]

/-- The sum of some summands. -/
def ofSummands : List Math → Math
  | [m] => m
  | ms => sum ms

/-- Whether it is the measure zero. -/
def isZero : Math → Bool
  | measure m => m.isZero
  | _ => false

/-- Adds a measure to the first summand with a comparable unit. -/
def merge? (m : Measure) : List Math → Option (List Math)
  | [] => none
  | .measure m' :: rest =>
    match m'.sum? m with
    | some s => some (measure s :: rest)
    | none => (merge? m rest).map (measure m' :: ·)
  | other :: rest => (merge? m rest).map (other :: ·)

/-- Puts a summand behind the others; a measure zero adds nothing, and what is negative throughout
goes to the end. -/
def append (ms : List Math) (m : Math) : List Math :=
  match ms, m with
  | [a], .measure b =>
    match a with
    | .measure _ =>
      if a.isZero then [m] else if b.isZero then [a]
      else if a.isNegative && !m.isNegative then [m, a] else [a, m]
    | _ => [a, m]
  | ms, .measure b =>
    if b.isZero then ms
    else if areNegative ms && !m.isNegative then m :: ms else ms ++ [m]
  | ms, m => ms ++ [m]

/-- Adds one summand. -/
def addSummand (ms : List Math) (m : Math) : List Math :=
  match m with
  | .measure b =>
    match merge? b ms with
    | some merged => merged.tail.foldl append (merged.take 1)
    | none => append ms m
  | m => ms ++ [m]

/-- The sum of two calculations. -/
def add (a b : Math) : Math := ofSummands (b.summands.foldl addSummand a.summands)

/-- Puts an argument in the place of the first kept one that it beats by `order`. It is dropped if
it is comparable to a kept one without beating it. -/
def compete (order : Ordering) (m : Measure) : List Math → Option (List Math)
  | [] => none
  | .measure kept :: rest =>
    match m.compare? kept with
    | some o => some (measure (if o = order then m else kept) :: rest)
    | none => (compete order m rest).map (measure kept :: ·)
  | other :: rest => (compete order m rest).map (other :: ·)

/-- The arguments of `min()` or `max()` that can win. -/
def simplest (order : Ordering) (arguments : List Math) : List Math :=
  arguments.foldl (fun kept m =>
    match m with
    | .measure m => (compete order m kept).getD (kept ++ [measure m])
    | m => kept ++ [m]) []

/-- A choice between arguments; one argument stands for itself. -/
def choice (name : String) (order : Ordering) (arguments : List Math) : Math :=
  match simplest order arguments with
  | [m] => m
  | ms => call name ms

/-- The order of two calculations, if both are comparable measures. -/
def compare? : Math → Math → Option Ordering
  | measure a, measure b => a.compare? b
  | _, _ => none

/-- A value kept between two bounds; the lower bound wins over the upper one. -/
def clamp (low value high : Math) : Math :=
  let (value, high) := match compare? value high with
    | some .gt => (high, none)
    | some _ => (value, none)
    | none => (value, some high)
  let (value, low) := match compare? value low with
    | some .lt => (low, none)
    | some _ => (value, none)
    | none => (value, some low)
  match low, high with
  | none, none => value
  | some low, none => call "max" [low, value]
  | none, some high => call "min" [value, high]
  | some low, some high => call "clamp" [low, value, high]

/-! ## Writing -/

mutual

/-- A calculation as text, without the function around it. -/
def text : Math → String
  | measure m => m.text
  | sum [] => "0"
  | sum (m :: ms) => text m ++ summandsText ms
  | product factor m =>
    if -1 < factor ∧ factor < 1 then text m ++ " / " ++ Decimal.write (1 / factor)
    else Decimal.write factor ++ " * " ++ text m
  | call name arguments => name ++ "(" ++ argumentsText arguments ++ ")"

/-- The later summands, each behind its sign. -/
def summandsText : List Math → String
  | [] => ""
  | m :: ms => signedText m ++ summandsText ms

/-- A summand behind its sign. -/
def signedText : Math → String
  | measure m =>
    if m.amount < 0 then " - " ++ (m.map (-1 * ·)).text else " + " ++ m.text
  | sum [] => " + 0"
  | sum (m :: ms) => " + " ++ text m ++ summandsText ms
  | product factor m =>
    let sign := if factor < 0 then " - " else " + "
    let size := if factor < 0 then -factor else factor
    if size = 1 then sign ++ text m
    else if size < 1 then sign ++ text m ++ " / " ++ Decimal.write (1 / size)
    else sign ++ Decimal.write size ++ " * " ++ text m
  | call name arguments => " + " ++ name ++ "(" ++ argumentsText arguments ++ ")"

/-- Arguments between commas. -/
def argumentsText : List Math → String
  | [] => ""
  | [m] => text m
  | m :: ms => text m ++ ", " ++ argumentsText ms

end

mutual

/-- Equality. -/
def same : Math → Math → Bool
  | measure a, measure b => a == b
  | sum a, sum b => sameAll a b
  | product j a, product k b => j == k && same a b
  | call f a, call g b => f == g && sameAll a b
  | _, _ => false

/-- Equality of lists. -/
def sameAll : List Math → List Math → Bool
  | [], [] => true
  | a :: as, b :: bs => same a b && sameAll as bs
  | _, _ => false

end

instance : BEq Math := ⟨same⟩

mutual

/-- Whether every target browser knows its units. -/
def isCommon : Math → Bool
  | measure m => m.isCommon
  | sum ms => areCommon ms
  | product _ m => isCommon m
  | call _ arguments => areCommon arguments

/-- Whether every target browser knows the units of all of them. -/
def areCommon : List Math → Bool
  | [] => true
  | m :: ms => isCommon m && areCommon ms

end

/-! ## Reading -/

/-- The circle constant to the precision of measures. -/
def pi : Rat := 31415926535898 / 10000000000000

/-- The base of the natural logarithm to the precision of measures. -/
def euler : Rat := 27182818284590 / 10000000000000

/-- The numbers that have a name. -/
def constants : List (String × Rat) := [("pi", pi), ("e", euler)]

/-- The number that a calculation is, if it is one. -/
def number? : Math → Option Rat
  | measure (.number q) => some q
  | _ => none

/-- The product of two calculations; one of them has to be a number. -/
def multiply? (a b : Math) : Option Math :=
  match number? b, number? a with
  | some k, _ => some (scale k a)
  | none, some k => some (scale k b)
  | none, none => none

/-- The quotient of a calculation and a number that is not zero. -/
def divide? (a b : Math) : Option Math :=
  match number? b with
  | some k => if k = 0 then none else some (scale (1 / k) a)
  | none => none

/-- The nearest whole number; a half goes away from zero. -/
def nearestWhole (q : Rat) : Int := if q < 0 then -(1 / 2 - q).floor else (1 / 2 + q).floor

/-- The whole part of a number. -/
def wholePart (q : Rat) : Int := if q < 0 then q.ceil else q.floor

/-- How a number is made whole, by name. -/
def roundings : List (String × (Rat → Int)) :=
  [("nearest", nearestWhole), ("up", Rat.ceil), ("down", Rat.floor), ("to-zero", wholePart)]

/-- The multiple of `b` that is chosen for `a`. -/
def toMultiple (rounding : Rat → Int) (a b : Rat) : Rat := rounding (a / b) * b

/-- What is left of `a` when as many `b` as there are in it are taken away towards zero. -/
def remainder (a b : Rat) : Rat := a - toMultiple wholePart a b

/-- What is left of `a` when the multiple of `b` below it is taken away. -/
def modulus (a b : Rat) : Rat := a - toMultiple Rat.floor a b

/-- An operation on two measures of one kind, the second of which is not zero. -/
def combine? (operation : Rat → Rat → Rat) : Math → Math → Option Math
  | measure a, measure b =>
    if b.isZero then none
    else
      match a, b with
      | .number p, .number q => some (measure (.number (operation p q)))
      | .percentage p, .percentage q => some (measure (.percentage (operation p q)))
      | .quantity p u, .quantity q v =>
        (Measure.common? p u q v).map fun (p, q, w) => measure (.quantity (operation p q) w)
      | _, _ => none
  | _, _ => none

/-- Two arguments of an operation, which has to be possible. -/
def twoArguments (argument : Reader Math) (operation : Rat → Rat → Rat) : Reader Math := do
  match ← Reader.commaList argument with
  | [a, b] => Reader.ofOption (combine? operation a b)
  | _ => Reader.fail

/-- The size of a measure without its sign. -/
def size? : Math → Option Math
  | measure m => some (measure (m.map fun q => if q < 0 then -q else q))
  | _ => none

/-- What was read without the function `calc()` around it. -/
def unwrap : Math → Math
  | call "calc" [m] => m
  | m => m

/-- The result of `calc()`: a measure stands for itself. -/
def wrap : Math → Math
  | measure m => measure m
  | m => call "calc" [m]

mutual

/-- A function; `leaf` reads measures with a unit and percentages. -/
def function (leaf : Reader Measure) : Nat → Reader Math
  | 0 => Reader.fail
  | fuel + 1 => Reader.call fun name =>
    match name with
    | "calc" => wrap <$> total leaf fuel
    | "min" => choice "min" .lt <$> Reader.commaList (total leaf fuel)
    | "max" => choice "max" .gt <$> Reader.commaList (total leaf fuel)
    | "clamp" => do
      match ← Reader.commaList (total leaf fuel) with
      | [low, value, high] => return clamp low value high
      | _ => Reader.fail
    | "round" => do
      let rounding ← Reader.optional (do
        let rounding ← Reader.lookup roundings
        Reader.comma
        return rounding)
      twoArguments (total leaf fuel) (toMultiple (rounding.getD nearestWhole))
    | "rem" => twoArguments (total leaf fuel) remainder
    | "mod" => twoArguments (total leaf fuel) modulus
    | "abs" => do Reader.ofOption (size? (← total leaf fuel))
    | _ => Reader.fail

/-- A sum; blanks have to stand around its signs. -/
def total (leaf : Reader Measure) : Nat → Reader Math
  | 0 => Reader.fail
  | fuel + 1 => do
    let first ← term leaf fuel
    let rest ← Reader.many (do
      match ← Reader.rawPiece with
      | p => Reader.require p.isBlank
      match ← Reader.token with
      | .delim '+' => term leaf fuel
      | .delim '-' => scale (-1) <$> term leaf fuel
      | _ => Reader.fail)
    return rest.foldl add first

/-- A product. -/
def term (leaf : Reader Measure) : Nat → Reader Math
  | 0 => Reader.fail
  | fuel + 1 => do
    let first ← operand leaf fuel
    let rest ← Reader.many (do
      match ← Reader.token with
      | .delim '*' => return (true, ← operand leaf fuel)
      | .delim '/' => return (false, ← operand leaf fuel)
      | _ => Reader.fail)
    Reader.ofOption (rest.foldlM (fun a (times, b) =>
      if times then multiply? a b else divide? a b) first)

/-- An operand. -/
def operand (leaf : Reader Measure) : Nat → Reader Math
  | 0 => Reader.fail
  | fuel + 1 =>
    (unwrap <$> function leaf fuel) <|>
    Reader.bracketed .paren (total leaf fuel) <|>
    (do match ← Reader.token with
      | .number n => return measure (.number n.value)
      | _ => Reader.fail) <|>
    (do return measure (.number (← Reader.lookup constants))) <|>
    (measure <$> leaf)

end

/-- A calculation, with its function. -/
def read (leaf : Reader Measure) : Reader Math := fun ps =>
  match skipBlank ps with
  | .function name source inner :: rest =>
    function leaf (4 * weightOf inner + 4) (.function name source inner :: rest)
  | _ => none

end Math

end LiveBundle.Style
