import LiveBundle.Style.Value

/-!
# Grammars of basic values and forms of properties

Readers for the values that many properties share: keywords, numbers, lengths, angles, times, colors
and addresses, and the ways to combine them. A length may be given without a unit, it then counts
pixels.

A property is read into parts and written from them. A property that sets one thing has one part; a
shorthand has a part for each property that it stands for, in the order in which it lists them.
`Form` is how a property is read and written.
-/

namespace LiveBundle.Style.Grammar

open Reader

/-- One of some keywords. -/
def keywords (ks : List String) : Reader Value := Value.word <$> oneOf ks

/-- One keyword. -/
def keyword (k : String) : Reader Value := keywords [k]

/-- A value of a measure or a calculation. -/
def computed (leaf : Reader Measure) : Reader Value :=
  (Value.ofMath <$> Math.read leaf) <|> (Value.measure <$> leaf)

/-- A number of pixels without the unit. -/
def bareLength : Reader Value := do
  match ← token with
  | .number n => return .measure (.quantity n.value "px")
  | _ => fail

/-- Lengths inside calculations. -/
def lengthLeaf : Reader Measure := Measure.read [.length] false false

/-- Lengths and percentages inside calculations. -/
def lengthPercentageLeaf : Reader Measure := Measure.read [.length] true false

/-- A length. -/
def length : Reader Value := computed lengthLeaf <|> bareLength

/-- A length or a percentage. -/
def lengthPercentage : Reader Value := computed lengthPercentageLeaf <|> bareLength

/-- A length, a percentage or `auto`. -/
def lengthPercentageOrAuto : Reader Value := keyword "auto" <|> lengthPercentage

/-- The number of a number token or of a calculation that is a number. -/
def rational : Reader Rat :=
  (do ofOption (Math.number? (← Math.read fail))) <|>
  (do match ← token with
    | .number n => return n.value
    | _ => fail)

/-- A number. -/
def number : Reader Value := Value.number <$> rational

/-- A whole number of 32 bits; what lies outside is moved to the nearest one. -/
def wholeNumber : Reader Int := do
  match ← token with
  | .number n =>
    require n.isWhole
    return max (-2147483648) (min 2147483647 n.value.num)
  | _ => fail

/-- A whole number. -/
def integer : Reader Value := Value.integer <$> wholeNumber

/-- A percentage. -/
def percentage : Reader Value := computed (Measure.read [] true false)

/-- A number, or a percentage as the number that it stands for. -/
def share : Reader Rat :=
  (do match ← token with
    | .percentage n => return n.value / 100
    | _ => fail) <|> rational

/-- An opacity. -/
def opacity : Reader Value := Value.number <$> share

/-- A number or a percentage. -/
def numberOrPercentage : Reader Value := number <|> percentage

/-- An angle. -/
def angle : Reader Value := computed (Measure.read [.angle] false false)

/-- An angle, or zero without a unit. -/
def angleOrZero : Reader Value :=
  angle <|> (do
    match ← token with
    | .number n => if n.value = 0 then return .measure (.quantity 0 "deg") else fail
    | _ => fail)

/-- A time. -/
def time : Reader Value := computed (Measure.read [.time] false false)

/-- A color. -/
def color : Reader Value := Value.color <$> Color.read

/-- An address. -/
def url : Reader Value := Value.url <$> Reader.url

/-- A string. -/
def string : Reader Value := Value.string <$> Reader.string

/-- The keywords that every property has. -/
def globalKeywords : List String := ["initial", "inherit", "unset", "default", "revert",
  "revert-layer"]

/-- A name that an author chose. -/
def customIdent : Reader Value := do
  let n ← name
  require (!globalKeywords.contains (Text.asciiLower n))
  return .word (identText n)

/-- A name that starts with two hyphens. -/
def dashedIdent : Reader Value := do return .word (identText (← dashedName))

/-- Values between commas; a single one stands for itself. -/
def listOf (p : Reader Value) : Reader Value := Value.ofMembers <$> commaList p

/-- Values between commas, kept as a list also if there is one only. -/
def layersOf (p : Reader Value) : Reader Value := Value.list <$> commaList p

/-- Between one and `n` values. -/
def between1And (n : Nat) (p : Reader Value) : Reader (List Value) := do
  let first ← p
  let more ← upTo p (n - 1)
  return first :: more

/-- The values of the four sides from between one and four values: top, right, bottom, left. -/
def sidesOf : List Value → Option (List Value)
  | [a] => some [a, a, a, a]
  | [a, b] => some [a, b, a, b]
  | [a, b, c] => some [a, b, c, b]
  | [a, b, c, d] => some [a, b, c, d]
  | _ => none

/-- The values of the four sides. -/
def sides (p : Reader Value) : Reader (List Value) := do
  ofOption (sidesOf (← between1And 4 p))

/-- The fewest values that give the four sides. -/
def shortestSides : List Value → List Value
  | [top, right, bottom, left] =>
    if left == right then
      if top == bottom then
        if top == right then [top] else [top, right]
      else [top, right, bottom]
    else [top, right, bottom, left]
  | vs => vs

/-- Two values of which the second may be left out if it is the same. -/
def pair (p : Reader Value) : Reader (List Value) := do
  let first ← p
  let second ← Reader.optional p
  return [first, second.getD first]

/-- The fewest values that give a pair. -/
def shortestPair : List Value → List Value
  | [a, b] => if a == b then [a] else [a, b]
  | vs => vs

/-- Values in any order, each at most once and at least one of them. A reader that has found its
value is not asked again. -/
def anyOrder (ps : List (Reader Value)) : Reader (List (Option Value)) := do
  let found ← go ps.length (ps.map fun _ => none)
  require (found.any Option.isSome)
  return found
where
  /-- Tries the readers that have no value yet in order; fails if none reads on. -/
  step : List (Reader Value) → List (Option Value) → Reader (List (Option Value))
    | p :: ps, none :: found =>
      (do return some (← p) :: found) <|> (do return none :: (← step ps found))
    | _ :: ps, some v :: found => do return some v :: (← step ps found)
    | _, _ => fail
  /-- Goes on as long as a reader finds its value. -/
  go : Nat → List (Option Value) → Reader (List (Option Value))
    | 0, found => pure found
    | n + 1, found => (do go n (← step ps found)) <|> pure found

/-- The values found, with the usual value in place of each that is missing. -/
def withDefaults (defaults : List Value) (found : List (Option Value)) : List Value :=
  (found.zip defaults).map fun (v, d) => v.getD d

/-- The values that differ from the usual ones; if there is none, the value at `index`. -/
def writeDifferences (defaults : List Value) (index : Nat) (parts : List Value) : Value :=
  match (parts.zip defaults).filterMap fun (v, d) => if v == d then none else some v with
  | [] => (parts[index]?).getD (.word "")
  | vs => Value.ofItems vs

/-- The members of the first of some lists. -/
def firstMembers (vs : List Value) : List Value := (vs.head?.map Value.members).getD []

/-- The rows of a table as `width` columns. -/
def transpose (width : Nat) (rows : List (List Value)) : List (List Value) :=
  (List.range width).map fun i => rows.filterMap (·[i]?)

end LiveBundle.Style.Grammar

/-! ## Forms of properties -/

namespace LiveBundle.Style

/-- How a property is read and written. -/
structure Form where
  read : Reader (List Value)
  write : List Value → Value := fun
    | [v] => v
    | vs => .row vs

namespace Form

/-- A property with one part. -/
def single (p : Reader Value) : Form := { read := do return [← p] }

/-- A property with one part, which is a keyword. -/
def ofKeywords (ks : List String) : Form := single (Grammar.keywords ks)

/-- A shorthand for the four sides. -/
def sides (p : Reader Value) : Form where
  read := Grammar.sides p
  write vs := Value.ofItems (Grammar.shortestSides vs)

/-- A shorthand for two properties. -/
def pair (p : Reader Value) : Form where
  read := Grammar.pair p
  write vs := Value.ofItems (Grammar.shortestPair vs)

/-- A shorthand whose parts may come in any order; those with their usual value are left out. Where
all have it, the one at `index` is written. -/
def anyOrder (readers : List (Reader Value)) (usual : List Value) (index : Nat) : Form where
  read := do return Grammar.withDefaults usual (← Grammar.anyOrder readers)
  write vs := Grammar.writeDifferences usual index vs

/-- A property with a value for each layer, kept as one list. -/
def layered (p : Reader Value) : Form where
  read := do return [← Grammar.layersOf p]
  write vs := Value.ofMembers (Grammar.firstMembers vs)

/-- A shorthand for several layers. Its parts are the lists of what each layer has. -/
def layers (width : Nat) (layer : Reader (List Value)) (write : List Value → Value) : Form where
  read := do return (Grammar.transpose width (← Reader.commaList layer)).map Value.list
  write columns :=
    Value.ofMembers ((Grammar.transpose (Grammar.firstMembers columns).length
      (columns.map Value.members)).map write)

/-- The forms of some properties, by name. -/
abbrev Table := List (String × Form)

/-- One form for several properties. -/
def forAll (names : List String) (form : Form) : Table := names.map (·, form)

end Form

end LiveBundle.Style
