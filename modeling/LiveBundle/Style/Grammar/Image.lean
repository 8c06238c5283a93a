import LiveBundle.Style.Grammar.Position

/-!
# Grammar of images

An image is an address, a gradient or a choice of images by resolution. The usual direction, shape
and place of a gradient are not written, nor is a hint in the middle; two stops of one color share
it.

* `image` reads an image.
* `olderImages?` rewords images for browsers that know the choice by its older name only.
-/

namespace LiveBundle.Style.Grammar

open Reader

/-- What a gradient passes through: a color, or the middle between two colors. -/
inductive GradientItem where
  | stop (color : Value) (place : Option Value)
  | hint (place : Value)

namespace GradientItem

/-- An item without its color. -/
def value : GradientItem → Value
  | stop color none => color
  | stop color (some place) => .row [color, place]
  | hint place => place

/-- One or two stops. -/
def stops (place : Reader Value) : Reader (List GradientItem) := do
  let c ← color
  let first ← Reader.optional place
  let second ← Reader.optional place
  return match second with
    | some p => [stop c first, stop c (some p)]
    | none => [stop c first]

/-- The items between commas; a hint stands between two stops. -/
def readAll (place : Reader Value) : Bool → List (List Piece) → Option (List GradientItem)
  | behindStop, [] => if behindStop then some [] else none
  | behindStop, part :: parts =>
    let hint? := if behindStop then whole place part else none
    match hint? with
    | some p => (readAll place false parts).map (hint p :: ·)
    | none =>
      match whole (stops place) part with
      | some items => (readAll place true parts).map (items ++ ·)
      | none => none

/-- The items as arguments. `before` is the item in front, if a second place may join it. -/
def writeAll (before : Option GradientItem) : List GradientItem → List Value
  | [] => (before.map value).toList
  | item :: items =>
    match before, item with
    | some (stop c (some p)), stop c' (some p') =>
      if c == c' then .row [c, p, p'] :: writeAll none items
      else .row [c, p] :: writeAll (some item) items
    | before, hint p =>
      if p == .percentage 50 then writeAll before items
      else (before.map value).toList ++ writeAll (some (hint p)) items
    | before, item => (before.map value).toList ++ writeAll (some item) items

end GradientItem

/-- A side or a corner, the vertical side first. -/
def sideOrCorner : Reader String := do
  let first ← oneOf ["left", "right", "top", "bottom"]
  let second ← Reader.optional (oneOf ["left", "right", "top", "bottom"])
  match second with
  | none => return first
  | some second =>
    if verticalSides.contains first && horizontalSides.contains second then
      return first ++ " " ++ second
    else if horizontalSides.contains first && verticalSides.contains second then
      return second ++ " " ++ first
    else fail

/-- The direction of a straight gradient. Behind the prefix of a vendor there is no `to` in it. -/
def gradientLine (vendor : String) : Reader Value :=
  angleOrZero <|> (do
    if vendor.isEmpty then word "to"
    let target ← sideOrCorner
    return .word (if vendor.isEmpty then "to " ++ target else target))

/-- Directions that need not be written. -/
def isUsualLine (v : Value) : Bool :=
  v == .word "to bottom" || v == .word "bottom" || v == .measure (.quantity 180 "deg")

/-- The extents of round gradients. -/
def extents : List String := ["closest-side", "farthest-side", "closest-corner",
  "farthest-corner"]

/-- An ellipse; the usual one is nothing. -/
def ellipse : Reader (List Value) :=
  (do
    let extent ← keywords extents
    require (!(← takes (word "circle")))
    let _ ← Reader.optional (word "ellipse")
    return if extent == .word "farthest-corner" then [] else [extent]) <|>
  (do
    let x ← lengthPercentage
    let y ← lengthPercentage
    let _ ← Reader.optional (word "ellipse")
    return [x, y]) <|>
  (do
    word "ellipse"
    (do
      let extent ← keywords extents
      return if extent == .word "farthest-corner" then [] else [extent]) <|>
    (do return [← lengthPercentage, ← lengthPercentage]) <|>
    pure [])

/-- A circle by its extent. -/
def circleOf (extent : Value) : List Value :=
  if extent == .word "farthest-corner" then [.word "circle"] else [.word "circle", extent]

/-- A circle. -/
def circle : Reader (List Value) :=
  (do
    let extent ← keywords extents
    word "circle"
    return circleOf extent) <|>
  (do
    let radius ← length
    let _ ← Reader.optional (word "circle")
    return [radius]) <|>
  (do
    word "circle"
    (do return circleOf (← keywords extents)) <|>
    (do return [← length]) <|>
    pure [.word "circle"])

/-- The place of a round gradient; the center is nothing. -/
def gradientPlace : Reader (List Value) := do
  word "at"
  match ← position with
  | [x, y] => return if isMiddle x && isMiddle y then [] else [.word "at", writePosition [x, y]]
  | _ => fail

/-- Shape and place of a round gradient. -/
def gradientShape : Reader (List Value) := do
  let shape ← Reader.optional (ellipse <|> circle)
  let place ← Reader.optional gradientPlace
  require (shape.isSome || place.isSome)
  return shape.getD [] ++ place.getD []

/-- Start and place of a gradient around a point. -/
def gradientTurn : Reader (List Value) := do
  let start ← Reader.optional (do word "from"; angleOrZero)
  let place ← Reader.optional gradientPlace
  require (start.isSome || place.isSome)
  let start := match start with
    | some a => if a.isZero then [] else [.word "from", a]
    | none => []
  return start ++ place.getD []

/-- The arguments of a gradient: what `front` reads, unless it is missing or empty, and items with
places. -/
def gradientArguments (front : Reader (List Value)) (place : Reader Value)
    (parts : List (List Piece)) : Option (List Value) :=
  let items (before : List Value) (parts : List (List Piece)) : Option (List Value) :=
    (GradientItem.readAll place false parts).map fun items =>
      (if before.isEmpty then [] else [Value.row before]) ++ GradientItem.writeAll none items
  match parts with
  | first :: rest =>
    match whole front first with
    | some before => items before rest
    | none => items [] parts
  | [] => none

/-- A percentage of a turn or an angle. -/
def anglePercentage : Reader Value := computed (Measure.read [.angle] true false)

/-- The prefixes that a gradient may have, and none. -/
def gradientVendors : List String := ["-webkit-", "-moz-", "-o-", ""]

/-- A gradient. -/
def gradient : Reader Value := do
  match ← piece with
  | .function name _ inner =>
    let name := Text.asciiLower name
    let vendor := (gradientVendors.find? (Text.hasPrefix · name)).getD ""
    let parts := splitAtCommas inner
    let arguments? :=
      match String.ofList (name.toList.drop vendor.length) with
      | "linear-gradient" => gradientArguments (line vendor) lengthPercentage parts
      | "repeating-linear-gradient" => gradientArguments (line vendor) lengthPercentage parts
      | "radial-gradient" => gradientArguments gradientShape lengthPercentage parts
      | "repeating-radial-gradient" => gradientArguments gradientShape lengthPercentage parts
      | "conic-gradient" => round vendor parts
      | "repeating-conic-gradient" => round vendor parts
      | _ => none
    return .call name (← ofOption arguments?)
  | _ => fail
where
  /-- The direction, unless it is the usual one. -/
  line (vendor : String) : Reader (List Value) := do
    let v ← gradientLine vendor
    return if isUsualLine v then [] else [v]
  /-- The arguments of a gradient around a point, which no vendor has. -/
  round (vendor : String) (parts : List (List Piece)) : Option (List Value) :=
    if vendor.isEmpty then gradientArguments gradientTurn anglePercentage parts else none

/-! ## Choices by resolution -/

/-- So many dots to a pixel, in the unit that every browser knows in a choice. -/
def dotsPerPixel (q : Rat) : Value := .word (Decimal.write q ++ "x")

/-- The resolution of an option. -/
def optionResolution : Reader Value := do
  match ← computed (Measure.read [.resolution] false false) with
  | .measure (.quantity q unit) =>
    return if unit = "dppx" ∨ unit = "x" then dotsPerPixel q else .measure (.quantity q unit)
  | v => return v

/-- The type of the file that an image is in. -/
def fileType : Reader Value := callOf "type" (do return .call "type" [← string])

/-- An image of a choice with its resolution and type. A plain address is a string. -/
def imageOption : Reader Value := do
  let image ← string <|> (Value.string <$> Reader.url) <|> gradient
  let before ← Reader.optional optionResolution
  let type ← Reader.optional fileType
  let behind ← if before.isSome then pure none else Reader.optional optionResolution
  let size := (before.or behind).getD (dotsPerPixel 1)
  return .row (image :: size :: type.toList)

/-- The name of a choice by resolution. -/
def choiceName : String := "image-set"

/-- The name by which some browsers know it. -/
def olderChoiceName : String := "-webkit-image-set"

/-- An option as the older choice has it: an address is no string there. -/
def olderOption : Value → Value
  | .row (.string s :: more) => .row (.url s :: more)
  | v => v

/-- A choice of images by resolution. -/
def imageChoice : Reader Value := call fun name => do
  let options ← commaList imageOption
  if name = choiceName then return .call choiceName options
  else if name = olderChoiceName then return .call olderChoiceName (options.map olderOption)
  else fail

/-- An image. -/
def image : Reader Value := keyword "none" <|> url <|> gradient <|> imageChoice

/-- A choice of images under its older name. -/
def olderImage : Value → Value
  | .call name options =>
    if name = choiceName then .call olderChoiceName (options.map olderOption)
    else .call name options
  | v => v

/-- The images with all choices under their older names, if there is a choice among them. -/
def olderImages? (images : Value) : Option Value :=
  let older := match images with
    | .list vs => .list (vs.map olderImage)
    | v => olderImage v
  if older == images then none else some older

end LiveBundle.Style.Grammar
