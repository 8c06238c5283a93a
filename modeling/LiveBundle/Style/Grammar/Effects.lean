import LiveBundle.Style.Grammar.Box

/-!
# Colors, shadows, filters, drawings and masks

The properties that change how a box is painted, and those of vector drawings. A mask is made of
layers like a background: images with a place, a size and a repetition, the boxes that they refer
to, how they are put together and what of them counts. The image of a layer is always written,
everything else only if it is not usual.

The shapes to which a box can be cut are rectangles, circles, ellipses and polygons. What has its
usual value is not written: a radius up to the closest side, a place in the middle, square corners,
and the rule of filling by which every point inside counts.

* `shape` reads a shape, `clipPath` a shape with the box that it refers to.
* `effectForms` is the table of the properties, `maskForms` that of masks.
-/

namespace LiveBundle.Style.Grammar

open Reader

/-! ## Shapes -/

/-- A radius. -/
def shapeRadius : Reader Value := keywords ["closest-side", "farthest-side"] <|> lengthPercentage

/-- The radius that reaches to the closest side. -/
def usualRadius : Value := .word "closest-side"

/-- The place of a shape; the middle is nothing. -/
def shapePlace : Reader (List Value) :=
  (do
    word "at"
    match ← position with
    | [x, y] => return if isMiddle x && isMiddle y then [] else [.word "at", writePosition [x, y]]
    | _ => fail) <|>
  pure []

/-- The one argument of a function, or none. -/
def oneArgument : List Value → List Value
  | [] => []
  | vs => [Value.ofItems vs]

/-- The arguments of a circle. -/
def circleArguments : Reader (List Value) := do
  let radius := (← Reader.optional shapeRadius).getD usualRadius
  return oneArgument ((if radius == usualRadius then [] else [radius]) ++ (← shapePlace))

/-- The arguments of an ellipse. -/
def ellipseArguments : Reader (List Value) := do
  let width := (← Reader.optional shapeRadius).getD usualRadius
  let height := (← Reader.optional shapeRadius).getD usualRadius
  let radii := if width == usualRadius && height == usualRadius then [] else [width, height]
  return oneArgument (radii ++ (← shapePlace))

/-- The arguments of a rectangle: the distances from the sides, and the radii of its corners. -/
def insetArguments : Reader (List Value) := do
  let edges ← sides lengthPercentage
  let corners ← Reader.optional (do
    word "round"
    borderRadius.read)
  let rounding := match corners.map borderRadius.write with
    | some v => if v.isZero then [] else [.word "round", v]
    | none => []
  return [.row (shortestSides edges ++ rounding)]

/-- The corner of a polygon. -/
def corner : Reader Value := do return .row [← lengthPercentage, ← lengthPercentage]

/-- The arguments of a polygon. -/
def polygonArguments : Reader (List Value) := do
  let rule ← Reader.optional (do
    let rule ← keywords ["nonzero", "evenodd"]
    comma
    return rule)
  return (rule.filter (· != .word "nonzero")).toList ++ (← commaList corner)

/-- A shape. -/
def shape : Reader Value := call fun name =>
  match name with
  | "circle" => Value.call name <$> circleArguments
  | "ellipse" => Value.call name <$> ellipseArguments
  | "inset" => Value.call name <$> insetArguments
  | "polygon" => Value.call name <$> polygonArguments
  | _ => fail

/-- The boxes to which a shape can refer. -/
def geometryBoxes : List String := ["border-box", "padding-box", "content-box", "margin-box",
  "fill-box", "stroke-box", "view-box"]

/-- A box to which a shape can refer. -/
def geometryBox : Reader Value := keywords geometryBoxes

/-- A shape with its box; the usual one is not written. -/
def shapeInBox (shape box : Value) : Value :=
  Value.ofItems (shape :: if box == .word "border-box" then [] else [box])

/-- To what a box is cut. -/
def clipPath : Reader Value :=
  keyword "none" <|> url <|>
  (do
    let s ← shape
    return shapeInBox s ((← Reader.optional geometryBox).getD (.word "border-box"))) <|>
  (do
    let box ← geometryBox
    return match ← Reader.optional shape with
      | some s => shapeInBox s box
      | none => box)

/-! ## Shadows -/

/-- Offsets, blur and spread of a shadow. -/
def shadowLengths : Reader Value := do
  let x ← length
  let y ← length
  let blur ← Reader.optional length
  let spread ← if blur.isSome then Reader.optional length else pure none
  let blur := blur.getD .zero
  let spread := spread.getD .zero
  return .row ([x, y] ++
    (if blur.isZero && spread.isZero then [] else [blur]) ++
    (if spread.isZero then [] else [spread]))

/-- A shadow of a box. -/
def boxShadow : Reader Value := do
  match ← anyOrder [keyword "inset", shadowLengths, color] with
  | [inset, some lengths, c] =>
    return .row (inset.toList ++ lengths.items ++
      (c.filter (· != .color .current)).toList)
  | _ => fail

/-! ## Filters -/

/-- Values that may be missing or usual; both are written as nothing. -/
def unlessUsual (usual : Value → Bool) (p : Reader Value) : Reader (List Value) := do
  let v ← Reader.optional p
  return (v.filter fun v => !usual v).toList

/-- An amount; a percentage counts as the number it stands for. -/
def amount : Reader Value := Value.number <$> share

/-- The shadow of what is visible. -/
def dropShadow : Reader Value := do
  let before ← Reader.optional color
  let x ← length
  let y ← length
  let blur ← Reader.optional length
  let behind ← if before.isSome then pure none else Reader.optional color
  return .row ([x, y] ++ (blur.filter fun b => !b.isZero).toList ++
    ((before.or behind).filter (· != .color .current)).toList)

/-- A filter. -/
def filter : Reader Value :=
  Grammar.url <|> (do
    match ← piece with
    | .function name _ inner =>
      let name := Text.asciiLower name
      let arguments : Reader (List Value) :=
        if name = "blur" then unlessUsual Value.isZero length
        else if name = "hue-rotate" then unlessUsual Value.isZero angleOrZero
        else if name = "drop-shadow" then do return [← dropShadow]
        else if ["brightness", "contrast", "grayscale", "invert", "opacity", "saturate",
          "sepia"].contains name then unlessUsual (· == .number 1) amount
        else fail
      return .call name (← inside inner arguments)
    | _ => fail)

/-- Filters one after the other. -/
def filters : Reader Value :=
  keyword "none" <|> (do return Value.ofItems (← many1 filter))

/-! ## Drawings -/

/-- What a shape is painted with. -/
def paint : Reader Value :=
  keywords ["none", "context-fill", "context-stroke"] <|> color <|> (do
    let address ← Grammar.url
    let fallback ← Reader.optional (keyword "none" <|> color)
    return Value.ofItems (address :: fallback.toList))

/-- A marker at a point of a line. -/
def marker : Reader Value := keyword "none" <|> Grammar.url

/-- The lengths of dashes and gaps. -/
def dashes : Reader Value :=
  keyword "none" <|> (do
    let first ← lengthPercentage
    let more ← many (do let _ ← Reader.optional comma; lengthPercentage)
    return Value.ofItems (first :: more))

/-! ## The table -/

/-- The forms of the properties of painting and drawing. -/
def effectForms : Form.Table := [
  ("color", .single color), ("opacity", .single Grammar.opacity),
  ("box-shadow", .single (listOf boxShadow)),
  ("filter", .single filters), ("backdrop-filter", .single filters),
  ("print-color-adjust", .ofKeywords ["economy", "exact"]),
  ("clip-path", .single clipPath),
  ("clip-rule", .ofKeywords ["nonzero", "evenodd"]),
  ("fill", .single paint), ("fill-rule", .ofKeywords ["nonzero", "evenodd"]),
  ("fill-opacity", .single Grammar.opacity),
  ("stroke", .single paint), ("stroke-opacity", .single Grammar.opacity),
  ("stroke-width", .single lengthPercentage),
  ("stroke-linecap", .ofKeywords ["butt", "round", "square"]),
  ("stroke-linejoin", .ofKeywords ["miter", "miter-clip", "round", "bevel", "arcs"]),
  ("stroke-miterlimit", .single number), ("stroke-dasharray", .single dashes),
  ("stroke-dashoffset", .single lengthPercentage),
  ("marker", .single marker), ("marker-start", .single marker),
  ("marker-mid", .single marker), ("marker-end", .single marker),
  ("color-interpolation", .ofKeywords ["auto", "srgb", "linearrgb"]),
  ("color-interpolation-filters", .ofKeywords ["auto", "srgb", "linearrgb"]),
  ("color-rendering", .ofKeywords ["auto", "optimizespeed", "optimizequality"]),
  ("shape-rendering", .ofKeywords ["auto", "optimizespeed", "crispedges",
    "geometricprecision"]),
  ("text-rendering", .ofKeywords ["auto", "optimizespeed", "optimizelegibility",
    "geometricprecision"]),
  ("image-rendering", .ofKeywords ["auto", "optimizespeed", "optimizequality"])]

/-! ## Masks -/

/-- To what a layer is cut. -/
def maskClip : Reader Value := keywords ("no-clip" :: geometryBoxes)

/-- How a layer is put together with those below it. -/
def maskComposite : Reader Value := keywords ["add", "subtract", "intersect", "exclude"]

/-- What of a layer counts. -/
def maskMode : Reader Value := keywords ["luminance", "alpha", "match-source"]

/-- The usual parts of a layer: image, place, size, repetition, clip, origin, composition, mode. -/
def usualMask : List Value := [
  .word "none", writePosition [.percentage 0, .percentage 0], .word "auto", .word "repeat",
  .word "border-box", .word "border-box", .word "add", .word "match-source"]

/-- A layer of a mask. What it is cut to is its origin if nothing else is said. -/
def maskLayer : Reader (List Value) := do
  match ← anyOrder [image, placeAndSize, backgroundRepeat, geometryBox, maskClip, maskComposite,
    maskMode] with
  | [image, place, fill, origin, clip, composite, mode] =>
    let (place, size) := match place with
      | some (.list [x, y, size]) => (some (writePosition [x, y]), some size)
      | _ => (none, none)
    return withDefaults usualMask
      [image, place, size, fill, clip.or origin, origin, composite, mode]
  | _ => fail

/-- A layer as one value. -/
def writeMaskLayer : List Value → Value
  | [image, place, size, fill, clip, origin, composite, mode] =>
    let isUsual (v : Value) (index : Nat) : Bool := usualMask[index]? == some v
    let unlessUsual (v : Value) (index : Nat) : List Value := if isUsual v index then [] else [v]
    Value.ofItems ([image] ++
      (if isUsual place 1 && isUsual size 2 then []
        else place :: if isUsual size 2 then [] else [.slash, size]) ++
      unlessUsual fill 3 ++
      (if isUsual origin 5 && isUsual clip 4 then []
        else origin :: if clip == origin then [] else [clip]) ++
      unlessUsual composite 6 ++ unlessUsual mode 7)
  | vs => .row vs

/-- The forms of the properties of masks. -/
def maskForms : Form.Table := [
  ("mask", .layers 8 maskLayer writeMaskLayer), ("mask-image", .layered image),
  ("mask-position", .layered positionValue), ("mask-size", .layered backgroundSize),
  ("mask-repeat", .layered backgroundRepeat), ("mask-clip", .layered maskClip),
  ("mask-origin", .layered geometryBox), ("mask-composite", .layered maskComposite),
  ("mask-mode", .layered maskMode),
  ("mask-source-type", .layered (keywords ["auto", "luminance", "alpha"]))]

end LiveBundle.Style.Grammar
