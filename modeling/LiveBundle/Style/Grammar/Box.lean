import LiveBundle.Style.Grammar.Basic
import LiveBundle.Style.Grammar.Image

/-!
# Boxes

The properties of sizes, margins, borders, outlines and backgrounds.
-/

namespace LiveBundle.Style.Grammar

open Reader

/-- The four sides. -/
def sideNames : List String := ["top", "right", "bottom", "left"]

/-- The sides by the direction of the text. -/
def flowSideNames : List String := ["block-start", "block-end", "inline-start", "inline-end"]

/-! ## Sizes -/

/-- `fit-content()`. -/
def fitContent : Reader Value := do
  let v ← callOf "fit-content" lengthPercentage
  return .call "fit-content" [v]

/-- A size, or `none` in the place of a size. -/
def size (none : String) : Reader Value :=
  keywords [none, "min-content", "max-content", "fit-content", "-webkit-min-content",
    "-webkit-max-content", "-webkit-fit-content", "-moz-min-content", "-moz-max-content",
    "-moz-fit-content", "stretch", "-webkit-fill-available", "-moz-available", "contain"] <|>
  fitContent <|> lengthPercentage

/-- Two numbers; a second one of one is not written. -/
def ratio : Reader Value := do
  let a ← number
  let b ← Reader.optional (do delim '/'; number)
  return match b with
    | some b => if b == .number 1 then a else .row [a, .slash, b]
    | none => a

/-- `auto`, a ratio, or both. -/
def aspectRatio : Reader Value := do
  match ← anyOrder [keyword "auto", ratio] with
  | [auto, ratio] => return Value.ofItems (auto.toList ++ ratio.toList)
  | _ => fail

/-! ## Borders -/

/-- The thickness of a border. -/
def borderWidth : Reader Value := keywords ["thin", "medium", "thick"] <|> length

/-- The styles of borders. -/
def borderStyles : List String := ["none", "hidden", "inset", "groove", "outset", "ridge",
  "dotted", "dashed", "solid", "double"]

/-- The usual parts of a border. -/
def usualBorder : List Value := [.word "medium", .word "none", .color .current]

/-- Thickness, style and color. -/
def border (style : Reader Value) : Form := .anyOrder [borderWidth, style, color] usualBorder 1

/-- The style of a border. -/
def borderStyle : Reader Value := keywords borderStyles

/-- The style of an outline. -/
def outlineStyle : Reader Value := keywords ("auto" :: borderStyles)

/-- The radii of a corner. -/
def cornerRadius : Reader Value := do
  return Value.ofItems (shortestPair (← pair lengthPercentage))

/-- The two radii of a corner. -/
def radii (v : Value) : Value × Value :=
  match v with
  | .row [a, b] => (a, b)
  | v => (v, v)

/-- The radii of four corners, clockwise from the top left. -/
def borderRadius : Form where
  read := do
    let widths ← sides lengthPercentage
    let heights ← Reader.optional (do delim '/'; sides lengthPercentage)
    return (widths.zip (heights.getD widths)).map fun (w, h) => Value.ofItems (shortestPair [w, h])
  write vs :=
    let widths := vs.map fun v => (radii v).1
    let heights := vs.map fun v => (radii v).2
    let first := shortestSides widths
    if widths == heights then Value.ofItems first
    else .row (first ++ .slash :: shortestSides heights)

/-- The parts of an image that makes a border. -/
def imageSlice : Reader Value := do
  let before ← takes (word "fill")
  let offsets ← sides numberOrPercentage
  let behind ← if before then pure false else takes (word "fill")
  return Value.ofItems (shortestSides offsets ++
    if before || behind then [.word "fill"] else [])

/-- The four values of a part of a border image. -/
def imageSides (p : Reader Value) : Reader Value := do
  return Value.ofItems (shortestSides (← sides p))

/-- A number or a length. -/
def numberOrLength : Reader Value := number <|> length

/-- The thickness of a border image. -/
def imageWidth : Reader Value := keyword "auto" <|> number <|> lengthPercentage

/-- How the edges of a border image are filled. -/
def imageRepeat : Reader Value := do
  return Value.ofItems (shortestPair
    (← pair (keywords ["stretch", "repeat", "round", "space"])))

/-- Slice, thickness and outset of a border image, with slashes between them. -/
def imageSliceWidthOutset : Reader Value := do
  let slice ← imageSlice
  let more ← Reader.optional (do
    delim '/'
    let width ← Reader.optional (imageSides imageWidth)
    let outset ← Reader.optional (do delim '/'; imageSides numberOrLength)
    require (width.isSome || outset.isSome)
    return [width.getD (.number 1), outset.getD (.number 0)])
  return .list (slice :: more.getD [.number 1, .number 0])

/-- A border image. -/
def borderImage : Form where
  read := do
    match ← anyOrder [imageSliceWidthOutset, image, imageRepeat] with
    | [slice, source, fill] =>
      let usual : Value := .list [.percentage 100, .number 1, .number 0]
      return source.getD (.word "none") :: (slice.getD usual).members ++
        [fill.getD (.word "stretch")]
    | _ => fail
  write
    | [source, slice, width, outset, fill] =>
      let hasWidth := width != .number 1
      let hasOutset := outset != .number 0
      let front := if source == .word "none" then [] else [source]
      let middle :=
        if slice != .percentage 100 || hasWidth || hasOutset then
          slice :: (if hasWidth then [.slash, width] else if hasOutset then [.slash] else []) ++
            (if hasOutset then [.slash, outset] else [])
        else []
      let back := if fill == .word "stretch" then [] else [fill]
      match front ++ middle ++ back with
      | [] => .word "none"
      | vs => Value.ofItems vs
    | vs => .row vs

/-! ## Backgrounds -/

/-- How a background is repeated. -/
def backgroundRepeat : Reader Value :=
  keywords ["repeat-x", "repeat-y"] <|> (do
    match ← pair (keywords ["repeat", "space", "round", "no-repeat"]) with
    | [.word "repeat", .word "no-repeat"] => return .word "repeat-x"
    | [.word "no-repeat", .word "repeat"] => return .word "repeat-y"
    | vs => return Value.ofItems (shortestPair vs))

/-- The size of a background. -/
def backgroundSize : Reader Value :=
  keywords ["cover", "contain"] <|> (do
    let width ← lengthPercentageOrAuto
    let height ← Reader.optional lengthPercentageOrAuto
    return match height with
      | some h => if h == .word "auto" then width else .row [width, h]
      | none => width)

/-- How a background moves. -/
def backgroundAttachment : Reader Value := keywords ["scroll", "fixed", "local"]

/-- The boxes in which a background lies. -/
def backgroundOrigin : Reader Value := keywords ["border-box", "padding-box", "content-box"]

/-- The boxes to which a background is cut. -/
def backgroundClip : Reader Value :=
  keywords ["border-box", "padding-box", "content-box", "border", "text"]

/-- The background that nothing is drawn for. -/
def noColor : Value := .color (.rgba 0 0 0 0)

/-- A place with a size. -/
def placeAndSize : Reader Value := do
  let place ← position
  let size ← Reader.optional (do delim '/'; backgroundSize)
  return .list (place ++ [size.getD (.word "auto")])

/-- A layer of a background. -/
def backgroundLayer : Reader (List Value) := do
  let found ← anyOrder [color, placeAndSize, image, backgroundRepeat, backgroundAttachment,
    backgroundOrigin, backgroundClip] <|> pure [none, none, none, none, none, none, none]
  match found with
  | [color, place, image, fill, attachment, origin, clip] =>
    let (x, y, size) := match place with
      | some (.list [x, y, size]) => (x, y, size)
      | _ => (.percentage 0, .percentage 0, .word "auto")
    return [color.getD noColor, image.getD (.word "none"), x, y, fill.getD (.word "repeat"),
      size, attachment.getD (.word "scroll"), origin.getD (.word "padding-box"),
      (clip.or origin).getD (.word "border-box")]
  | _ => fail

/-- A layer as one value. -/
def writeLayer : List Value → Value
  | [color, image, x, y, fill, size, attachment, origin, clip] =>
    let front := (if color == noColor then [] else [color]) ++
      (if image == .word "none" then [] else [image])
    let place :=
      if x != .percentage 0 || y != .percentage 0 || size != .word "auto" then
        writePosition [x, y] :: (if size == .word "auto" then [] else [.slash, size])
      else []
    let back := (if fill == .word "repeat" then [] else [fill]) ++
      (if attachment == .word "scroll" then [] else [attachment])
    let isBox := clip == .word "padding-box" || clip == .word "content-box"
    let showsOrigin := origin != .word "padding-box" || isBox
    let boxes := (if showsOrigin then [origin] else []) ++
      (if (showsOrigin && clip != origin) || (!showsOrigin && clip != .word "border-box")
        then [clip] else [])
    match front ++ place ++ back ++ boxes with
    | [] => .word "none"
    | vs => Value.ofItems vs
  | vs => .row vs

/-- A background. Its parts are the color of the last layer, and lists of what each layer has. -/
def background : Form where
  read := do
    let layers ← commaList backgroundLayer
    match transpose 9 layers with
    | colors :: columns => return colors.getLast?.getD noColor :: columns.map Value.list
    | [] => fail
  write
    | color :: columns =>
      let rows := transpose (firstMembers columns).length
        (columns.map Value.members)
      let last := rows.length - 1
      Value.ofMembers (rows.zipIdx.map fun (row, i) =>
        writeLayer ((if i = last then color else noColor) :: row))
    | [] => .word "none"

/-- The parts for the place of each layer of a background. -/
def backgroundPosition : Form := .layers 2 position writePosition

/-! ## The table -/

/-- The forms of the properties of boxes. -/
def boxForms : Form.Table :=
  Form.forAll ["width", "height", "min-width", "min-height", "block-size", "inline-size",
    "min-block-size", "min-inline-size"] (.single (size "auto")) ++
  Form.forAll ["max-width", "max-height", "max-block-size", "max-inline-size"]
    (.single (size "none")) ++
  Form.forAll ((sideNames ++ flowSideNames).map ("margin-" ++ ·) ++ sideNames ++
    flowSideNames.map ("inset-" ++ ·) ++
    (sideNames ++ flowSideNames).map ("scroll-padding-" ++ ·) ++
    (sideNames ++ flowSideNames).map ("padding-" ++ ·)) (.single lengthPercentageOrAuto) ++
  Form.forAll ((sideNames ++ flowSideNames).map ("scroll-margin-" ++ ·)) (.single length) ++
  Form.forAll ["margin", "inset", "scroll-padding", "padding"]
    (.sides lengthPercentageOrAuto) ++
  Form.forAll ["margin-block", "margin-inline", "inset-block", "inset-inline",
    "scroll-padding-block", "scroll-padding-inline", "padding-block", "padding-inline"]
    (.pair lengthPercentageOrAuto) ++ [
  ("scroll-margin", .sides length), ("scroll-margin-block", .pair length),
  ("scroll-margin-inline", .pair length),
  ("box-sizing", .ofKeywords ["content-box", "border-box"]),
  ("aspect-ratio", .single aspectRatio),
  ("border-spacing", .pair length)] ++
  Form.forAll ((sideNames ++ flowSideNames).map ("border-" ++ · ++ "-width"))
    (.single borderWidth) ++
  Form.forAll ((sideNames ++ flowSideNames).map ("border-" ++ · ++ "-style"))
    (.single borderStyle) ++
  Form.forAll ((sideNames ++ flowSideNames).map ("border-" ++ · ++ "-color")) (.single color) ++
  Form.forAll (["border", "border-block", "border-inline"] ++
    (sideNames ++ flowSideNames).map ("border-" ++ ·)) (border borderStyle) ++ [
  ("border-width", .sides borderWidth), ("border-style", .sides borderStyle),
  ("border-color", .sides color),
  ("border-block-width", .pair borderWidth), ("border-inline-width", .pair borderWidth),
  ("border-block-style", .pair borderStyle), ("border-inline-style", .pair borderStyle),
  ("border-block-color", .pair color), ("border-inline-color", .pair color),
  ("outline", border outlineStyle), ("outline-width", .single borderWidth),
  ("outline-style", .single outlineStyle), ("outline-color", .single color),
  ("border-radius", borderRadius)] ++
  Form.forAll ["border-top-left-radius", "border-top-right-radius",
    "border-bottom-right-radius", "border-bottom-left-radius", "border-start-start-radius",
    "border-start-end-radius", "border-end-end-radius", "border-end-start-radius"]
    (.single cornerRadius) ++ [
  ("border-image", borderImage), ("border-image-source", .single image),
  ("border-image-slice", .single imageSlice),
  ("border-image-width", .single (imageSides imageWidth)),
  ("border-image-outset", .single (imageSides numberOrLength)),
  ("border-image-repeat", .single imageRepeat),
  ("background", background), ("background-color", .single color),
  ("background-image", .layered image), ("background-position", backgroundPosition),
  ("background-position-x", .layered (axisPosition horizontalSides)),
  ("background-position-y", .layered (axisPosition verticalSides)),
  ("background-repeat", .layered backgroundRepeat), ("background-size", .layered backgroundSize),
  ("background-attachment", .layered backgroundAttachment),
  ("background-origin", .layered backgroundOrigin),
  ("background-clip", .layered backgroundClip)]

end LiveBundle.Style.Grammar
