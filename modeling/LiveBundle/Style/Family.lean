import LiveBundle.Style.Declaration

/-!
# Families of properties

Properties that have a common shorthand form a family. What the declarations of a block set in a
family is collected in slots, one for each longhand, and written in the shortest way: as the
shorthand where all of its parts are set, else one by one.

* A `Family` says which slots a property fills, and how filled slots are written.
* `families` are all families, in the order in which they are written.
-/

namespace LiveBundle.Style

/-- What is known of a longhand: its value and the prefixes under which it was given. -/
structure Slot where
  name : String
  value : Value
  vendors : List Vendor

/-- The filled slots of a family. -/
abbrev Slots := List Slot

namespace Slots

/-- The slot of a longhand. -/
def slot? (slots : Slots) (name : String) : Option Slot := slots.find? (·.name == name)

/-- The value of a longhand. -/
def value? (slots : Slots) (name : String) : Option Value := (slots.slot? name).map (·.value)

/-- The slots of all of some longhands. -/
def all? (slots : Slots) (names : List String) : Option (List Slot) := names.mapM slots.slot?

/-- The values of all of some longhands. -/
def values? (slots : Slots) (names : List String) : Option (List Value) :=
  names.mapM slots.value?

/-- Sets a longhand. A value that is there under another prefix keeps it. -/
def put (slots : Slots) (name : String) (value : Value) (vendors : List Vendor) : Slots :=
  match slots.slot? name with
  | some old =>
    slots.map fun s =>
      if s.name = name then ⟨name, value, Vendor.union old.vendors vendors⟩ else s
  | none => slots ++ [⟨name, value, vendors⟩]

end Slots

/-- A declaration of a property with its parts, under the prefixes that are needed. -/
def declared (base : String) (vendors : List Vendor) (parts : List Value) : Declaration :=
  .known ⟨base, Property.written base vendors⟩ parts

/-- A longhand by itself. -/
def Slot.declaration (s : Slot) : Declaration := declared s.name s.vendors [s.value]

/-- The longhands that are set, one by one. -/
def singles (slots : Slots) (names : List String) : List Declaration :=
  (names.filterMap slots.slot?).map Slot.declaration

/-- The shorthand of longhands if all are set under the same prefixes. -/
def shorthand? (slots : Slots) (shorthand : String) (names : List String) : Option Declaration :=
  match slots.all? names with
  | some (first :: rest) =>
    if rest.all (·.vendors == first.vendors) then
      some (declared shorthand first.vendors ((first :: rest).map (·.value)))
    else none
  | _ => none

/-- The shorthand if possible, else the longhands, those in `order`. -/
def shorthandOr (slots : Slots) (shorthand : String) (names order : List String) :
    List Declaration :=
  match shorthand? slots shorthand names with
  | some d => [d]
  | none => singles slots order

/-- A family of properties. -/
structure Family where
  /-- The slots, each a property of its own. -/
  longhands : List String
  /-- The shorthands with the slots that they fill, each from the part with the index. -/
  shorthands : List (String × List (String × Nat)) := []
  /-- The shorthands that empty all other slots. -/
  resets : List String := []
  /-- The longhands that follow the direction of text; they are not collected together with the
  others. -/
  flowRelative : List String := []
  /-- The shortest declarations that fill the slots. -/
  write : Slots → List Declaration

namespace Family

/-- Whether a property belongs to the family. -/
def owns (f : Family) (base : String) : Bool :=
  f.longhands.contains base || f.shorthands.any (·.1 == base)

/-- The slots that a property fills, with the indexes of the parts. -/
def targets (f : Family) (base : String) : List (String × Nat) :=
  if f.longhands.contains base then [(base, 0)] else (f.shorthands.lookup base).getD []

end Family

/-- A family whose members have a shorthand with parts in the given order. -/
def simpleFamily (shorthand : String) (names order : List String) : Family where
  longhands := names
  shorthands := [(shorthand, names.zipIdx)]
  write slots := shorthandOr slots shorthand names order

/-- A family of properties that are written one by one. -/
def looseFamily (names : List String) : Family where
  longhands := names
  write slots := singles slots names

/-! ## Sides -/

/-- A family of a property with four sides. -/
def sidesFamily (base : String) (side flow : String → String) : Family where
  longhands := (Grammar.sideNames.map side) ++ (Grammar.flowSideNames.map flow)
  shorthands := [(base, (Grammar.sideNames.map side).zipIdx),
    (base ++ "-block", [flow "block-start", flow "block-end"].zipIdx),
    (base ++ "-inline", [flow "inline-start", flow "inline-end"].zipIdx)]
  resets := [base]
  flowRelative := Grammar.flowSideNames.map flow
  write slots :=
    shorthandOr slots base (Grammar.sideNames.map side)
      (["top", "bottom", "left", "right"].map side) ++
    shorthandOr slots (base ++ "-block") [flow "block-start", flow "block-end"]
      [flow "block-start", flow "block-end"] ++
    shorthandOr slots (base ++ "-inline") [flow "inline-start", flow "inline-end"]
      [flow "inline-start", flow "inline-end"]

/-- The family of a property whose sides have its name in front. -/
def marginFamily (base : String) : Family :=
  sidesFamily base (fun s => base ++ "-" ++ s) (fun s => base ++ "-" ++ s)

/-! ## Sizes -/

/-- The words for the room that is left, the newest one last; no browser knows all of them. -/
def stretchWords : List Value :=
  [.word "-webkit-fill-available", .word "-moz-available", .word "stretch"]

/-- The declarations of a size. -/
def sizeDeclarations (s : Slot) : List Declaration :=
  (if s.value == .word "stretch" then stretchWords else [s.value]).map fun v =>
    declared s.name s.vendors [v]

/-- The sizes of a box, by direction of the page and by direction of text. -/
def sizeFamily : Family where
  longhands := ["width", "min-width", "max-width", "height", "min-height", "max-height",
    "block-size", "min-block-size", "max-block-size", "inline-size", "min-inline-size",
    "max-inline-size"]
  flowRelative := ["block-size", "min-block-size", "max-block-size", "inline-size",
    "min-inline-size", "max-inline-size"]
  write slots := (["width", "min-width", "max-width", "height", "min-height", "max-height",
    "block-size", "min-block-size", "max-block-size", "inline-size", "min-inline-size",
    "max-inline-size"].filterMap slots.slot?).flatMap sizeDeclarations

/-! ## Images -/

/-- The parts with the images at an index reworded for browsers that know choices of images by their
older name only, if there is such a choice. -/
def withOlderImages? (index : Nat) (parts : List Value) : Option (List Value) :=
  ((parts[index]?).bind Grammar.olderImages?).map (parts.set index ·)

/-- A declaration, behind the same with reworded images if that is needed. -/
def withImageFallback (index : Nat) : Declaration → List Declaration
  | .known p parts =>
    ((withOlderImages? index parts).map (Declaration.known p)).toList ++ [.known p parts]
  | d => [d]

/-! ## Backgrounds -/

/-- The longhands of a background, in the order of the parts of the shorthand. -/
def backgroundNames : List String := ["background-color", "background-image",
  "background-position-x", "background-position-y", "background-repeat", "background-size",
  "background-attachment", "background-origin", "background-clip"]

/-- To which box a background is cut; only some browsers can cut it to its text without a prefix. -/
def clipDeclaration (clip : Slot) : Declaration :=
  .known ⟨"background-clip",
    if clip.value.members.contains (.word "text") then Vendor.union clip.vendors [.webkit]
    else clip.vendors⟩ [clip.value]

/-- The declarations of a background whose parts are all set. A background that is cut to its text
takes a declaration of its own. -/
def wholeBackground (values : List Value) (clip : Slot) : List Declaration :=
  if clip.value.members.contains (.word "text") then
    let boxes := Value.list (clip.value.members.map fun _ => .word "border-box")
    withImageFallback 1 (.known ⟨"background", [.nobody]⟩ (values.dropLast ++ [boxes])) ++
      [clipDeclaration clip]
  else withImageFallback 1 (.known ⟨"background", [.nobody]⟩ values)

/-- Backgrounds. -/
def backgroundFamily : Family where
  longhands := backgroundNames
  shorthands := [("background", backgroundNames.zipIdx),
    ("background-position", ["background-position-x", "background-position-y"].zipIdx)]
  resets := ["background"]
  write slots :=
    let whole? := match slots.values? backgroundNames, slots.slot? "background-clip" with
      | some (color :: columns), some clip =>
        if (columns.map fun c => c.members.length).eraseDups.length = 1 then
          some (wholeBackground (color :: columns) clip)
        else none
      | _, _ => none
    match whole? with
    | some ds => ds
    | none =>
      singles slots ["background-color"] ++
      (singles slots ["background-image"]).flatMap (withImageFallback 0) ++
      shorthandOr slots "background-position"
        ["background-position-x", "background-position-y"]
        ["background-position-x", "background-position-y"] ++
      singles slots ["background-repeat", "background-size", "background-attachment",
        "background-origin"] ++
      ((slots.slot? "background-clip").map clipDeclaration).toList

/-! ## Borders -/

/-- What a border has at each side. -/
def borderAspects : List String := ["width", "style", "color"]

/-- The longhand of an aspect at a side. -/
def borderName (side aspect : String) : String := "border-" ++ side ++ "-" ++ aspect

/-- The longhands of a side. -/
def borderSide (side : String) : List String := borderAspects.map (borderName side)

/-- The sides in the order in which they are compared and written. -/
def borderOrder : List String := ["top", "bottom", "left", "right"]

/-- A declaration without prefixes. -/
def plain (base : String) (parts : List Value) : Declaration := .known ⟨base, [.nobody]⟩ parts

/-- What makes a side differ from the border around it: one longhand if that is enough. -/
def sideDifference (border : List Value) (side : String) (other : List Value) : Declaration :=
  match ((borderAspects.zip (border.zip other)).filter fun (_, a, b) => a != b) with
  | [(aspect, _, value)] => plain (borderName side aspect) [value]
  | _ => plain ("border-" ++ side) other

/-- The shorthand of an aspect for all sides. -/
def aspectDeclaration (aspect : String) (top right bottom left : Value) : Declaration :=
  plain ("border-" ++ aspect) [top, right, bottom, left]

/-- The aspects in which the four sides are not all the same. -/
def differingAspects (top right bottom left : List Value) : List Declaration :=
  (borderAspects.zipIdx).filterMap fun (aspect, i) =>
    match top[i]?, right[i]?, bottom[i]?, left[i]? with
    | some t, some r, some b, some l =>
      if t == r && t == b && t == l then none else some (aspectDeclaration aspect t r b l)
    | _, _, _, _ => none

/-- The shorthand for both sides of a line where they differ from the border around. -/
def inlineDifference (border other : List Value) : Declaration :=
  match ((borderAspects.zip (border.zip other)).filter fun (_, a, b) => a != b) with
  | [(aspect, _, value)] => plain ("border-inline-" ++ aspect) [value, value]
  | _ => plain "border-inline" other

/-- The declarations of a border that is set at all sides. -/
def wholeBorder (top bottom left right : List Value) : List Declaration :=
  let border (v : List Value) := plain "border" v
  let differing := differingAspects top right bottom left
  let single? := match differing with
    | [d] => some d
    | _ => none
  if top == bottom && top == left && top == right then [border top]
  else if top == bottom && top == left then [border top, sideDifference top "right" right]
  else if top == bottom && top == right then [border top, sideDifference top "left" left]
  else if left == right && bottom == left then [border left, sideDifference left "top" top]
  else if left == right && top == left then [border left, sideDifference left "bottom" bottom]
  else if top == bottom then
    border top :: match single? with
      | some d => [d]
      | none =>
        if left == right then [inlineDifference top left]
        else [sideDifference top "left" left, sideDifference top "right" right]
  else if left == right then
    border left :: match single? with
      | some d => [d]
      | none => [sideDifference left "top" top, sideDifference left "bottom" bottom]
  else if bottom == right then
    border bottom :: match single? with
      | some d => [d]
      | none => [sideDifference bottom "top" top, sideDifference bottom "left" left]
  else
    match single? with
    | some d => [border top, d]
    | none =>
      [plain "border-top" top, plain "border-bottom" bottom, plain "border-left" left,
        plain "border-right" right]

/-- The slots of a side as declarations. -/
def sideDeclarations (slots : Slots) (side : String) : List Declaration :=
  match slots.values? (borderSide side) with
  | some values => [plain ("border-" ++ side) values]
  | none => singles slots (["style", "width", "color"].map (borderName side))

/-- The physical sides of a border. -/
def writeBorder (slots : Slots) : List Declaration :=
  match borderOrder.mapM fun side => slots.values? (borderSide side) with
  | some [top, bottom, left, right] => wholeBorder top bottom left right
  | _ =>
    let full := ["style", "width", "color"].filter fun aspect =>
      (slots.values? (Grammar.sideNames.map (borderName · aspect))).isSome
    let rest := slots.filter fun s =>
      !full.any fun aspect => Text.hasSuffix ("-" ++ aspect) s.name
    full.filterMap (fun aspect =>
      (slots.values? (Grammar.sideNames.map (borderName · aspect))).map
        (plain ("border-" ++ aspect))) ++
    borderOrder.flatMap (sideDeclarations rest)

/-- The sides of a border along one direction of text. -/
def writeFlowBorder (slots : Slots) (axis : String) : List Declaration :=
  let start := axis ++ "-start"
  let stop := axis ++ "-end"
  match slots.values? (borderSide start), slots.values? (borderSide stop) with
  | some a, some b =>
    if a == b then [plain ("border-" ++ axis) a]
    else [plain ("border-" ++ start) a, plain ("border-" ++ stop) b]
  | _, _ =>
    let full := ["style", "width", "color"].filter fun aspect =>
      (slots.values? [borderName start aspect, borderName stop aspect]).isSome
    let rest := slots.filter fun s =>
      !full.any fun aspect => Text.hasSuffix ("-" ++ aspect) s.name
    full.filterMap (fun aspect =>
      (slots.values? [borderName start aspect, borderName stop aspect]).map
        (plain ("border-" ++ axis ++ "-" ++ aspect))) ++
    sideDeclarations rest start ++ sideDeclarations rest stop

/-- Borders. -/
def borderFamily : Family where
  longhands := (Grammar.sideNames ++ Grammar.flowSideNames).flatMap borderSide
  shorthands :=
    ("border", Grammar.sideNames.flatMap fun side => (borderSide side).zipIdx) ::
    (Grammar.sideNames ++ Grammar.flowSideNames).map (fun side =>
      ("border-" ++ side, (borderSide side).zipIdx)) ++
    borderAspects.map (fun aspect =>
      ("border-" ++ aspect, (Grammar.sideNames.map (borderName · aspect)).zipIdx)) ++
    ["block", "inline"].map (fun axis =>
      ("border-" ++ axis,
        (borderSide (axis ++ "-start")).zipIdx ++ (borderSide (axis ++ "-end")).zipIdx)) ++
    ["block", "inline"].flatMap fun axis => borderAspects.map fun aspect =>
      ("border-" ++ axis ++ "-" ++ aspect,
        [borderName (axis ++ "-start") aspect, borderName (axis ++ "-end") aspect].zipIdx)
  resets := ["border"]
  flowRelative := Grammar.flowSideNames.flatMap borderSide
  write slots :=
    let block := slots.filter (Text.hasPrefix "border-block" ·.name)
    let inline := slots.filter (Text.hasPrefix "border-inline" ·.name)
    if block.isEmpty && inline.isEmpty then writeBorder slots
    else writeFlowBorder block "block" ++ writeFlowBorder inline "inline"

/-- The corners, clockwise from the top left. -/
def cornerNames : List String := ["border-top-left-radius", "border-top-right-radius",
  "border-bottom-right-radius", "border-bottom-left-radius"]

/-- The corners by the direction of text. -/
def flowCornerNames : List String := ["border-start-start-radius", "border-start-end-radius",
  "border-end-end-radius", "border-end-start-radius"]

/-- Radii of corners. -/
def radiusFamily : Family where
  longhands := cornerNames ++ flowCornerNames
  shorthands := [("border-radius", cornerNames.zipIdx)]
  resets := ["border-radius"]
  flowRelative := flowCornerNames
  write slots :=
    shorthandOr slots "border-radius" cornerNames cornerNames ++ singles slots flowCornerNames

/-! ## Flexible boxes, alignment and grids -/

/-- Flexible boxes. -/
def flexFamily : Family where
  longhands := ["flex-direction", "flex-wrap", "flex-grow", "flex-shrink", "flex-basis", "order"]
  shorthands := [("flex-flow", ["flex-direction", "flex-wrap"].zipIdx),
    ("flex", ["flex-grow", "flex-shrink", "flex-basis"].zipIdx)]
  write slots :=
    shorthandOr slots "flex-flow" ["flex-direction", "flex-wrap"]
      ["flex-direction", "flex-wrap"] ++
    shorthandOr slots "flex" ["flex-grow", "flex-shrink", "flex-basis"]
      ["flex-grow", "flex-shrink", "flex-basis"] ++
    singles slots ["order"]

/-- Pairs of longhands with their shorthands. -/
def pairsFamily (pairs : List (String × List String)) : Family where
  longhands := pairs.flatMap (·.2)
  shorthands := pairs.map fun (base, names) => (base, names.zipIdx)
  write slots := pairs.flatMap fun (base, names) => shorthandOr slots base names names

/-- Alignment. -/
def alignFamily : Family := pairsFamily [
  ("place-content", ["align-content", "justify-content"]),
  ("place-self", ["align-self", "justify-self"]),
  ("place-items", ["align-items", "justify-items"]), ("gap", ["row-gap", "column-gap"])]

/-- Grids. -/
def gridFamily : Family where
  longhands := ["grid-template-rows", "grid-template-columns", "grid-template-areas",
    "grid-auto-rows", "grid-auto-columns", "grid-auto-flow", "grid-row-start", "grid-row-end",
    "grid-column-start", "grid-column-end"]
  shorthands := [("grid-row", ["grid-row-start", "grid-row-end"].zipIdx),
    ("grid-column", ["grid-column-start", "grid-column-end"].zipIdx),
    ("grid-area", ["grid-row-start", "grid-column-start", "grid-row-end",
      "grid-column-end"].zipIdx),
    ("grid", []), ("grid-template", [])]
  write slots :=
    let area := shorthand? slots "grid-area"
      ["grid-row-start", "grid-column-start", "grid-row-end", "grid-column-end"]
    let row := shorthand? slots "grid-row" ["grid-row-start", "grid-row-end"]
    let column := shorthand? slots "grid-column" ["grid-column-start", "grid-column-end"]
    (if area.isSome then area.toList else row.toList ++ column.toList) ++
    singles slots ["grid-template-rows", "grid-template-columns"] ++
    (slots.slot? "grid-template-areas").toList.map (fun s =>
      plain "grid-template-areas" s.value.items) ++
    singles slots ["grid-auto-rows", "grid-auto-columns", "grid-auto-flow"] ++
    (if row.isSome then [] else singles slots ["grid-row-start", "grid-row-end"]) ++
    (if column.isSome then [] else singles slots ["grid-column-start", "grid-column-end"])

/-! ## Text -/

/-- Fonts. The families of a font are named once each. -/
def fontFamily : Family where
  longhands := ["font-style", "font-variant-caps", "font-weight", "font-stretch", "font-size",
    "line-height", "font-family"]
  shorthands := [("font", ["font-style", "font-variant-caps", "font-weight", "font-stretch",
    "font-size", "line-height", "font-family"].zipIdx)]
  resets := ["font"]
  write slots :=
    let slots := slots.map fun s =>
      if s.name = "font-family" then { s with value := .list (distinct s.value.members) } else s
    shorthandOr slots "font" ["font-style", "font-variant-caps", "font-weight", "font-stretch",
      "font-size", "line-height", "font-family"] ["font-family", "font-size", "font-style",
      "font-variant-caps", "font-weight", "font-stretch", "line-height"]
where
  /-- The first of each of some values. -/
  distinct (vs : List Value) : List Value :=
    vs.foldl (fun kept v => if kept.contains v then kept else kept ++ [v]) []

/-- The longhands of lines on text. -/
def decorationNames : List String := ["text-decoration-line", "text-decoration-thickness",
  "text-decoration-style", "text-decoration-color"]

/-- Lines on text. The thickness is declared apart, as not every browser knows it in the
shorthand. -/
def decorationFamily : Family where
  longhands := decorationNames
  shorthands := [("text-decoration", decorationNames.zipIdx)]
  resets := ["text-decoration"]
  write slots :=
    match slots.all? decorationNames with
    | some [line, thickness, style, color] =>
      let vendors := Vendor.union line.vendors (Vendor.union style.vendors color.vendors)
      let isUsual := style.value == .word "solid" && color.value == .color .current
      let vendors := if isUsual || !vendors.contains .nobody then vendors
        else [.webkit, .nobody]
      .known ⟨"text-decoration", vendors⟩
        [line.value, .word "auto", style.value, color.value] ::
      (if thickness.value == .word "auto" then [] else [thickness.declaration])
    | _ => singles slots decorationNames

/-! ## Motion -/

/-- The rows of lists of one length or, for shorter ones, of their repetition. -/
def cycled (columns : List Value) (count : Nat) : List Value :=
  columns.map fun column =>
    let vs := column.members
    .list ((List.range count).filterMap fun i => vs[i % vs.length]?)

/-- The names under which a changing property has to be named. -/
def changingNames (property : Value) : List Value :=
  match property with
  | .word name =>
    match Property.ofName? name with
    | some p => (Property.written p.base p.vendors).map fun v => .word (v.mark ++ p.base)
    | none => [property]
  | v => [v]

/-- The longhands of transitions, in the order of the parts of the shorthand. -/
def transitionNames : List String := ["transition-property", "transition-duration",
  "transition-timing-function", "transition-delay"]

/-- Transitions. The list of properties decides how many there are. -/
def transitionFamily : Family where
  longhands := transitionNames
  shorthands := [("transition", transitionNames.zipIdx)]
  resets := ["transition"]
  write slots :=
    let named := slots.map fun s =>
      if s.name = "transition-property" then
        { s with value := .list (s.value.members.flatMap changingNames) }
      else s
    match slots.all? transitionNames with
    | some (property :: rest) =>
      if rest.all (·.vendors == property.vendors) then
        let count := property.value.members.length
        let rows := Grammar.transpose count
          ((property.value :: cycled (rest.map (·.value)) count).map Value.members)
        let expanded := rows.flatMap fun
          | name :: more => (changingNames name).map (· :: more)
          | [] => []
        [declared "transition" property.vendors ((Grammar.transpose 4 expanded).map .list)]
      else singles named ["transition-property", "transition-duration", "transition-delay",
        "transition-timing-function"]
    | _ => singles named ["transition-property", "transition-duration", "transition-delay",
        "transition-timing-function"]

/-- The longhands of animations, in the order of the parts of the shorthand. -/
def animationNames : List String := ["animation-name", "animation-duration",
  "animation-timing-function", "animation-delay", "animation-iteration-count",
  "animation-direction", "animation-fill-mode", "animation-play-state"]

/-- Animations. There is a shorthand only if all lists have the same length. -/
def animationFamily : Family where
  longhands := animationNames
  shorthands := [("animation", animationNames.zipIdx)]
  resets := ["animation"]
  write slots :=
    let order := ["animation-name", "animation-duration", "animation-timing-function",
      "animation-iteration-count", "animation-direction", "animation-play-state",
      "animation-delay", "animation-fill-mode"]
    match slots.values? animationNames with
    | some values =>
      if (values.map fun v => v.members.length).eraseDups.length = 1 then
        shorthandOr slots "animation" animationNames order
      else singles slots order
    | none => singles slots order

/-- Transforms; the shorthand empties the longhands for single motions. -/
def transformFamily : Family where
  longhands := ["transform", "translate", "rotate", "scale"]
  write slots :=
    (slots.slot? "transform").toList.map (fun s =>
      declared "transform" s.vendors s.value.items) ++
    singles slots ["translate", "rotate", "scale"]

/-! ## All families -/

/-- What runs over a box; both directions have a common declaration only if they agree. -/
def overflowFamily : Family where
  longhands := ["overflow-x", "overflow-y"]
  shorthands := [("overflow", ["overflow-x", "overflow-y"].zipIdx)]
  write slots :=
    match slots.values? ["overflow-x", "overflow-y"] with
    | some [x, y] =>
      if x == y then [plain "overflow" [x, y]]
      else singles slots ["overflow-x", "overflow-y"]
    | _ => singles slots ["overflow-x", "overflow-y"]

/-- The longhands of a mask, in the order of the parts of the shorthand. -/
def maskNames : List String := ["mask-image", "mask-position", "mask-size", "mask-repeat",
  "mask-clip", "mask-origin", "mask-composite", "mask-mode"]

/-- The words for compositions and modes that browsers with the prefix `-webkit-` know. -/
def olderMaskWords : List (String × String) := [
  ("add", "source-over"), ("subtract", "source-out"), ("intersect", "source-in"),
  ("exclude", "xor"), ("match-source", "auto")]

/-- Words in the older wording. -/
def olderMaskValue (v : Value) : Value :=
  .list (v.members.map fun
    | .word w => .word ((olderMaskWords.lookup w).getD w)
    | v => v)

/-- The composition under its older name. -/
def olderComposite (v : Value) : Declaration :=
  .known ⟨"mask-composite", [.webkit]⟩ [olderMaskValue v]

/-- The mode under its older name. -/
def olderMode (v : Value) : Declaration :=
  .known ⟨"mask-source-type", [.webkit]⟩ [olderMaskValue v]

/-- The declarations of a mask whose parts are all set. The older shorthand has neither composition
nor mode; they are declared behind it. -/
def wholeMask (vendors : List Vendor) (parts : List Value) (composite mode : Value) :
    List Declaration :=
  let vendors := Property.written "mask" vendors
  let differs (usual : String) (v : Value) : Bool := v.members.any (· != .word usual)
  let apart := (if differs "add" composite then [olderComposite composite] else []) ++
    (if differs "match-source" mode then [olderMode mode] else [])
  if apart.isEmpty || !vendors.contains .webkit then
    [.known ⟨"mask", vendors⟩ (parts ++ [composite, mode])]
  else
    let usual (word : String) (v : Value) : Value := .list (v.members.map fun _ => .word word)
    .known ⟨"mask", [.webkit]⟩ (parts ++ [usual "add" composite, usual "match-source" mode]) ::
      (apart ++ if vendors = [.webkit] then [] else
        [.known ⟨"mask", vendors.filter (· != .webkit)⟩ (parts ++ [composite, mode])])

/-- The declarations of a mask if all of its parts are set, under the same prefixes and for the same
layers. -/
def wholeMask? (slots : Slots) : Option (List Declaration) :=
  match slots.all? maskNames with
  | some [image, place, size, fill, clip, origin, composite, mode] =>
    let parts : List Slot := [image, place, size, fill, clip, origin]
    let layers (s : Slot) : Nat := s.value.members.length
    if parts.all (·.vendors == image.vendors) &&
        ((composite :: mode :: parts).all fun s => layers s == layers image) then
      some (wholeMask image.vendors (parts.map (·.value)) composite.value mode.value)
    else none
  | _ => none

/-- Masks. -/
def maskFamily : Family where
  longhands := maskNames
  shorthands := [("mask", maskNames.zipIdx)]
  write slots :=
    match wholeMask? slots with
    | some ds => ds
    | none =>
      singles slots ["mask-image", "mask-position", "mask-size", "mask-repeat", "mask-clip",
        "mask-origin"] ++
      ((slots.slot? "mask-composite").toList.flatMap fun s =>
        [olderComposite s.value, s.declaration]) ++
      ((slots.slot? "mask-mode").toList.flatMap fun s => [olderMode s.value, s.declaration])

/-- All families. -/
def families : List Family := [
  backgroundFamily, borderFamily,
  simpleFamily "border-image" ["border-image-source", "border-image-slice",
    "border-image-width", "border-image-outset", "border-image-repeat"]
    ["border-image-source", "border-image-slice", "border-image-width", "border-image-outset",
    "border-image-repeat"],
  radiusFamily,
  simpleFamily "outline" ["outline-width", "outline-style", "outline-color"]
    ["outline-width", "outline-style", "outline-color"],
  flexFamily, gridFamily, alignFamily, sizeFamily, marginFamily "margin", marginFamily "padding",
  marginFamily "scroll-margin", marginFamily "scroll-padding", fontFamily, decorationFamily,
  simpleFamily "list-style" ["list-style-type", "list-style-image", "list-style-position"]
    ["list-style-type", "list-style-image", "list-style-position"],
  transitionFamily, animationFamily, looseFamily ["display"], looseFamily ["position"],
  sidesFamily "inset" id ("inset-" ++ ·), overflowFamily, transformFamily,
  looseFamily ["box-shadow"], maskFamily,
  simpleFamily "container" ["container-name", "container-type"]
    ["container-name", "container-type"],
  looseFamily ["color-scheme"]]

end LiveBundle.Style
