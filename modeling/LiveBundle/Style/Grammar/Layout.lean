import LiveBundle.Style.Grammar.Basic

/-!
# Layout

The properties that arrange boxes: the kind of a box, its place, flexible boxes, alignment and
grids.
-/

namespace LiveBundle.Style.Grammar

open Reader

/-! ## Kinds of boxes -/

/-- The kinds of boxes that have one word. -/
def displayWords : List String := ["none", "contents", "table-row-group", "table-header-group",
  "table-footer-group", "table-row", "table-cell", "table-column-group", "table-column",
  "table-caption", "ruby-base", "ruby-text", "ruby-base-container", "ruby-text-container",
  "inline-block", "inline-table", "inline-flex", "inline-grid", "-webkit-box",
  "-webkit-inline-box", "-webkit-flex", "-webkit-inline-flex", "-ms-flexbox",
  "-ms-inline-flexbox", "-moz-box", "-moz-inline-box"]

/-- What a box is to its surroundings and to its contents. -/
def displayPair : Reader Value := do
  match ← anyOrder [keywords ["block", "inline", "run-in"],
      keywords ["flow", "flow-root", "table", "flex", "grid", "ruby"], keyword "list-item"] with
  | [outside, inside, item] =>
    let inside' := inside.getD (.word "flow")
    let outside' := outside.getD (if inside' == .word "ruby" then .word "inline" else
      if inside.isNone && item.isNone then .word "inline" else .word "block")
    if item.isSome then
      require (inside' == .word "flow" || inside' == .word "flow-root")
      let front := (if outside' == .word "block" then [] else [outside']) ++
        (if inside' == .word "flow" then [] else [inside'])
      return Value.ofItems (front ++ [.word "list-item"])
    match outside', inside' with
    | .word "inline", .word "flow-root" => return .word "inline-block"
    | .word "inline", .word "table" => return .word "inline-table"
    | .word "inline", .word "flex" => return .word "inline-flex"
    | .word "inline", .word "grid" => return .word "inline-grid"
    | .word "inline", .word "ruby" => return .word "ruby"
    | .word "inline", .word "flow" => return .word "inline"
    | .word "block", .word "flow" => return .word "block"
    | .word "block", .word "ruby" => return .row [.word "block", .word "ruby"]
    | .word "block", v => return v
    | o, .word "flow" => return o
    | o, v => return .row [o, v]
  | _ => fail

/-- The kind of a box. -/
def display : Reader Value := keywords displayWords <|> displayPair

/-- What happens to contents that do not fit. -/
def overflowKind : Reader Value := keywords ["visible", "hidden", "clip", "scroll", "auto"]

/-! ## Flexible boxes -/

/-- The directions of flexible boxes. -/
def flexDirection : Reader Value := keywords ["row", "row-reverse", "column", "column-reverse"]

/-- How flexible boxes are broken. -/
def flexWrap : Reader Value := keywords ["nowrap", "wrap", "wrap-reverse"]

/-- Growth and shrinkage. -/
def growShrink : Reader Value := do
  let grow ← number
  let shrink ← Reader.optional number
  return .list [grow, shrink.getD (.number 1)]

/-- The flexibility of a box: growth, shrinkage and the size to start from. -/
def flex : Form where
  read :=
    (do word "none"; return [.number 0, .number 0, .word "auto"]) <|> (do
      let found ← anyOrder [growShrink, lengthPercentageOrAuto] <|> pure [none, none]
      match found with
      | [factors, basis] =>
        let (grow, shrink) := match factors with
          | some (.list [a, b]) => (a, b)
          | _ => (.number 1, .number 1)
        return [grow, shrink, basis.getD (.percentage 0)]
      | _ => fail)
  write
    | [grow, shrink, basis] =>
      if grow == .number 0 && shrink == .number 0 && basis == .word "auto" then .word "none"
      else
        let zeroPercent := basis == .percentage 0
        let zeroLength := basis.isZero && !zeroPercent
        let plain := grow == .number 1 && shrink == .number 1
        let factors :=
          if !plain || zeroPercent || zeroLength then
            grow :: (if shrink != .number 1 || zeroLength then [shrink] else [])
          else []
        Value.ofItems (factors ++ if zeroPercent then [] else [basis])
    | vs => .row vs

/-! ## Alignment -/

/-- Positions in a container. -/
def contentPositions : List String := ["center", "start", "end", "flex-start", "flex-end"]

/-- Positions of a box itself. -/
def selfPositions : List String := ["center", "start", "end", "self-start", "self-end",
  "flex-start", "flex-end"]

/-- Distributions of space. -/
def distributions : List String := ["space-between", "space-around", "space-evenly", "stretch"]

/-- The line on which letters stand, of the first or the last line. -/
def baseline : Reader Value :=
  keyword "baseline" <|>
  (do word "first"; keyword "baseline") <|>
  (do word "last"; word "baseline"; return .word "last baseline")

/-- A position, that may be marked as safe or not. -/
def safely (ks : List String) : Reader Value := do
  match ← Reader.optional (oneOf ["safe", "unsafe"]) with
  | some mark => return .word (mark ++ " " ++ (← oneOf ks))
  | none => keywords ks

/-- An alignment: some keywords, the letters' line where allowed, and positions. -/
def alignment (ks : List String) (baselines : Bool) (positions : List String) : Reader Value :=
  keywords ks <|> (if baselines then baseline else fail) <|> safely positions

/-- Alignment of contents across the lines. -/
def alignContent : Reader Value := alignment ("normal" :: distributions) true contentPositions

/-- Alignment of contents along the lines. -/
def justifyContent : Reader Value :=
  alignment ("normal" :: distributions) false (contentPositions ++ ["left", "right"])

/-- Alignment of a box across the lines. -/
def alignSelf : Reader Value := alignment ["auto", "normal", "stretch"] true selfPositions

/-- Alignment of a box along the lines. -/
def justifySelf : Reader Value :=
  alignment ["auto", "normal", "stretch"] true (selfPositions ++ ["left", "right"])

/-- Alignment of boxes across the lines. -/
def alignItems : Reader Value := alignment ["normal", "stretch"] true selfPositions

/-- An alignment that is handed down. -/
def legacy : Reader Value :=
  (do
    word "legacy"
    match ← Reader.optional (oneOf ["left", "right", "center"]) with
    | some side => return .word ("legacy " ++ side)
    | none => return .word "legacy") <|>
  (do
    let side ← oneOf ["left", "right", "center"]
    word "legacy"
    return .word ("legacy " ++ side))

/-- Alignment of boxes along the lines. -/
def justifyItems : Reader Value :=
  legacy <|> alignment ["normal", "stretch"] true (selfPositions ++ ["left", "right"])

/-- Two alignments; the second may be left out if it is the same. -/
def place (align justify : Reader Value) : Form where
  read := do
    let first ← align
    let second ← Reader.optional justify
    return [first, second.getD first]
  write vs := Value.ofItems (shortestPair vs)

/-- The space between lines. -/
def gap : Reader Value := keyword "normal" <|> lengthPercentage

/-! ## Grids -/

/-- A share of the space left over. -/
def fraction : Reader Value := Value.measure <$> Measure.read [.fraction] false false

/-- The breadth of a track. -/
def trackBreadth : Reader Value :=
  keywords ["auto", "min-content", "max-content"] <|> fraction <|> lengthPercentage

/-- The size of a track. -/
def trackSize : Reader Value :=
  trackBreadth <|>
  (do
    match ← callOf "minmax" (commaList trackBreadth) with
    | [low, high] => return .call "minmax" [low, high]
    | _ => fail) <|>
  fitContent
where
  /-- `fit-content()`. -/
  fitContent : Reader Value := do
    return .call "fit-content" [← callOf "fit-content" lengthPercentage]

/-- The names of a line. -/
def lineNames : Reader Value := do
  let names ← bracketed .square (many name)
  return .word ("[" ++ Text.joinWith " " (names.map identText) ++ "]")

/-- A repeated part of a list of tracks. -/
def repeatedTracks : Reader Value := callOf "repeat" do
  let count ← integer <|> keywords ["auto-fill", "auto-fit"]
  comma
  let items ← many1 (lineNames <|> trackSize)
  return .call "repeat" [count, Value.ofItems items]

/-- A list of tracks. -/
def trackList : Reader Value :=
  keyword "none" <|>
    (do return Value.ofItems (← many1 (lineNames <|> repeatedTracks <|> trackSize)))

/-- The cells of a row of named areas; a run of points is an empty cell. -/
def areaCells : List Char → List (List Char)
  | s => (Text.fields ' ' (s.map fun c => if Text.isBlank c then ' ' else c)).filterMap fun cell =>
    if cell.isEmpty then none else if cell.all (· == '.') then some ['.'] else some cell

/-- The rows of named areas. -/
def templateAreas : Reader (List Value) :=
  (do return [← keyword "none"]) <|> (do
    let rows ← many1 Reader.string
    return rows.map fun row =>
      .string (String.ofList (Text.join [' '] (areaCells row.toList))))

/-- How boxes without a place fill a grid. -/
def autoFlow : Reader Value := do
  match ← anyOrder [keywords ["row", "column"], keyword "dense"] with
  | [direction, dense] =>
    let direction := direction.getD (.word "row")
    match dense with
    | none => return direction
    | some d => return if direction == .word "row" then d else .row [direction, d]
  | _ => fail

/-- A line of a grid. -/
def gridLine : Reader Value :=
  keyword "auto" <|>
  (do
    match ← anyOrder [keyword "span", integer, customIdent] with
    | [some _, index, name] =>
      let index := if index == some (.number 1) && name.isSome then none else index
      match index, name with
      | none, none => return .row [.word "span", .number 1]
      | index, name => return .row ([.word "span"] ++ index.toList ++ name.toList)
    | [none, index, name] =>
      match index, name with
      | some i, some n => return .row [i, n]
      | some i, none => return i
      | none, some n => return n
      | none, none => fail
    | _ => fail)

/-- Whether a line is given by a name alone. -/
def isAreaName : Value → Bool
  | .word w => w != "auto"
  | _ => false

/-- The end that belongs to a start without one. -/
def usualEnd (start : Value) : Value := if isAreaName start then start else .word "auto"

/-- The place of a box in one direction: start and end. -/
def gridSpan : Form where
  read := do
    let start ← gridLine
    let stop ← Reader.optional (do delim '/'; gridLine)
    return [start, stop.getD (usualEnd start)]
  write
    | [start, stop] => if stop == usualEnd start then start else .row [start, .slash, stop]
    | vs => .row vs

/-- The place of a box in both directions: the starts of row and column, then the ends. -/
def gridArea : Form where
  read := do
    let rowStart ← gridLine
    let columnStart ← Reader.optional (do delim '/'; gridLine)
    let rowEnd ← if columnStart.isSome then Reader.optional (do delim '/'; gridLine) else pure none
    let columnEnd ← if rowEnd.isSome then Reader.optional (do delim '/'; gridLine) else pure none
    let columnStart := columnStart.getD (usualEnd rowStart)
    return [rowStart, columnStart, rowEnd.getD (usualEnd rowStart),
      columnEnd.getD (usualEnd columnStart)]
  write
    | [rowStart, columnStart, rowEnd, columnEnd] =>
      let omitsColumnEnd := columnEnd == usualEnd columnStart
      let omitsRowEnd := omitsColumnEnd && rowEnd == usualEnd rowStart
      let omitsColumnStart := omitsRowEnd && columnStart == usualEnd rowStart
      Value.ofItems ([rowStart] ++ (if omitsColumnStart then [] else [.slash, columnStart]) ++
        (if omitsRowEnd then [] else [.slash, rowEnd]) ++
        (if omitsColumnEnd then [] else [.slash, columnEnd]))
    | vs => .row vs

/-! ## The table -/

/-- The forms of the properties of layout. -/
def layoutForms : Form.Table := [
  ("display", .single display),
  ("visibility", .ofKeywords ["visible", "hidden", "collapse"]),
  ("position", .ofKeywords ["static", "relative", "absolute", "sticky", "-webkit-sticky",
    "fixed"]),
  ("overflow", .pair overflowKind), ("overflow-x", .single overflowKind),
  ("overflow-y", .single overflowKind),
  ("z-index", .single (keyword "auto" <|> integer)),
  ("flex-direction", .single flexDirection), ("flex-wrap", .single flexWrap),
  ("flex-flow", .anyOrder [flexDirection, flexWrap] [.word "row", .word "nowrap"] 0),
  ("flex", flex), ("flex-grow", .single number), ("flex-shrink", .single number),
  ("flex-basis", .single lengthPercentageOrAuto), ("order", .single integer),
  ("align-content", .single alignContent), ("justify-content", .single justifyContent),
  ("place-content", place alignContent justifyContent),
  ("align-self", .single alignSelf), ("justify-self", .single justifySelf),
  ("place-self", place alignSelf justifySelf),
  ("align-items", .single alignItems), ("justify-items", .single justifyItems),
  ("place-items", place alignItems justifyItems),
  ("row-gap", .single gap), ("column-gap", .single gap), ("gap", .pair gap),
  ("grid-template-columns", .single trackList), ("grid-template-rows", .single trackList),
  ("grid-auto-columns", .single (do return Value.ofItems (← many1 trackSize))),
  ("grid-auto-rows", .single (do return Value.ofItems (← many1 trackSize))),
  ("grid-auto-flow", .single autoFlow),
  ("grid-template-areas", { read := templateAreas }),
  ("grid-row-start", .single gridLine), ("grid-row-end", .single gridLine),
  ("grid-column-start", .single gridLine), ("grid-column-end", .single gridLine),
  ("grid-row", gridSpan), ("grid-column", gridSpan), ("grid-area", gridArea),
  ("container-type", .ofKeywords ["normal", "inline-size", "size", "scroll-state"]),
  ("container-name", .single containerName),
  ("container", container)]
where
  /-- The names of a container. -/
  containerName : Reader Value :=
    keyword "none" <|> (do
      let names ← many1 name
      require (!names.any fun n =>
        ["none", "and", "not", "or"].contains (Text.asciiLower n))
      return Value.ofItems (names.map fun n => .word (identText n)))
  /-- Names and kind of a container. -/
  container : Form := {
    read := do
      let names ← containerName
      let kind ← Reader.optional (do
        delim '/'; keywords ["normal", "inline-size", "size", "scroll-state"])
      return [names, kind.getD (.word "normal")]
    write := fun
      | [names, kind] => if kind == .word "normal" then names else .row [names, .slash, kind]
      | vs => .row vs }

end LiveBundle.Style.Grammar
