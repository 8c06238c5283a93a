import LiveBundle.Style.Grammar.Basic

/-!
# Grammar of positions

A place in a box, given by a distance from the left or from a named side, and the same from the top.
A position has two parts, one for each direction; the center is kept as a word, a side as a word or,
with its distance, as a row.

* `position` reads the parts, `writePosition` writes them: corners by percentages, a middle height
  not at all.
-/

namespace LiveBundle.Style.Grammar

open Reader

/-- The sides of the horizontal direction. -/
def horizontalSides : List String := ["left", "right"]

/-- The sides of the vertical direction. -/
def verticalSides : List String := ["top", "bottom"]

/-- A side with a distance from it, if there is one. -/
def withOffset (side : Value) : Option Value → Value
  | some offset => .row [side, offset]
  | none => side

/-- The part for one direction. -/
def axisPosition (sides : List String) : Reader Value :=
  keyword "center" <|> lengthPercentage <|> (do
    let side ← keywords sides
    return withOffset side (← Reader.optional lengthPercentage))

/-- The center. -/
def center : Value := .word "center"

/-- A position that starts with the center. -/
def positionFromCenter : Reader (List Value) := do
  let _ ← keyword "center"
  (do return [center, ← axisPosition verticalSides]) <|>
  (do return [← axisPosition horizontalSides, center]) <|>
  pure [center, center]

/-- A position that starts with a distance. -/
def positionFromLength : Reader (List Value) := do
  let x ← lengthPercentage
  (do return [x, ← keywords verticalSides]) <|>
  (do return [x, ← lengthPercentage]) <|>
  (do let _ ← keyword "center"; return [x, center]) <|>
  pure [x, center]

/-- A position that starts with a horizontal side. -/
def positionFromSide : Reader (List Value) := do
  let side ← keywords horizontalSides
  let offset ← Reader.optional lengthPercentage
  (do let _ ← keyword "center"; return [withOffset side offset, center]) <|>
  (do
    let y ← keywords verticalSides
    return [withOffset side offset, withOffset y (← Reader.optional lengthPercentage)]) <|>
  pure [side, offset.getD center]

/-- A position that starts with a vertical side. -/
def positionFromVertical : Reader (List Value) := do
  let side ← keywords verticalSides
  (do
    let offset ← Reader.optional lengthPercentage
    (do
      let x ← keywords horizontalSides
      return [withOffset x (← Reader.optional lengthPercentage), withOffset side offset]) <|>
    (do let _ ← keyword "center"; return [center, withOffset side offset])) <|>
  pure [center, side]

/-- A position: its horizontal and its vertical part. -/
def position : Reader (List Value) :=
  firstOf [positionFromCenter, positionFromLength, positionFromSide, positionFromVertical]

/-- Whether a part is a distance from the right or the bottom. -/
def isFromFarSide : Value → Bool
  | .row [.word side, _] => side == "right" || side == "bottom"
  | _ => false

/-- A part as a distance from the left or top where it is one. -/
def asOffset : Value → Value
  | .word "left" => .zero
  | .word "top" => .zero
  | .word "right" => .percentage 100
  | .word "bottom" => .percentage 100
  | .row [.word "left", offset] => offset
  | .row [.word "top", offset] => offset
  | v => v

/-- Whether a part lies in the middle. -/
def isMiddle (v : Value) : Bool := v == center || v == .percentage 50

/-- The position with the given parts. -/
def writePosition : List Value → Value
  | [x, y] =>
    if isFromFarSide x || isFromFarSide y then
      let side (name : String) (v : Value) : List Value := match v with
        | .row items => items
        | .word w => [.word w]
        | v => [.word name, v]
      .row (side "left" x ++ side "top" y)
    else
      let x' := asOffset x
      let y' := asOffset y
      if isMiddle y' then x'
      else if x' == center then
        match y with
        | .word side => .word side
        | _ => .row [center, y']
      else .row [x', y']
  | vs => .row vs

/-- A position as one value. -/
def positionValue : Reader Value := writePosition <$> position

end LiveBundle.Style.Grammar
