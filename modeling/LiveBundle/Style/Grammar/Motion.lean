import LiveBundle.Style.Grammar.Basic
import LiveBundle.Style.Grammar.Position

/-!
# Motion

Easing curves, transitions, animations and transforms. A transition or an animation is written with
the parts that differ from the usual ones; the name of an animation comes last, and a part that
could be taken for it is written even if it is the usual one.

* `motionForms` is the table of the properties.
-/

namespace LiveBundle.Style.Grammar

open Reader

/-! ## Easing -/

/-- The curves that have a name. -/
def namedCurves : List (String × List Rat) := [
  ("ease", [1 / 4, 1 / 10, 1 / 4, 1]), ("ease-in", [42 / 100, 0, 1, 1]),
  ("ease-out", [0, 0, 58 / 100, 1]), ("ease-in-out", [42 / 100, 0, 58 / 100, 1])]

/-- A curve through two points. -/
def curve (ns : List Rat) : Value :=
  match namedCurves.find? (·.2 == ns) with
  | some (name, _) => .word name
  | none => .call "cubic-bezier" (ns.map .number)

/-- Some steps of one height; a single one has a name. -/
def steps (count : Int) (place : String) : Value :=
  if count = 1 then .word (if place = "start" then "step-start" else
    if place = "end" then "step-end" else "steps(1, " ++ place ++ ")")
  else if place = "end" then .call "steps" [.integer count]
  else .call "steps" [.integer count, .word place]

/-- The places of the jump of a step. -/
def stepPlaces : List (String × String) := [
  ("start", "start"), ("jump-start", "start"), ("end", "end"), ("jump-end", "end"),
  ("jump-none", "jump-none"), ("jump-both", "jump-both")]

/-- The keywords of easing. -/
def easingWords : List String := ["linear", "ease", "ease-in", "ease-out", "ease-in-out",
  "step-start", "step-end"]

/-- How a motion gains and loses speed. -/
def easing : Reader Value :=
  keywords easingWords <|>
  (do
    let ns ← callOf "cubic-bezier" (commaList rational)
    require (ns.length == 4)
    return curve ns) <|>
  callOf "steps" (do
    let count ← wholeNumber
    let place ← Reader.optional (do comma; lookup stepPlaces)
    return steps count (place.getD "end"))

/-! ## Transitions -/

/-- The name of a property that changes; names with two hyphens keep their case. -/
def changingProperty : Reader Value := do
  let n ← name
  return .word (identText (if Text.hasPrefix "--" n then n else Text.asciiLower n))

/-- The time zero. -/
def noTime : Value := .measure (.quantity 0 "s")

/-- The usual parts of a transition: property, duration, curve and delay. -/
def usualTransition : List Value := [.word "all", noTime, .word "ease", noTime]

/-- The parts of a transition. -/
def transitionLayer : Reader (List Value) := do
  let found ← anyOrder [time, easing, time, changingProperty] <|>
    pure [none, none, none, none]
  match found with
  | [duration, curve, delay, property] =>
    return withDefaults usualTransition [property, duration, curve, delay]
  | _ => fail

/-- A transition as one value. -/
def writeTransition : List Value → Value
  | [property, duration, curve, delay] =>
    Value.ofItems ([property] ++
      (if duration.isZero && delay.isZero then [] else [duration]) ++
      (if curve == .word "ease" then [] else [curve]) ++
      (if delay.isZero then [] else [delay]))
  | vs => .row vs

/-! ## Animations -/

/-- How often an animation runs. -/
def iterations : Reader Value := keyword "infinite" <|> number

/-- In which direction an animation runs. -/
def animationDirections : List String := ["normal", "reverse", "alternate", "alternate-reverse"]

/-- What holds before and behind an animation. -/
def fillModes : List String := ["none", "forwards", "backwards", "both"]

/-- Whether an animation runs. -/
def playStates : List String := ["running", "paused"]

/-- The name of an animation. -/
def animationName : Reader Value :=
  keyword "none" <|> (do
    let s ← Reader.string
    let lower := Text.asciiLower s
    return if lower == "none" || globalKeywords.contains lower then .string s
      else .word (identText s)) <|>
  customIdent

/-- The usual parts of an animation: name, duration, curve, delay, count, direction, fill and state.
-/
def usualAnimation : List Value := [.word "none", noTime, .word "ease", noTime, .number 1,
  .word "normal", .word "none", .word "running"]

/-- The parts of an animation. -/
def animationLayer : Reader (List Value) := do
  let found ← anyOrder [time, easing, time, iterations, keywords animationDirections,
    keywords fillModes, keywords playStates, animationName] <|>
    pure (List.replicate 8 none)
  match found with
  | [duration, curve, delay, count, direction, fill, state, name] =>
    return withDefaults usualAnimation
      [name, duration, curve, delay, count, direction, fill, state]
  | _ => fail

/-- An animation as one value. -/
def writeAnimation : List Value → Value
  | [name, duration, curve, delay, count, direction, fill, state] =>
    match name with
    | .word "none" => name
    | _ =>
      let lower := Text.asciiLower (match name with
        | .word w => w
        | _ => "")
      Value.ofItems (
        (if duration.isZero && delay.isZero then [] else [duration]) ++
        (if curve == .word "ease" && !easingWords.contains lower then [] else [curve]) ++
        (if delay.isZero then [] else [delay]) ++
        (if count == .number 1 && lower != "infinite" then [] else [count]) ++
        (if direction == .word "normal" && !animationDirections.contains lower then []
          else [direction]) ++
        (if fill == .word "none" && (lower == "none" || !fillModes.contains lower) then []
          else [fill]) ++
        (if state == .word "running" && !playStates.contains lower then [] else [state]) ++
        [name])
  | vs => .row vs

/-! ## Transforms -/

/-- One or two values; a second one of zero is not written. -/
def oneOrTwo (p : Reader Value) : Reader (List Value) := do
  let first ← p
  let second ← Reader.optional (do comma; p)
  return match second with
    | some v => if v.isZero then [first] else [first, v]
    | none => [first]

/-- `n` values between commas. -/
def exactlyThese (ps : List (Reader Value)) : Reader (List Value) := fun pieces =>
  let parts := splitAtCommas pieces
  if parts.length = ps.length then
    ((ps.zip parts).mapM fun arg => whole arg.1 arg.2).map (·, [])
  else none

/-- An angle whose zero has no unit. -/
def turn : Reader Value := do
  let v ← angleOrZero
  return if v.isZero then .number 0 else v

/-- A factor; a percentage counts as the number it stands for. -/
def factor : Reader Value := Value.number <$> share

/-- The arguments of a function of a transform, and its name as written. -/
def transformArguments (name : String) : Option (String × Reader (List Value)) :=
  let numbers (n : Nat) := exactlyThese (List.replicate n number)
  match name with
  | "translate" => some ("translate", oneOrTwo lengthPercentage)
  | "translatex" => some ("translateX", exactlyThese [lengthPercentage])
  | "translatey" => some ("translateY", exactlyThese [lengthPercentage])
  | "translatez" => some ("translateZ", exactlyThese [length])
  | "translate3d" => some ("translate3d", exactlyThese [lengthPercentage, lengthPercentage, length])
  | "scale" => some ("scale", do
      let first ← factor
      let second ← Reader.optional (do comma; factor)
      return shortestPair [first, second.getD first])
  | "scalex" => some ("scaleX", exactlyThese [factor])
  | "scaley" => some ("scaleY", exactlyThese [factor])
  | "scalez" => some ("scaleZ", exactlyThese [factor])
  | "scale3d" => some ("scale3d", exactlyThese [factor, factor, factor])
  | "rotate" => some ("rotate", exactlyThese [turn])
  | "rotatex" => some ("rotateX", exactlyThese [turn])
  | "rotatey" => some ("rotateY", exactlyThese [turn])
  | "rotatez" => some ("rotateZ", exactlyThese [turn])
  | "rotate3d" => some ("rotate3d", exactlyThese [number, number, number, turn])
  | "skew" => some ("skew", oneOrTwo turn)
  | "skewx" => some ("skewX", exactlyThese [turn])
  | "skewy" => some ("skewY", exactlyThese [turn])
  | "perspective" => some ("perspective", exactlyThese [length])
  | "matrix" => some ("matrix", numbers 6)
  | "matrix3d" => some ("matrix3d", numbers 16)
  | _ => none

/-- A function of a transform. -/
def transformFunction : Reader Value := do
  match ← piece with
  | .function name _ inner =>
    match transformArguments (Text.asciiLower name) with
    | some (name, p) => return .call name (← inside inner p)
    | none => fail
  | _ => fail

/-- A transform: functions, written without blanks between them. -/
def transform : Form where
  read := (do return [← keyword "none"]) <|> many1 transformFunction
  write
    | [v] => v
    | vs => .word (Text.joinWith "" (vs.map Value.text))

/-- A shift: up to three lengths; zeros at the end are not written. -/
def translate : Reader Value :=
  keyword "none" <|> (do
    let x ← lengthPercentage
    let y ← Reader.optional lengthPercentage
    let z ← if y.isSome then Reader.optional length else pure none
    let y := y.getD .zero
    let z := z.getD .zero
    return if z.isZero then (if y.isZero then x else .row [x, y]) else .row [x, y, z])

/-- A turn: an angle with an axis in front or behind. -/
def rotate : Reader Value :=
  keyword "none" <|> (do
    let axis := (do
      let name ← oneOf ["x", "y", "z"]
      return if name == "z" then [] else [.word name]) <|> (do
      let ns ← many1 number
      require (ns.length == 3)
      return if ns == [.number 0, .number 0, .number 1] then []
        else if ns == [.number 1, .number 0, .number 0] then [.word "x"]
        else if ns == [.number 0, .number 1, .number 0] then [.word "y"]
        else ns)
    let before ← Reader.optional axis
    let a ← angle
    let behind ← if before.isSome then pure none else Reader.optional axis
    return Value.ofItems ((before.or behind).getD [] ++ [a]))

/-- A growth: up to three factors. -/
def scale : Reader Value :=
  keyword "none" <|> (do
    let x ← factor
    let y ← Reader.optional factor
    let z ← if y.isSome then Reader.optional factor else pure none
    let y := y.getD x
    return match z.filter (· != .number 1) with
      | some z => .row [x, y, z]
      | none => Value.ofItems (shortestPair [x, y]))

/-! ## The table -/

/-- The forms of the properties of motion. -/
def motionForms : Form.Table := [
  ("transition-property", .layered changingProperty),
  ("transition-duration", .layered time), ("transition-delay", .layered time),
  ("transition-timing-function", .layered easing),
  ("transition", .layers 4 transitionLayer writeTransition),
  ("animation-name", .layered animationName), ("animation-duration", .layered time),
  ("animation-timing-function", .layered easing),
  ("animation-iteration-count", .layered iterations),
  ("animation-direction", .layered (keywords animationDirections)),
  ("animation-play-state", .layered (keywords playStates)),
  ("animation-delay", .layered time), ("animation-fill-mode", .layered (keywords fillModes)),
  ("animation", .layers 8 animationLayer writeAnimation),
  ("transform", transform),
  ("transform-origin", { read := position, write := writePosition }),
  ("transform-style", .ofKeywords ["flat", "preserve-3d"]),
  ("transform-box", .ofKeywords ["content-box", "border-box", "fill-box", "stroke-box",
    "view-box"]),
  ("backface-visibility", .ofKeywords ["visible", "hidden"]),
  ("perspective", .single (keyword "none" <|> length)),
  ("perspective-origin", { read := position, write := writePosition }),
  ("translate", .single translate), ("rotate", .single rotate), ("scale", .single scale)]

end LiveBundle.Style.Grammar
