import LiveBundle.Style.Condition.Basic
import LiveBundle.Style.Grammar.Basic

/-!
# Media queries

What a style sheet asks of the medium: its type, and a condition on its features. The features that
are known have values of one type; lengths may lack their unit. A list of queries holds if one of
them does.

* `MediaQuery.list?` reads a list, `MediaQuery.listText` writes it.
* `Condition.ofContainer` reads the condition on the size of a surrounding box.
-/

namespace LiveBundle.Style

/-- The types of values of features. -/
inductive FeatureType where
  | length
  | number
  | integer
  | boolean
  | resolution
  | ratio
  | name
  /-- Of an unknown feature. -/
  | unknown
deriving DecidableEq, Repr

namespace FeatureType

/-- Whether values can be compared. -/
def isOrdered (t : FeatureType) : Bool := t != name && t != boolean

/-- The features of media. -/
def ofMedia? (feature : String) : Option FeatureType :=
  if ["width", "height", "device-width", "device-height"].contains feature then some length
  else if ["aspect-ratio", "device-aspect-ratio"].contains feature then some ratio
  else if ["color", "color-index", "monochrome", "horizontal-viewport-segments",
    "vertical-viewport-segments"].contains feature then some integer
  else if ["-webkit-device-pixel-ratio", "-moz-device-pixel-ratio"].contains feature then
    some number
  else if feature = "resolution" then some resolution
  else if feature = "grid" then some boolean
  else if ["orientation", "overflow-block", "overflow-inline", "display-mode", "scan", "update",
    "environment-blending", "color-gamut", "dynamic-range", "inverted-colors", "pointer",
    "hover", "any-pointer", "any-hover", "nav-controls", "video-color-gamut",
    "video-dynamic-range", "scripting", "prefers-reduced-motion",
    "prefers-reduced-transparency", "prefers-contrast", "forced-colors",
    "prefers-color-scheme", "prefers-reduced-data"].contains feature then some name
  else none

/-- The features of a surrounding box. -/
def ofBox? (feature : String) : Option FeatureType :=
  if ["width", "height", "inline-size", "block-size"].contains feature then some length
  else if feature = "aspect-ratio" then some ratio
  else if feature = "orientation" then some name
  else none

end FeatureType

namespace Feature

open Reader

/-- A ratio; the second number may be left out unless `full` holds. -/
def ratio (full : Bool) : Reader Value := do
  let a ← Grammar.number
  let b ← Reader.optional (do delim '/'; Grammar.number)
  match b with
  | some b => return if b == .number 1 then a else .row [a, .slash, b]
  | none => if full then fail else return a

/-- A resolution. -/
def resolution : Reader Value := Grammar.computed (Measure.read [.resolution] false false)

/-- A value of whatever type. -/
def anyValue : Reader Value :=
  ratio true <|> Grammar.number <|> Grammar.length <|> resolution <|>
  (do return .word (identText (← Reader.name)))

/-- A value of a type. -/
def value (type : FeatureType) : Reader Value :=
  match type with
  | .length => Grammar.length
  | .number => Grammar.number
  | .integer => Grammar.integer
  | .boolean => do
    let n ← wholeNumber
    require (n == 0 || n == 1)
    return .integer n
  | .resolution => resolution
  | .ratio => ratio false
  | .name => do return .word (identText (← Reader.name))
  | .unknown => anyValue
where
  /-- A whole number. -/
  wholeNumber : Reader Int := Grammar.wholeNumber

/-- The name of a feature with the comparison that its front stands for, and its type. -/
def nameOf (typeOf : String → Option FeatureType) :
    Reader (String × Option Comparison × FeatureType) := do
  let written ← Reader.name
  if Text.hasPrefix "--" written then return (identText written, none, .unknown)
  let lower := Text.asciiLower written
  let (vendor, rest) := match Text.stripPrefix? "-webkit-" lower with
    | some rest => ("-webkit-", rest)
    | none => ("", lower)
  let (bound, rest) := match Text.stripPrefix? "min-" rest, Text.stripPrefix? "max-" rest with
    | some rest, _ => (some Comparison.atLeast, rest)
    | none, some rest => (some Comparison.atMost, rest)
    | none, none => (none, rest)
  match typeOf (vendor ++ rest) with
  | some type => return (vendor ++ rest, bound, type)
  | none => return (identText written, none, .unknown)

/-- The sign of a comparison. -/
def sign : Reader Comparison := do
  match ← token with
  | .delim '=' => return .equal
  | .delim '<' => return if ← takes equals then .atMost else .less
  | .delim '>' => return if ← takes equals then .atLeast else .greater
  | _ => fail
where
  /-- An equals sign directly behind. -/
  equals : Reader Unit := delim '='

/-- A test that starts with the name of the feature. -/
def nameFirst (typeOf : String → Option FeatureType) : Reader Feature := do
  let (name, bound, type) ← nameOf typeOf
  if ← atEnd then return .has name
  if ← takes colon then
    let v ← value type
    match bound with
    | some c => require type.isOrdered; return .compare name c v
    | none => return .is name v
  else
    let c ← sign
    require (bound.isNone && type.isOrdered)
    return .compare name c (← value type)

/-- Whether two signs point in the same direction. -/
def agree (a b : Comparison) : Bool := (a.isUpper && b.isUpper) || (a.isLower && b.isLower)

/-- A test that starts with a value. -/
def valueFirst (typeOf : String → Option FeatureType) (type : FeatureType) : Reader Feature := do
  let first ← value type
  let c ← sign
  let (name, bound, _) ← nameOf typeOf
  require (bound.isNone && type.isOrdered)
  if ← atEnd then return .compare name c.opposite first
  let d ← sign
  require (agree c d)
  return .between name c.opposite first d (← value type)

/-- The types that the names among some pieces give. -/
def typeAmong (typeOf : String → Option FeatureType) (ps : List Piece) : FeatureType :=
  let types := ps.filterMap fun
    | .token (.ident name) _ => typeOf (Text.asciiLower name)
    | _ => none
  types.head?.getD .unknown

/-- A test of a feature. -/
def read? (typeOf : String → Option FeatureType) (ps : List Piece) : Option Feature :=
  (whole (nameFirst typeOf) ps).or (whole (valueFirst typeOf (typeAmong typeOf ps)) ps)

end Feature

namespace Condition

/-- The leaves of conditions on features. -/
def featureLeaves (typeOf : String → Option FeatureType) (functions : List String) : Leaves where
  leaf
    | .block .paren inner => (Feature.read? typeOf inner).map feature
    | .function name _ inner =>
      let lower := Text.asciiLower name
      if functions.contains lower then
        some (verbatim (lower ++ "(" ++ verbatimInner inner ++ ")"))
      else none
    | _ => none
  simplifies := true
where
  /-- The arguments of a function as they stand. -/
  verbatimInner (inner : List Piece) : String := sourceOf (trimBlank inner)

/-- A condition on a surrounding box. -/
def ofContainer : Reader Condition :=
  read (featureLeaves FeatureType.ofBox? ["style", "scroll-state"]) true

/-- A condition on the features of media. -/
def ofMedia (allowsOr : Bool) : Reader Condition :=
  read (featureLeaves FeatureType.ofMedia? []) allowsOr

end Condition

/-- A query of the medium. -/
structure MediaQuery where
  /-- `only` or `not`. -/
  qualifier : Option String
  /-- The type; nothing for all types, if it is not named. -/
  type : Option String
  condition : Option Condition

namespace MediaQuery

open Reader

/-- The types of media with a fixed name. -/
def knownTypes : List String := ["all", "print", "screen"]

/-- The type of a medium. -/
def typeName : Reader String := do
  let n ← name
  let lower := Text.asciiLower n
  return if knownTypes.contains lower then lower else n

/-- A query. -/
def read : Reader MediaQuery :=
  (do
    let qualifier ← Reader.optional (oneOf ["only", "not"])
    let type ← typeName
    if ← takes (word "and") then
      return ⟨qualifier, some type, some (← Condition.ofMedia false)⟩
    else return ⟨qualifier, some type, none⟩) <|>
  (do return ⟨none, none, some (← Condition.ofMedia true)⟩)

/-- The queries between commas; a comma at the end is allowed. -/
def list? (ps : List Piece) : Option (List MediaQuery) :=
  let parts := splitAtCommas ps
  let parts := match parts.reverse with
    | last :: rest => if (skipBlank last).isEmpty then rest.reverse else parts
    | [] => []
  parts.mapM (whole read)

/-- Whether no medium fits. -/
def neverHolds (q : MediaQuery) : Bool :=
  q.qualifier == some "not" && q.condition.isNone && (q.type == none || q.type == some "all")

/-- A query as text. -/
def text (q : MediaQuery) : String :=
  let front := (q.qualifier.map (· ++ " ")).getD ""
  let type := match q.type with
    | some type =>
      if type = "all" ∧ q.qualifier = none ∧ q.condition.isSome = true then "" else type
    | none => if q.qualifier.isSome || q.condition.isNone then "all" else ""
  match q.condition with
  | none => front ++ type
  | some c =>
    if type.isEmpty then front ++ c.text
    else front ++ type ++ " and " ++ Condition.bracketed (c.needsBrackets (some true)) c.text

/-- The number of dots to a pixel of a resolution. -/
def dotsPerPixel? : Value → Option Rat
  | .measure (.quantity q unit) =>
    if unit = "dpi" then some (q / 96)
    else if unit = "dpcm" then some (q * 254 / 9600)
    else if unit = "dppx" ∨ unit = "x" then some q
    else none
  | _ => none

/-- A test of the resolution for browsers that know it by another name. -/
def olderFeature : Feature → Feature
  | .is "resolution" v => .is "-webkit-device-pixel-ratio" (older v)
  | .compare "resolution" c v => .compare "-webkit-device-pixel-ratio" c (older v)
  | .between "resolution" c v d w =>
    .between "-webkit-device-pixel-ratio" c (older v) d (older w)
  | .has "resolution" => .has "-webkit-device-pixel-ratio"
  | f => f
where
  /-- A resolution as a number. -/
  older (v : Value) : Value := ((dotsPerPixel? v).map Value.number).getD v

mutual

/-- A condition for browsers that know the resolution by another name. -/
def olderCondition : Condition → Condition
  | .feature f => .feature (olderFeature f)
  | .verbatim text => .verbatim text
  | .negation c => .negation (olderCondition c)
  | .conjunction cs => .conjunction (olderConditions cs)
  | .disjunction cs => .disjunction (olderConditions cs)

/-- Conditions for browsers that know the resolution by another name. -/
def olderConditions : List Condition → List Condition
  | [] => []
  | c :: cs => olderCondition c :: olderConditions cs

end

/-- The text of a list of queries. A query of the resolution has one with its other name in front.
-/
def listText (qs : List MediaQuery) : String :=
  if qs.isEmpty then "not all"
  else
    let texts := qs.map text
    Text.joinWith ", " (qs.flatMap fun q =>
      let older := { q with condition := q.condition.map olderCondition }
      if texts.contains older.text then [q.text] else [older.text, q.text])

end MediaQuery

end LiveBundle.Style
