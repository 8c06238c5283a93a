import LiveBundle.Style.Block
import LiveBundle.Style.Grammar.Text
import LiveBundle.Style.Lexer

/-!
# Definitions

What rules define apart from declarations for elements: the frames of an animation, the sources of a
font, the form of a property. Each reader gets the pieces of a block in curly brackets.

* `declarations?` reads a block that has nothing but declarations.
* `frames?` reads the frames of an animation, `fontFace?` and `propertyForm?` lines of a definition.
-/

namespace LiveBundle.Style

/-- Whether a piece may stand between two items of a block. -/
def Piece.isFiller : Piece → Bool
  | .token .semicolon _ => true
  | .token (.closing .curly) _ => true
  | p => p.isBlank

/-- The pieces in front of the first semicolon, and those behind it. -/
def splitAtSemicolon : List Piece → List Piece × List Piece
  | [] => ([], [])
  | p :: ps =>
    match p with
    | .token .semicolon _ => ([], ps)
    | _ =>
      let (before, behind) := splitAtSemicolon ps
      (p :: before, behind)

/-- The pieces in front of the first block in curly brackets, the block, and those behind it.
Without a block there is none; a semicolon in front of it counts as the end if `stopsAtSemicolon`
holds. -/
def splitAtBlock (stopsAtSemicolon : Bool) :
    List Piece → List Piece × Option (List Piece × List Piece)
  | [] => ([], none)
  | p :: ps =>
    match p with
    | .block .curly inner => ([], some (inner, ps))
    | p =>
      let stops := match p with
        | .token .semicolon _ => stopsAtSemicolon
        | _ => false
      if stops then ([], none)
      else
        let (before, behind) := splitAtBlock stopsAtSemicolon ps
        (p :: before, behind)

/-- What stands behind the colon of a declaration. -/
def behindColon? (ps : List Piece) : Option (List Piece) :=
  match skipBlank ps with
  | .token .colon _ :: rest => some rest
  | _ => none

/-- The declarations of a block, one by one, as `item` reads them. The first argument bounds their
number. -/
def eachDeclaration {α : Type} (item : String → List Piece → Option α) :
    Nat → List Piece → Option (List α)
  | 0, _ => some []
  | fuel + 1, ps =>
    match ps.dropWhile Piece.isFiller with
    | [] => some []
    | .token (.ident name) _ :: rest =>
      let (declaration, rest) := splitAtSemicolon rest
      match (behindColon? declaration).bind (item name) with
      | some d => (eachDeclaration item fuel rest).map (d :: ·)
      | none => none
    | _ => none

/-- A block that has nothing but declarations. -/
def declarations? (ps : List Piece) : Option Block :=
  (eachDeclaration Declaration.read? ps.length ps).map fun ds =>
    ds.foldl (fun block (d, important) => block.add d important) Block.empty

/-! ## Frames -/

/-- The name of an animation. -/
def animationText : Reader String :=
  (do
    let s ← Reader.string
    let lower := Text.asciiLower s
    return if lower == "none" || Grammar.globalKeywords.contains lower then quoted s
      else identText s) <|>
  (do
    let n ← Reader.name
    let lower := Text.asciiLower n
    Reader.require (lower != "none" && !Grammar.globalKeywords.contains lower)
    return identText n)

/-- The point in time of a frame. -/
def framePoint : Reader String :=
  Reader.oneOf ["from", "to"] <|>
  (do return (← Measure.read [] true false).text) <|>
  (do
    let range ← Reader.oneOf ["cover", "contain", "entry", "exit", "entry-crossing",
      "exit-crossing"]
    return range ++ " " ++ (← Measure.read [] true false).text)

/-- The frames of an animation with the texts of their points. The first argument bounds their
number. -/
def eachFrame : Nat → List Piece → Option (List (String × Block))
  | 0, _ => some []
  | fuel + 1, ps =>
    match ps.dropWhile Piece.isFiller with
    | [] => some []
    | ps =>
      match splitAtBlock false ps with
      | (_, none) => none
      | (points, some (inner, rest)) =>
        match Reader.whole (Reader.commaList framePoint) points, declarations? inner with
        | some texts, some block =>
          (eachFrame fuel rest).map ((Text.joinWith ", " texts, block) :: ·)
        | _, _ => none

/-- The frames of an animation. -/
def frames? (ps : List Piece) : Option (List (String × Block)) := eachFrame ps.length ps

/-! ## Fonts -/

/-- The formats of fonts. -/
def fontFormats : List String := ["woff", "woff2", "truetype", "opentype", "embedded-opentype",
  "collection", "svg"]

/-- The format of a font. -/
def fontFormat : Reader String := do
  let s ← Reader.name <|> Reader.string
  let lower := Text.asciiLower s
  return quoted (if fontFormats.contains lower then lower else s)

/-- Where a font comes from. -/
def fontSource : Reader String :=
  (do
    let address ← Reader.url
    let format ← Reader.optional (Reader.callOf "format" fontFormat)
    let tech ← Reader.optional (Reader.callOf "tech" (Reader.commaList Reader.keyword))
    return Style.address address ++ ((format.map fun f => " format(" ++ f ++ ")").getD "") ++
      (tech.map fun ts => " tech(" ++ Text.joinWith ", " ts ++ ")").getD "") <|>
  (do return "local(" ++ (← Reader.callOf "local" Grammar.family).text ++ ")")

/-- One or two values; the second is left out if it is the same. -/
def valueRange (p : Reader Value) : Reader String := do
  return (Value.ofItems (Grammar.shortestPair (← Grammar.pair p))).text

/-- The slant of a font: `oblique` with one or two angles. -/
def fontSlant : Reader String :=
  Reader.oneOf ["auto", "normal", "italic"] <|> (do
    Reader.word "oblique"
    match ← Reader.upTo Grammar.angle 2 with
    | [] => return "oblique"
    | angles =>
      let angles := match angles with
        | [a] => [a, a]
        | angles => angles
      let usual : Value := .measure (.quantity 14 "deg")
      if angles == [usual, usual] then return "oblique"
      else return "oblique " ++ (Value.ofItems (Grammar.shortestPair angles)).text)

/-- The value of a line of a font. -/
def fontLine? (name : String) (ps : List Piece) : Option String :=
  let typed :=
    match name with
    | "src" => (Reader.whole (Reader.commaList fontSource) ps).map (Text.joinWith ", ")
    | "font-family" => (Reader.whole Grammar.family ps).map Value.text
    | "font-weight" => Reader.whole (valueRange Grammar.fontWeight) ps
    | "font-stretch" => Reader.whole
        (valueRange (Grammar.keywords Grammar.fontWidths <|> Grammar.percentage)) ps
    | "font-style" => Reader.whole fontSlant ps
    | _ => none
  typed.or ((verbatim? ps).map verbatimText)

/-- The known lines of fonts. -/
def fontLines : List String := ["src", "font-family", "font-weight", "font-stretch", "font-style",
  "unicode-range"]

/-- The characters of a font, as written by their numbers. -/
def characterRange (ps : List Piece) : String :=
  Text.joinWith ", " ((Text.fields ',' (sourceOf ps).toList).map fun range =>
    String.ofList ((Text.trim range).map Char.toUpper))

/-- The lines of a font. -/
def fontFace? (ps : List Piece) : Option (List String) :=
  eachDeclaration (fun name value =>
    let lower := Text.asciiLower name
    let name := if fontLines.contains lower then lower else identText name
    if lower = "unicode-range" then some (name ++ ": " ++ characterRange value)
    else (fontLine? lower value).map fun v => name ++ ": " ++ v) ps.length ps

/-! ## Properties -/

/-- What is said of the form of a property. -/
inductive FormLine where
  | syntaxText (s : String)
  | inherits (b : Bool)
  | initialValue (text : String)

/-- A line about the form of a property. -/
def formLine? (name : String) (ps : List Piece) : Option (Option FormLine) :=
  match Text.asciiLower name with
  | "syntax" => (Reader.whole Reader.string ps).map fun s => some (.syntaxText s)
  | "inherits" =>
    (Reader.whole (Reader.oneOf ["true", "false"]) ps).map fun w => some (.inherits (w == "true"))
  | "initial-value" => (verbatim? ps).map fun ps => some (.initialValue (verbatimText ps))
  | _ => some none

/-- The lines of the form of a property. The form and whether it is inherited have to be said, and
the value to start from unless every value has the form. -/
def propertyForm? (ps : List Piece) : Option (List String) := do
  let lines ← eachDeclaration formLine? ps.length ps
  let form ← lines.reverse.findSome? fun
    | some (.syntaxText s) => some s
    | _ => none
  let inherits ← lines.reverse.findSome? fun
    | some (.inherits b) => some b
    | _ => none
  let initial := lines.reverse.findSome? fun
    | some (.initialValue v) => some v
    | _ => none
  if form = "*" ∨ initial.isSome = true then
    some (["syntax: " ++ quoted form, "inherits: " ++ if inherits then "true" else "false"] ++
      (initial.map ("initial-value: " ++ ·)).toList)
  else none

end LiveBundle.Style
