import LiveBundle.Style.Grammar.Basic
import LiveBundle.Style.Grammar.Image

/-!
# Fonts and text

The properties of fonts, of lines of text, of lists and of what a user does with text.
-/

namespace LiveBundle.Style.Grammar

open Reader

/-! ## Fonts -/

/-- The families that are no names, with the keywords that every property has. -/
def genericFamilies : List String := ["serif", "sans-serif", "cursive", "fantasy", "monospace",
  "system-ui", "emoji", "math", "fangsong", "ui-serif", "ui-sans-serif", "ui-monospace",
  "ui-rounded"] ++ globalKeywords

/-- The name of a family: as names with blanks between them if that is shorter than a string. -/
def familyName (s : String) : Value :=
  if s.isEmpty || genericFamilies.contains (Text.asciiLower s) then .string s
  else
    let text := Text.joinWith " " ((Text.fields ' ' s.toList).map fun part =>
      identText (String.ofList part))
    if text.utf8ByteSize < s.utf8ByteSize + 2 then .word text else .string s

/-- A family. -/
def family : Reader Value :=
  (do return familyName (← Reader.string)) <|>
  (do
    match ← many1 name with
    | [n] =>
      let lower := Text.asciiLower n
      if genericFamilies.contains lower then return .word lower else return familyName n
    | ns => return familyName (Text.joinWith " " ns))

/-- The weight of a font. -/
def fontWeight : Reader Value := keywords ["normal", "bold", "bolder", "lighter"] <|> number

/-- The size of a font. -/
def fontSize : Reader Value :=
  lengthPercentage <|> keywords ["xx-small", "x-small", "small", "medium", "large", "x-large",
    "xx-large", "xxx-large", "smaller", "larger"]

/-- The widths of fonts. -/
def fontWidths : List String := ["normal", "ultra-condensed", "extra-condensed", "condensed",
  "semi-condensed", "semi-expanded", "expanded", "extra-expanded", "ultra-expanded"]

/-- The slant of a font. -/
def fontStyle : Reader Value :=
  keywords ["normal", "italic"] <|> (do
    word "oblique"
    match ← Reader.optional angle with
    | some a =>
      return if a == .measure (.quantity 14 "deg") then .word "oblique"
        else .row [.word "oblique", a]
    | none => return .word "oblique")

/-- The height of a line. -/
def lineHeight : Reader Value := keyword "normal" <|> number <|> lengthPercentage

/-- What may stand in front of the size of a font: slant, variant, weight and width. -/
def fontFront : Reader (List (Option Value)) := do
  let n ← many (word "normal")
  let found ← anyOrder [fontStyle, fontWeight, keyword "small-caps", keywords fontWidths] <|>
    pure [none, none, none, none]
  let m ← many (word "normal")
  require (n.length + m.length + (found.filter Option.isSome).length ≤ 4)
  match found with
  | [style, weight, variant, width] => return [style, variant, weight, width]
  | _ => fail

/-- The word for what is not special. -/
def normal : Value := .word "normal"

/-- A font. Its parts are slant, variant, weight, width, size, height of a line, and families. -/
def font : Form where
  read := do
    let front ← fontFront
    let size ← fontSize
    let height ← Reader.optional (do delim '/'; lineHeight)
    let families ← commaList family
    return front.map (·.getD normal) ++ [size, height.getD normal, .list families]
  write
    | [style, variant, weight, width, size, height, families] =>
      .row ([style, variant, weight, width].filter (· != normal) ++ [size] ++
        (if height == normal then [] else [.slash, height]) ++ [families])
    | vs => .row vs

/-! ## Lines of text -/

/-- The lines that may be drawn on text, in the order in which they are written. -/
def decorationLines : List String := ["underline", "overline", "line-through", "blink"]

/-- The lines drawn on text. -/
def decorationLine : Reader Value :=
  keywords ["none", "spelling-error", "grammar-error"] <|> (do
    let lines ← many1 (oneOf decorationLines)
    require (lines.eraseDups.length == lines.length)
    return Value.ofItems ((decorationLines.filter lines.contains).map .word))

/-- The thickness of a line on text. -/
def decorationThickness : Reader Value := keywords ["auto", "from-font"] <|> lengthPercentage

/-- The style of a line on text. -/
def decorationStyle : Reader Value := keywords ["solid", "double", "dotted", "dashed", "wavy"]

/-- The usual parts of lines on text. -/
def usualDecoration : List Value :=
  [.word "none", .word "auto", .word "solid", .color .current]

/-- The lines on text with their thickness, style and color. -/
def textDecoration : Form where
  read := do
    return withDefaults usualDecoration
      (← anyOrder [decorationLine, decorationThickness, decorationStyle, color])
  write
    | .word "none" :: _ => .word "none"
    | line :: rest =>
      Value.ofItems (line ::
        ((rest.zip usualDecoration.tail).filterMap fun (v, d) => if v == d then none else some v))
    | [] => .word "none"

/-- A shadow of text: two to three lengths and a color in either order. -/
def textShadow : Reader Value := do
  let before ← Reader.optional color
  let x ← length
  let y ← length
  let blur ← Reader.optional length
  let behind ← if before.isSome then pure none else Reader.optional color
  let c := (before.or behind).getD (.color .current)
  let blur := (blur.filter fun b => !b.isZero).toList
  return .row ([x, y] ++ blur ++ (if c == .color .current then [] else [c]))

/-- How text is indented. -/
def textIndent : Reader Value := do
  match ← anyOrder [lengthPercentage, keyword "hanging", keyword "each-line"] with
  | [some v, hanging, eachLine] => return Value.ofItems (v :: hanging.toList ++ eachLine.toList)
  | _ => fail

/-- How the letters of text are changed. -/
def textTransform : Reader Value := do
  match ← anyOrder [keywords ["none", "uppercase", "lowercase", "capitalize"],
      keyword "full-width", keyword "full-size-kana"] with
  | [letters, width, kana] =>
    return Value.ofItems (letters.toList ++ width.toList ++ kana.toList)
  | _ => fail

/-! ## Lists -/

/-- The marks of lists with a fixed name are written in lower case. -/
def listMarks : List String := ["decimal", "decimal-leading-zero", "arabic-indic", "armenian",
  "upper-armenian", "lower-armenian", "bengali", "cambodian", "khmer", "cjk-decimal",
  "devanagari", "georgian", "gujarati", "gurmukhi", "hebrew", "kannada", "lao", "malayalam",
  "mongolian", "myanmar", "oriya", "persian", "lower-roman", "upper-roman", "tamil", "telugu",
  "thai", "tibetan", "lower-alpha", "lower-latin", "upper-alpha", "upper-latin", "lower-greek",
  "hiragana", "hiragana-iroha", "katakana", "katakana-iroha", "disc", "circle", "square",
  "disclosure-open", "disclosure-closed", "cjk-earthly-branch", "cjk-heavenly-stem",
  "japanese-informal", "japanese-formal", "korean-hangul-formal", "korean-hanja-informal",
  "korean-hanja-formal", "simp-chinese-informal", "simp-chinese-formal",
  "trad-chinese-informal", "trad-chinese-formal", "ethiopic-numeric"]

/-- The mark of an item. -/
def listMark : Reader Value :=
  keywords ("none" :: listMarks) <|> Grammar.string <|> customIdent

/-- The place of the mark of an item. -/
def listPlace : Reader Value := keywords ["inside", "outside"]

/-! ## The table -/

/-- The shapes of the pointer. -/
def cursors : List String := ["auto", "default", "none", "context-menu", "help", "pointer",
  "progress", "wait", "cell", "crosshair", "text", "vertical-text", "alias", "copy", "move",
  "no-drop", "not-allowed", "grab", "grabbing", "e-resize", "n-resize", "ne-resize",
  "nw-resize", "s-resize", "se-resize", "sw-resize", "w-resize", "ew-resize", "ns-resize",
  "nesw-resize", "nwse-resize", "col-resize", "row-resize", "all-scroll", "zoom-in", "zoom-out"]

/-- A picture of a pointer with its hot spot. -/
def cursorImage : Reader Value := do
  let address ← Grammar.url
  let spot ← Reader.optional (do return [← number, ← number])
  return Value.ofItems (address :: spot.getD [])

/-- A pointer: pictures, and at the end a keyword. -/
def cursor : Reader Value := listOf (keywords cursors <|> cursorImage)

/-- The forms of the properties of fonts and text. -/
def textForms : Form.Table := [
  ("font", font), ("font-family", .layered family),
  ("font-size", .single fontSize), ("font-weight", .single fontWeight),
  ("font-style", .single fontStyle),
  ("font-stretch", .single (keywords fontWidths <|> Grammar.percentage)),
  ("font-variant-caps", .ofKeywords ["normal", "small-caps", "all-small-caps", "petite-caps",
    "all-petite-caps", "unicase", "titling-caps"]),
  ("line-height", .single lineHeight),
  ("vertical-align", .single (keywords ["baseline", "sub", "super", "top", "text-top", "middle",
    "bottom", "text-bottom"] <|> lengthPercentage)),
  ("font-palette", .single (keywords ["normal", "light", "dark"] <|> dashedIdent)),
  ("text-transform", .single textTransform),
  ("white-space", .ofKeywords ["normal", "pre", "nowrap", "pre-wrap", "break-spaces",
    "pre-line"]),
  ("tab-size", .single (number <|> length)),
  ("word-break", .ofKeywords ["normal", "keep-all", "break-all", "break-word"]),
  ("line-break", .ofKeywords ["auto", "loose", "normal", "strict", "anywhere"]),
  ("hyphens", .ofKeywords ["none", "manual", "auto"]),
  ("overflow-wrap", .ofKeywords ["normal", "anywhere", "break-word"]),
  ("word-wrap", .ofKeywords ["normal", "anywhere", "break-word"]),
  ("text-align", .ofKeywords ["start", "end", "left", "right", "center", "justify",
    "match-parent", "justify-all"]),
  ("text-align-last", .ofKeywords ["auto", "start", "end", "left", "right", "center", "justify",
    "match-parent"]),
  ("text-justify", .ofKeywords ["auto", "none", "inter-word", "inter-character"]),
  ("word-spacing", .single (keyword "normal" <|> length)),
  ("letter-spacing", .single (keyword "normal" <|> length)),
  ("text-indent", .single textIndent),
  ("text-decoration", textDecoration), ("text-decoration-line", .single decorationLine),
  ("text-decoration-style", .single decorationStyle),
  ("text-decoration-color", .single color),
  ("text-decoration-thickness", .single decorationThickness),
  ("text-decoration-skip-ink", .ofKeywords ["auto", "none", "all"]),
  ("text-emphasis-color", .single color),
  ("text-shadow", .single (listOf textShadow)),
  ("text-size-adjust", .single (keywords ["auto", "none"] <|> Grammar.percentage)),
  ("text-overflow", .ofKeywords ["clip", "ellipsis"]),
  ("direction", .ofKeywords ["ltr", "rtl"]),
  ("unicode-bidi", .ofKeywords ["normal", "embed", "isolate", "bidi-override",
    "isolate-override", "plaintext"]),
  ("box-decoration-break", .ofKeywords ["slice", "clone"]),
  ("list-style", .anyOrder [listMark, image, listPlace]
    [.word "disc", .word "none", .word "outside"] 0),
  ("list-style-type", .single listMark), ("list-style-image", .single image),
  ("list-style-position", .single listPlace),
  ("marker-side", .ofKeywords ["match-self", "match-parent"]),
  ("resize", .ofKeywords ["none", "both", "horizontal", "vertical", "block", "inline"]),
  ("cursor", .single cursor),
  ("caret-color", .single (keyword "auto" <|> color)),
  ("caret-shape", .ofKeywords ["auto", "bar", "block", "underscore"]),
  ("accent-color", .single (keyword "auto" <|> color)),
  ("user-select", .ofKeywords ["auto", "text", "none", "contain", "all"]),
  ("appearance", .single (do return .word (identText (← name)))),
  ("color-scheme", .single colorScheme)]
where
  /-- The schemes of colors. -/
  colorScheme : Reader Value := do
    let names ← many1 name
    let lower := names.map Text.asciiLower
    if lower == ["normal"] then return .word "normal"
    let schemes := ["light", "dark", "only"].filter lower.contains
    if schemes.isEmpty then fail else return Value.ofItems (schemes.map .word)

end LiveBundle.Style.Grammar
