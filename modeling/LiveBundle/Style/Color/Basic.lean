import LiveBundle.Decimal.Scientific
import LiveBundle.Style.Reader
import LiveBundle.Text.CharClass

/-!
# Colors

A color is kept as four bytes, whichever notation it is given in, and written in the shortest form:
a name of few letters, three or four hexadecimal digits, six or eight of them. The color of the text
and the colors of the reader's system keep their names.

* `Color.named`, `Color.shortNames` and `Color.systemNames` are the tables of names.
* `Color.read` reads all notations, `Color.text` writes the shortest one.
* `Color.mix?` mixes two colors.
-/

/-! ## Names -/

namespace LiveBundle.Style.Color

/-- The named colors. -/
def named : List (String × Nat) := [
  ("aliceblue", 0xF0F8FF), ("antiquewhite", 0xFAEBD7), ("aqua", 0x00FFFF),
  ("aquamarine", 0x7FFFD4), ("azure", 0xF0FFFF), ("beige", 0xF5F5DC), ("bisque", 0xFFE4C4),
  ("black", 0x000000), ("blanchedalmond", 0xFFEBCD), ("blue", 0x0000FF),
  ("blueviolet", 0x8A2BE2), ("brown", 0xA52A2A), ("burlywood", 0xDEB887),
  ("cadetblue", 0x5F9EA0), ("chartreuse", 0x7FFF00), ("chocolate", 0xD2691E),
  ("coral", 0xFF7F50), ("cornflowerblue", 0x6495ED), ("cornsilk", 0xFFF8DC),
  ("crimson", 0xDC143C), ("cyan", 0x00FFFF), ("darkblue", 0x00008B), ("darkcyan", 0x008B8B),
  ("darkgoldenrod", 0xB8860B), ("darkgray", 0xA9A9A9), ("darkgreen", 0x006400),
  ("darkgrey", 0xA9A9A9), ("darkkhaki", 0xBDB76B), ("darkmagenta", 0x8B008B),
  ("darkolivegreen", 0x556B2F), ("darkorange", 0xFF8C00), ("darkorchid", 0x9932CC),
  ("darkred", 0x8B0000), ("darksalmon", 0xE9967A), ("darkseagreen", 0x8FBC8F),
  ("darkslateblue", 0x483D8B), ("darkslategray", 0x2F4F4F), ("darkslategrey", 0x2F4F4F),
  ("darkturquoise", 0x00CED1), ("darkviolet", 0x9400D3), ("deeppink", 0xFF1493),
  ("deepskyblue", 0x00BFFF), ("dimgray", 0x696969), ("dimgrey", 0x696969),
  ("dodgerblue", 0x1E90FF), ("firebrick", 0xB22222), ("floralwhite", 0xFFFAF0),
  ("forestgreen", 0x228B22), ("fuchsia", 0xFF00FF), ("gainsboro", 0xDCDCDC),
  ("ghostwhite", 0xF8F8FF), ("gold", 0xFFD700), ("goldenrod", 0xDAA520), ("gray", 0x808080),
  ("green", 0x008000), ("greenyellow", 0xADFF2F), ("grey", 0x808080), ("honeydew", 0xF0FFF0),
  ("hotpink", 0xFF69B4), ("indianred", 0xCD5C5C), ("indigo", 0x4B0082), ("ivory", 0xFFFFF0),
  ("khaki", 0xF0E68C), ("lavender", 0xE6E6FA), ("lavenderblush", 0xFFF0F5),
  ("lawngreen", 0x7CFC00), ("lemonchiffon", 0xFFFACD), ("lightblue", 0xADD8E6),
  ("lightcoral", 0xF08080), ("lightcyan", 0xE0FFFF), ("lightgoldenrodyellow", 0xFAFAD2),
  ("lightgray", 0xD3D3D3), ("lightgreen", 0x90EE90), ("lightgrey", 0xD3D3D3),
  ("lightpink", 0xFFB6C1), ("lightsalmon", 0xFFA07A), ("lightseagreen", 0x20B2AA),
  ("lightskyblue", 0x87CEFA), ("lightslategray", 0x778899), ("lightslategrey", 0x778899),
  ("lightsteelblue", 0xB0C4DE), ("lightyellow", 0xFFFFE0), ("lime", 0x00FF00),
  ("limegreen", 0x32CD32), ("linen", 0xFAF0E6), ("magenta", 0xFF00FF), ("maroon", 0x800000),
  ("mediumaquamarine", 0x66CDAA), ("mediumblue", 0x0000CD), ("mediumorchid", 0xBA55D3),
  ("mediumpurple", 0x9370DB), ("mediumseagreen", 0x3CB371), ("mediumslateblue", 0x7B68EE),
  ("mediumspringgreen", 0x00FA9A), ("mediumturquoise", 0x48D1CC),
  ("mediumvioletred", 0xC71585), ("midnightblue", 0x191970), ("mintcream", 0xF5FFFA),
  ("mistyrose", 0xFFE4E1), ("moccasin", 0xFFE4B5), ("navajowhite", 0xFFDEAD),
  ("navy", 0x000080), ("oldlace", 0xFDF5E6), ("olive", 0x808000), ("olivedrab", 0x6B8E23),
  ("orange", 0xFFA500), ("orangered", 0xFF4500), ("orchid", 0xDA70D6),
  ("palegoldenrod", 0xEEE8AA), ("palegreen", 0x98FB98), ("paleturquoise", 0xAFEEEE),
  ("palevioletred", 0xDB7093), ("papayawhip", 0xFFEFD5), ("peachpuff", 0xFFDAB9),
  ("peru", 0xCD853F), ("pink", 0xFFC0CB), ("plum", 0xDDA0DD), ("powderblue", 0xB0E0E6),
  ("purple", 0x800080), ("rebeccapurple", 0x663399), ("red", 0xFF0000),
  ("rosybrown", 0xBC8F8F), ("royalblue", 0x4169E1), ("saddlebrown", 0x8B4513),
  ("salmon", 0xFA8072), ("sandybrown", 0xF4A460), ("seagreen", 0x2E8B57),
  ("seashell", 0xFFF5EE), ("sienna", 0xA0522D), ("silver", 0xC0C0C0), ("skyblue", 0x87CEEB),
  ("slateblue", 0x6A5ACD), ("slategray", 0x708090), ("slategrey", 0x708090),
  ("snow", 0xFFFAFA), ("springgreen", 0x00FF7F), ("steelblue", 0x4682B4), ("tan", 0xD2B48C),
  ("teal", 0x008080), ("thistle", 0xD8BFD8), ("tomato", 0xFF6347), ("turquoise", 0x40E0D0),
  ("violet", 0xEE82EE), ("wheat", 0xF5DEB3), ("white", 0xFFFFFF), ("whitesmoke", 0xF5F5F5),
  ("yellow", 0xFFFF00), ("yellowgreen", 0x9ACD32)]

/-- The names that are written because they are shorter than the hexadecimal form. -/
def shortNames : List String := [
  "navy", "green", "teal", "indigo", "maroon", "purple", "olive", "gray", "sienna", "brown",
  "silver", "peru", "tan", "orchid", "plum", "violet", "khaki", "azure", "wheat", "beige",
  "salmon", "linen", "red", "tomato", "coral", "orange", "pink", "gold", "bisque", "snow",
  "ivory"]

/-- Colors of the reader's system. -/
def systemNames : List String := [
  "accentcolor", "accentcolortext", "activetext", "buttonborder", "buttonface", "buttontext",
  "canvas", "canvastext", "field", "fieldtext", "graytext", "highlight", "highlighttext",
  "linktext", "mark", "marktext", "selecteditem", "selecteditemtext", "visitedtext",
  "activeborder", "activecaption", "appworkspace", "background", "buttonhighlight",
  "buttonshadow", "captiontext", "inactiveborder", "inactivecaption", "inactivecaptiontext",
  "infobackground", "infotext", "menu", "menutext", "scrollbar", "threeddarkshadow",
  "threedface", "threedhighlight", "threedlightshadow", "threedshadow", "window",
  "windowframe", "windowtext"]

end LiveBundle.Style.Color

namespace LiveBundle.Style

/-- A color. -/
inductive Color where
  /-- Red, green, blue and opacity, each from 0 to 255. -/
  | rgba (red green blue alpha : Nat)
  /-- The color of the text. -/
  | current
  /-- A color of the reader's system. -/
  | system (name : String)
deriving DecidableEq, Repr

namespace Color

/-! ## Writing -/

/-- Two hexadecimal digits. -/
def hexByte (n : Nat) : List Char := [Nat.digitChar (n / 16 % 16), Nat.digitChar (n % 16)]

/-- Whether the two digits of a byte are the same. -/
def isDoubled (n : Nat) : Bool := n / 16 == n % 16

/-- Bytes in hexadecimal, one digit each where that is enough for all of them. -/
def hexText (bytes : List Nat) : String :=
  String.ofList ('#' ::
    (if bytes.all isDoubled then bytes.map fun n => Nat.digitChar (n % 16)
    else bytes.flatMap hexByte))

/-- The short name of an opaque color. -/
def shortName? (red green blue : Nat) : Option String :=
  let n := red * 65536 + green * 256 + blue
  shortNames.find? fun name => named.lookup name == some n

/-- A color as text. -/
def text : Color → String
  | rgba red green blue alpha =>
    if alpha = 255 then
      (shortName? red green blue).getD (hexText [red, green, blue])
    else hexText [red, green, blue, alpha]
  | current => "currentColor"
  | system name => name

/-! ## Reading -/

/-- A share of the whole as a byte. -/
def byteOf (share : Rat) : Nat :=
  if share ≤ 0 then 0
  else if 1 ≤ share then 255
  else
    let q := share * 255
    Decimal.nearest q.num.natAbs q.den

/-- The color of a number `0xRRGGBB`. -/
def ofNumber (n : Nat) : Color := rgba (n / 65536 % 256) (n / 256 % 256) (n % 256) 255

/-- The color of three, four, six or eight hexadecimal digits. -/
def ofHex? (digits : List Char) : Option Color :=
  if !digits.all Text.isHexDigit then none
  else
    match digits.map Text.hexValue with
    | [r, g, b] => some (rgba (r * 17) (g * 17) (b * 17) 255)
    | [r, g, b, a] => some (rgba (r * 17) (g * 17) (b * 17) (a * 17))
    | [r, r', g, g', b, b'] => some (rgba (r * 16 + r') (g * 16 + g') (b * 16 + b') 255)
    | [r, r', g, g', b, b', a, a'] =>
      some (rgba (r * 16 + r') (g * 16 + g') (b * 16 + b') (a * 16 + a'))
    | _ => none

/-- The color with this name, given in lower case. -/
def ofName? (name : String) : Option Color :=
  if name = "currentcolor" then some current
  else if name = "transparent" then some (rgba 0 0 0 0)
  else
    match named.lookup name with
    | some n => some (ofNumber n)
    | none => if systemNames.contains name then some (.system name) else none

/-- The nearest number from zero to one. -/
def toUnit (q : Rat) : Rat := if q < 0 then 0 else if 1 < q then 1 else q

/-- The lesser of two numbers. -/
def lesser (a b : Rat) : Rat := if a ≤ b then a else b

/-- A number or a percentage inside a color. -/
inductive Component where
  | number (q : Rat)
  | percentage (q : Rat)

/-- A number or a percentage. -/
def component : Reader Component := do
  match ← Reader.token with
  | .number n => return .number n.value
  | .percentage n => return .percentage n.value
  | _ => Reader.fail

/-- A percentage as a share from zero to one. -/
def share : Reader Rat := do
  match ← component with
  | .percentage q => return toUnit (q / 100)
  | .number _ => Reader.fail

/-- An opacity as a share. -/
def opacity : Reader Rat := do
  match ← component with
  | .percentage q => return toUnit (q / 100)
  | .number q => return toUnit q

/-- The opacity at the end of a color: behind a comma in the notation with commas, else behind a
slash. -/
def trailingOpacity (commas : Bool) : Reader Rat := do
  if ← Reader.atEnd then return 1
  if commas then Reader.comma else Reader.delim '/'
  opacity

/-- Degrees of half a turn in radians. -/
def degreesPerRadian : Rat := 57295779513082 / 1000000000000

/-- An angle in degrees. -/
def degrees? (q : Rat) (unit : String) : Option Rat :=
  match unit with
  | "deg" => some q
  | "grad" => some (q * 360 / 400)
  | "turn" => some (q * 360)
  | "rad" => some (q * degreesPerRadian)
  | _ => none

/-- A hue in degrees. -/
def hue : Reader Rat := do
  match ← Reader.token with
  | .number n => return n.value
  | .dimension n unit => Reader.ofOption (degrees? n.value (Text.asciiLower unit))
  | _ => Reader.fail

/-- A number from 0 to 255 as a share; it is rounded before. -/
def channelOfNumber (q : Rat) : Rat :=
  if q ≤ 0 then 0
  else if 255 ≤ q then 1
  else (Decimal.nearest q.num.natAbs q.den : Rat) / 255

/-- A red, green or blue channel as a share. -/
def channel : Reader Rat := do
  match ← component with
  | .number q => return channelOfNumber q
  | .percentage q => return toUnit (q / 100)

/-- A channel of the same form as the first one. -/
def channelLike : Component → Reader Rat
  | .number _ => do
    match ← component with
    | .number q => return channelOfNumber q
    | .percentage _ => Reader.fail
  | .percentage _ => share

/-- The arguments of `rgb()`. -/
def rgbArguments : Reader Color := do
  let first ← component
  let red := match first with
    | .number q => channelOfNumber q
    | .percentage q => toUnit (q / 100)
  let commas ← Reader.takes Reader.comma
  let green ← if commas then channelLike first else channel
  if commas then Reader.comma
  let blue ← if commas then channelLike first else channel
  let alpha ← trailingOpacity commas
  return rgba (byteOf red) (byteOf green) (byteOf blue) (byteOf alpha)

/-- The remainder of a division by a positive number. -/
def modulo (q m : Rat) : Rat := q - m * ((q / m).floor : Rat)

/-- One channel of a color given by hue, saturation and lightness. -/
def hslChannel (offset h s l : Rat) : Rat :=
  let k := modulo (offset + h / 30) 12
  let a := s * lesser l (1 - l)
  let height := lesser (lesser (k - 3) (9 - k)) 1
  l - a * if height < -1 then -1 else height

/-- The channels of a color given by hue, saturation and lightness. -/
def hslChannels (h s l : Rat) : Rat × Rat × Rat :=
  (hslChannel 0 h s l, hslChannel 8 h s l, hslChannel 4 h s l)

/-- The channels of a color given by hue, whiteness and blackness. -/
def hwbChannels (h w b : Rat) : Rat × Rat × Rat :=
  if 1 ≤ w + b then (w / (w + b), w / (w + b), w / (w + b))
  else
    let (red, green, blue) := hslChannels h 1 (1 / 2)
    let x := 1 - w - b
    (red * x + w, green * x + w, blue * x + w)

/-- A hue with two shares; commas are allowed between them where `legacy` holds. -/
def hueArguments (legacy : Bool) (channels : Rat → Rat → Rat → Rat × Rat × Rat) :
    Reader Color := do
  let h ← hue
  let commas ← if legacy then Reader.takes Reader.comma else pure false
  let a ← share
  if commas then Reader.comma
  let b ← share
  let alpha ← trailingOpacity commas
  let (red, green, blue) := channels h a b
  return rgba (byteOf red) (byteOf green) (byteOf blue) (byteOf alpha)

/-! ## Mixing -/

/-- The two shares of a mixture from those that are given; together they may be less or more than
the whole. -/
def shares : Option Rat → Option Rat → Rat × Rat
  | some p, some q => (p, q)
  | some p, none => (p, 1 - p)
  | none, some q => (1 - q, q)
  | none, none => (1 / 2, 1 / 2)

/-- The mixture of two colors by their shares. A channel counts as much as its color is opaque, and
where the shares are less than the whole, the mixture is less opaque. -/
def mix? (p q : Rat) : Color → Color → Option Color
  | rgba r g b a, rgba r' g' b' a' =>
    let whole := p + q
    if whole = 0 then none
    else
      let p := p / whole
      let q := q / whole
      let alpha : Rat := (p * a + q * a') / 255
      let channel (c c' : Nat) : Nat :=
        if alpha = 0 then 0
        else byteOf ((p * a * c + q * a' * c') / (255 * 255) / alpha)
      some (rgba (channel r r') (channel g g') (channel b b') (byteOf (alpha * lesser whole 1)))
  | _, _ => none

/-- A percentage as a share of a mixture. -/
def mixtureShare : Reader Rat := do
  match ← Reader.token with
  | .percentage n => return n.value / 100
  | _ => Reader.fail

/-- A color with its share, which may stand in front of it or behind. -/
def ingredient (color : Reader Color) : Reader (Color × Option Rat) := do
  let before ← Reader.optional mixtureShare
  let c ← color
  let behind ← if before.isSome then pure none else Reader.optional mixtureShare
  return (c, before.or behind)

/-- The arguments of a mixture. -/
def mixArguments (color : Reader Color) : Reader Color := do
  Reader.word "in"
  Reader.word "srgb"
  Reader.comma
  let (a, p?) ← ingredient color
  Reader.comma
  let (b, q?) ← ingredient color
  let (p, q) := shares p? q?
  Reader.ofOption (mix? p q a b)

/-! ## All notations -/

/-- A color in any notation, given how the arguments of functions are read. -/
def readWith (arguments : String → Reader Color) : Reader Color := do
  match ← Reader.piece with
  | .token (.hash digits _) _ => Reader.ofOption (ofHex? digits.toList)
  | .token (.ident name) _ => Reader.ofOption (ofName? (Text.asciiLower name))
  | .function name _ inner => Reader.inside inner (arguments (Text.asciiLower name))
  | _ => Reader.fail

/-- The arguments of a color function, given its name in lower case. The first argument bounds the
depth of mixtures in mixtures. -/
def argumentsTo : Nat → String → Reader Color
  | 0, _ => Reader.fail
  | depth + 1, name =>
    match name with
    | "rgb" => rgbArguments
    | "rgba" => rgbArguments
    | "hsl" => hueArguments true hslChannels
    | "hsla" => hueArguments true hslChannels
    | "hwb" => hueArguments false hwbChannels
    | "color-mix" => mixArguments (readWith (argumentsTo depth))
    | _ => Reader.fail

/-- The arguments of a color function, given its name in lower case. -/
def arguments (name : String) : Reader Color := fun ps => argumentsTo (weightOf ps + 1) name ps

/-- A color in any notation. -/
def read : Reader Color := readWith arguments

end Color

end LiveBundle.Style
