import LiveBundle.Decimal.Scientific
import LiveBundle.Text.Basic

/-!
# JSON values

The values of the data format. Whole numbers that fit in 64 bits are kept exactly, all other
numbers as doubles. The members of an object are listed in ascending order of their keys.

`Json.quote` is the written form of a string. It is also a string literal of the scripts that this
library writes: quotes and backslashes get a backslash, control characters are escaped, and every
other character stands for itself.

Values are written on one line without blanks, or over several lines with two spaces of indentation
for each level. Doubles are written with the fewest digits that read back.
-/

namespace LiveBundle

/-- A JSON number. -/
inductive Json.Number where
  | nat (n : Nat)
  /-- A negative whole number, given by its absolute value. -/
  | negative (n : Nat)
  | float (x : Float)

/-- A JSON value. -/
inductive Json where
  | null
  | bool (b : Bool)
  | number (n : Json.Number)
  | string (s : String)
  | array (items : List Json)
  | object (members : List (String × Json))

instance : Inhabited Json := ⟨.null⟩

/-- The text of a string value. -/
def Json.asString? : Json → Option String
  | .string s => some s
  | _ => none

/-! ## Quoted strings -/

namespace Json

/-- The escape of a control character: its letter if it has one, else four hexadecimal digits. -/
def escapeControl (c : Char) : List Char :=
  if c = '\x08' then ['\\', 'b']
  else if c = '\t' then ['\\', 't']
  else if c = '\n' then ['\\', 'n']
  else if c = '\x0c' then ['\\', 'f']
  else if c = '\r' then ['\\', 'r']
  else ['\\', 'u', '0', '0', Nat.digitChar (c.toNat / 16), Nat.digitChar (c.toNat % 16)]

/-- The written form of one character. -/
def escapeChar (c : Char) : List Char :=
  if c = '"' then ['\\', '"']
  else if c = '\\' then ['\\', '\\']
  else if c.toNat < 0x20 then escapeControl c
  else [c]

/-- The written form of a string, quotes included. -/
def quoteChars (s : List Char) : List Char := '"' :: (s.flatMap escapeChar ++ ['"'])

/-- The written form of a string, quotes included. -/
def quote (s : String) : String := String.ofList (quoteChars s.toList)

/-! ## Texts -/

/-- How doubles are written: positionally while the point stays within `low` places to the left and
`high` to the right of the first digit, else with an exponent. -/
structure FloatFormat where
  low : Int
  high : Int

/-- Numbers below `10^16` and down to `10^-5` are written positionally. -/
def floatFormat : FloatFormat := ⟨-5, 16⟩

/-- A positive decimal. `point` is the position of the decimal point, counted from the first
digit. -/
def scientificText (format : FloatFormat) (s : Decimal.Scientific) : String :=
  let digits := toString s.digits
  let point : Int := digits.length + s.exponent
  if 0 ≤ s.exponent && point ≤ format.high then
    digits ++ String.ofList (List.replicate s.exponent.toNat '0') ++ ".0"
  else if 0 < point && point ≤ format.high then
    String.ofList (digits.toList.take point.toNat) ++ "." ++
      String.ofList (digits.toList.drop point.toNat)
  else if format.low < point && point ≤ 0 then
    "0." ++ String.ofList (List.replicate (-point).toNat '0') ++ digits
  else
    let exponent := point - 1
    let sign := if exponent < 0 then "e-" else "e+"
    let power := sign ++ toString exponent.natAbs
    match digits.toList with
    | [d] => String.ofList [d] ++ power
    | d :: rest => String.ofList (d :: '.' :: rest) ++ power
    | [] => power

/-- A finite double; what is not finite has no JSON form but `null`. -/
def floatText (x : Float) : String :=
  if x.isNaN || x.isInf then "null"
  else
    let b := Decimal.Binary64.ofFloat x
    let sign := if b.negative then "-" else ""
    if b.significand = 0 then sign ++ "0.0"
    else sign ++ scientificText floatFormat b.shortest

/-- A number. -/
def Number.text : Number → String
  | .nat n => toString n
  | .negative n => "-" ++ toString n
  | .float x => floatText x

mutual

/-- A value on one line. -/
def compact : Json → String
  | .null => "null"
  | .bool b => if b then "true" else "false"
  | .number n => n.text
  | .string s => quote s
  | .array items => "[" ++ compactItems items ++ "]"
  | .object members => "\x7b" ++ compactMembers members ++ "\x7d"

/-- Items with commas between them. -/
def compactItems : List Json → String
  | [] => ""
  | [v] => compact v
  | v :: w :: vs => compact v ++ "," ++ compactItems (w :: vs)

/-- Members with commas between them. -/
def compactMembers : List (String × Json) → String
  | [] => ""
  | [(k, v)] => quote k ++ ":" ++ compact v
  | (k, v) :: m :: ms => quote k ++ ":" ++ compact v ++ "," ++ compactMembers (m :: ms)

end

/-- A line break and the indentation of a level. -/
def newLine (level : Nat) : String := "\n" ++ Text.spaces (2 * level)

mutual

/-- A value over several lines, inside `level` containers. -/
def pretty (level : Nat) : Json → String
  | .array [] => "[]"
  | .object [] => "\x7b\x7d"
  | .array items =>
    "[" ++ newLine (level + 1) ++ prettyItems (level + 1) items ++ newLine level ++ "]"
  | .object members =>
    "\x7b" ++ newLine (level + 1) ++ prettyMembers (level + 1) members ++ newLine level ++ "\x7d"
  | .null => "null"
  | .bool b => if b then "true" else "false"
  | .number n => n.text
  | .string s => quote s

/-- Items on lines of their own. -/
def prettyItems (level : Nat) : List Json → String
  | [] => ""
  | [v] => pretty level v
  | v :: w :: vs => pretty level v ++ "," ++ newLine level ++ prettyItems level (w :: vs)

/-- Members on lines of their own. -/
def prettyMembers (level : Nat) : List (String × Json) → String
  | [] => ""
  | [(k, v)] => quote k ++ ": " ++ pretty level v
  | (k, v) :: m :: ms =>
    quote k ++ ": " ++ pretty level v ++ "," ++ newLine level ++ prettyMembers level (m :: ms)

end

end Json

end LiveBundle
