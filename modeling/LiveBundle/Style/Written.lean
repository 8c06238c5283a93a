import LiveBundle.Text.Basic

/-!
# Names, strings and addresses as written

A name is written with a backslash in front of characters that names do not have, control characters
and leading digits by their number. Strings are written in double quotes, addresses as strings in
`url()`.
-/

namespace LiveBundle.Style

/-- A character by its number; a blank ends it. -/
def hexEscape (c : Char) : List Char := '\\' :: (Nat.toDigits 16 c.toNat ++ [' '])

/-- Control characters. -/
def isControl (c : Char) : Bool := (1 ≤ c.toNat && c.toNat ≤ 0x1F) || c.toNat == 0x7F

/-- A character inside a name. -/
def nameChar (c : Char) : List Char :=
  if c.isAlphanum || c == '_' || c == '-' || 0x80 ≤ c.toNat then [c]
  else if c = '\x00' then [Char.ofNat 0xFFFD]
  else if isControl c then hexEscape c
  else ['\\', c]

/-- The later characters of a name. -/
def nameTail (s : List Char) : List Char := s.flatMap nameChar

/-- The characters of a name behind an optional hyphen. -/
def nameBody : List Char → List Char
  | [] => []
  | c :: cs => if c.isDigit then hexEscape c ++ nameTail cs else nameTail (c :: cs)

/-- A name as written. -/
def identChars : List Char → List Char
  | '-' :: '-' :: rest => '-' :: '-' :: nameTail rest
  | ['-'] => ['\\', '-']
  | '-' :: rest => '-' :: nameBody rest
  | s => nameBody s

/-- A name as written. -/
def identText (name : String) : String := String.ofList (identChars name.toList)

/-- A name that follows other characters of one, as behind `#`. -/
def identTail (name : String) : String := String.ofList (nameTail name.toList)

/-- A unit as written behind a number; an `e` that could be read as an exponent is escaped. -/
def unitText (unit : String) : String :=
  match unit.toList with
  | 'e' :: rest => if rest.isEmpty || rest.head? = some '-' then
      "\\65 " ++ String.ofList (nameTail rest) else identText unit
  | 'E' :: rest => if rest.isEmpty || rest.head? = some '-' then
      "\\65 " ++ String.ofList (nameTail rest) else identText unit
  | _ => identText unit

/-- A character inside a string. -/
def stringChar (c : Char) : List Char :=
  if c = '"' then ['\\', '"']
  else if c = '\\' then ['\\', '\\']
  else if c = '\x00' then [Char.ofNat 0xFFFD]
  else if isControl c then hexEscape c
  else [c]

/-- A string in quotes. -/
def quoted (s : String) : String :=
  String.ofList ('"' :: (s.toList.flatMap stringChar ++ ['"']))

/-- An address. -/
def address (s : String) : String := "url(" ++ quoted s ++ ")"

end LiveBundle.Style
