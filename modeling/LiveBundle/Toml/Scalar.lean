import LiveBundle.Decimal.Binary64
import LiveBundle.Text.CharClass

/-!
# Values and scalars of configuration files

The values of the TOML format. Tables remember how they came about, because that decides whether
they may be extended later in the file. Readers for strings, numbers, dates and times give their
value and the text behind it, or nothing where the text is not in the format.
-/

namespace LiveBundle

/-- How a table came about. -/
inductive Toml.Origin where
  /-- It was written between braces and is complete. -/
  | inline
  /-- It has a header of its own. -/
  | header
  /-- It was named on the way to another header. -/
  | implied
  /-- It was named by a dotted key. -/
  | dotted
deriving DecidableEq, Repr

/-- A value. -/
inductive Toml where
  | string (s : String)
  | integer (n : Int)
  /-- A float, by its digits without underscores. -/
  | float (digits : List Char)
  | boolean (b : Bool)
  /-- A date, a time, or both, as it was written. -/
  | datetime (text : List Char)
  | array (items : List Toml)
  | table (origin : Toml.Origin) (entries : List (String × Toml))
  /-- Tables that share a header in double brackets. -/
  | tables (items : List (List (String × Toml)))

instance : Inhabited Toml := ⟨.boolean false⟩

/-- The keys and values of a table. -/
abbrev Toml.Entries := List (String × Toml)

end LiveBundle

namespace LiveBundle.Toml

/-- A reader of the front of a text. -/
abbrev Reader (α : Type) := List Char → Option (α × List Char)

/-- Spaces and tabs. -/
def isSpace (c : Char) : Bool := c == ' ' || c == '\t'

/-- The text behind spaces and tabs. -/
def skipSpace (s : List Char) : List Char := s.dropWhile isSpace

/-- Characters that may stand in comments and literal strings. -/
def isPlain (c : Char) : Bool := c == '\t' || (0x20 ≤ c.toNat && c.toNat != 0x7F)

/-- The text behind a line break. -/
def newline? : List Char → Option (List Char)
  | '\n' :: rest => some rest
  | '\r' :: '\n' :: rest => some rest
  | _ => none

/-- The text behind spaces, tabs and line breaks. -/
def skipBlank : List Char → List Char
  | '\n' :: rest => skipBlank rest
  | '\r' :: '\n' :: rest => skipBlank rest
  | c :: rest => if isSpace c then skipBlank rest else c :: rest
  | [] => []

/-! ## Strings -/

/-- The value of some hexadecimal digits. -/
def hexNumber? (digits : List Char) : Option Nat :=
  if digits.all Text.isHexDigit then
    some (digits.foldl (fun n c => n * 16 + Text.hexValue c) 0)
  else none

/-- A character given by `count` hexadecimal digits. -/
def hexChar (count : Nat) : Reader Char := fun s =>
  if s.length < count then none
  else match hexNumber? (s.take count) with
    | some n => if n.isValidChar then some (Char.ofNat n, s.drop count) else none
    | none => none

/-- A character behind a backslash. -/
def escaped : Reader Char
  | 'b' :: rest => some ('\x08', rest)
  | 't' :: rest => some ('\t', rest)
  | 'n' :: rest => some ('\n', rest)
  | 'f' :: rest => some ('\x0c', rest)
  | 'r' :: rest => some ('\r', rest)
  | '"' :: rest => some ('"', rest)
  | '\\' :: rest => some ('\\', rest)
  | 'u' :: rest => hexChar 4 rest
  | 'U' :: rest => hexChar 8 rest
  | _ => none

/-- Puts characters in front of what a reader gave. -/
def consChars (cs : List Char) : Option (List Char × List Char) → Option (List Char × List Char)
  | some (text, rest) => some (cs ++ text, rest)
  | none => none

/-- The text of a string up to its closing quote. -/
def basicBody : Nat → Reader (List Char)
  | 0, _ => none
  | _, [] => none
  | fuel + 1, c :: cs =>
    if c = '"' then some ([], cs)
    else if c = '\\' then
      match escaped cs with
      | some (e, rest) => consChars [e] (basicBody fuel rest)
      | none => none
    else if isPlain c then consChars [c] (basicBody fuel cs)
    else none

/-- The text of a literal string up to its closing quote. -/
def literalBody : Reader (List Char)
  | [] => none
  | c :: cs =>
    if c = '\'' then some ([], cs)
    else if isPlain c then consChars [c] (literalBody cs)
    else none

/-- The text behind a line break that is escaped, with all blanks behind it. -/
def escapedBreak? (s : List Char) : Option (List Char) :=
  (newline? (skipSpace s)).map skipBlank

/-- The text of a string over several lines up to its three closing quotes, of which there may be
two more that belong to the text. -/
def multiLineBody (quote : Char) : Nat → Reader (List Char)
  | 0, _ => none
  | _, [] => none
  | fuel + 1, c :: cs =>
    if c = quote then
      let run := 1 + (cs.takeWhile (· = quote)).length
      if 3 ≤ run then
        let used := min run 5
        some (List.replicate (used - 3) quote, (c :: cs).drop used)
      else consChars (List.replicate run quote) (multiLineBody quote fuel ((c :: cs).drop run))
    else if c = '\\' ∧ quote = '"' then
      match escapedBreak? cs with
      | some rest => multiLineBody quote fuel rest
      | none =>
        match escaped cs with
        | some (e, rest) => consChars [e] (multiLineBody quote fuel rest)
        | none => none
    else
      match newline? (c :: cs) with
      | some rest => consChars ['\n'] (multiLineBody quote fuel rest)
      | none => if isPlain c then consChars [c] (multiLineBody quote fuel cs) else none

/-- The text without a line break in front. -/
def skipFirstBreak (s : List Char) : List Char := (newline? s).getD s

/-- A string in one of its four forms. -/
def readString : Reader String := fun s =>
  let body := match s with
    | '"' :: '"' :: '"' :: rest => multiLineBody '"' s.length (skipFirstBreak rest)
    | '\'' :: '\'' :: '\'' :: rest => multiLineBody '\'' s.length (skipFirstBreak rest)
    | '"' :: rest => basicBody s.length rest
    | '\'' :: rest => literalBody rest
    | _ => none
  body.map fun (text, rest) => (String.ofList text, rest)

/-! ## Numbers -/

/-- Digits of a class with single underscores between them; the underscores are left out. -/
def digitGroup (valid : Char → Bool) : Reader (List Char)
  | c :: '_' :: d :: rest =>
    if valid c then
      if valid d then
        match digitGroup valid (d :: rest) with
        | some (ds, rest) => some (c :: ds, rest)
        | none => none
      else some ([c], '_' :: d :: rest)
    else none
  | c :: rest =>
    if valid c then
      match digitGroup valid rest with
      | some (ds, rest) => some (c :: ds, rest)
      | none => some ([c], rest)
    else none
  | [] => none

/-- A sign, if there is one: whether it is a minus. -/
def sign : List Char → Bool × List Char
  | '-' :: rest => (true, rest)
  | '+' :: rest => (false, rest)
  | s => (false, s)

/-- Decimal digits of a whole number: zero has no further digits behind it. -/
def wholeDigits : Reader (List Char)
  | '0' :: rest => some (['0'], rest)
  | s => digitGroup Char.isDigit s

/-- The value of digits to a base. -/
def valueOf (base : Nat) (digits : List Char) : Nat :=
  digits.foldl (fun n c => n * base + Text.hexValue c) 0

/-- A whole number of 64 bits with its sign. -/
def inRange? (n : Int) : Option Toml :=
  if -(Decimal.twoTo 63) ≤ n ∧ n < Decimal.twoTo 63 then some (.integer n) else none

/-- A whole number. -/
def readInteger : Reader Toml := fun s =>
  let based (base : Nat) (valid : Char → Bool) (rest : List Char) : Option (Toml × List Char) := do
    let (digits, rest) ← digitGroup valid rest
    pure (← inRange? (valueOf base digits), rest)
  match s with
  | '0' :: 'x' :: rest => based 16 Text.isHexDigit rest
  | '0' :: 'o' :: rest => based 8 (fun c => '0' ≤ c && c ≤ '7') rest
  | '0' :: 'b' :: rest => based 2 (fun c => c == '0' || c == '1') rest
  | _ => do
    let (negative, rest) := sign s
    let (digits, rest) ← wholeDigits rest
    let n : Int := valueOf 10 digits
    pure (← inRange? (if negative then -n else n), rest)

/-- The places before which a decimal has to end to be a finite double. -/
def finitePlaces : Int := 309

/-- The least number that is rounded to infinity. -/
def infiniteFrom : Nat := Decimal.twoTo 1024 - Decimal.twoTo 970

/-- Whether the double nearest to `n · 10^e` is finite. -/
def isFinite (n : Nat) (e : Int) : Bool :=
  let places : Int := (toString n).length + e
  if n = 0 || places < finitePlaces then true
  else if finitePlaces < places then false
  else if 0 ≤ e then n * Decimal.tenTo e.toNat < infiniteFrom
  else n < infiniteFrom * Decimal.tenTo (-e).toNat

/-- The fraction of a float. -/
def fraction? : Reader (List Char)
  | '.' :: rest => digitGroup Char.isDigit rest
  | _ => none

/-- The exponent of a float. -/
def exponent? : Reader Int
  | c :: rest =>
    if c = 'e' ∨ c = 'E' then
      let (negative, rest) := sign rest
      match digitGroup Char.isDigit rest with
      | some (digits, rest) =>
        let n : Int := valueOf 10 digits
        some (if negative then -n else n, rest)
      | none => none
    else none
  | [] => none

/-- A float. -/
def readFloat : Reader Toml := fun s =>
  let (negative, rest) := sign s
  let mark := if negative then ['-'] else []
  match rest with
  | 'i' :: 'n' :: 'f' :: rest => some (.float (mark ++ ['i', 'n', 'f']), rest)
  | 'n' :: 'a' :: 'n' :: rest => some (.float (mark ++ ['n', 'a', 'n']), rest)
  | _ => do
    let (whole, rest) ← wholeDigits rest
    let (places, rest) ← match fraction? rest with
      | some (places, rest) => some (some places, rest)
      | none => if rest.head? = some '.' then none else some (none, rest)
    let (power, rest) ← match exponent? rest with
      | some (power, rest) => some (some power, rest)
      | none => if rest.head? = some 'e' ∨ rest.head? = some 'E' then none else some (none, rest)
    if places.isNone && power.isNone then none
    else
      let places := places.getD []
      let power := power.getD 0
      if isFinite (valueOf 10 (whole ++ places)) (power - places.length) then
        some (.float (mark ++ whole ++ '.' :: places ++ 'e' :: (toString power).toList), rest)
      else none

/-! ## Dates and times -/

/-- A number of exactly `count` digits between two bounds. -/
def fixedNumber (count least most : Nat) : Reader Nat := fun s =>
  let digits := s.take count
  let n := valueOf 10 digits
  if digits.length = count ∧ digits.all Char.isDigit ∧ least ≤ n ∧ n ≤ most then
    some (n, s.drop count)
  else none

/-- The text behind a character. -/
def char? (c : Char) : List Char → Option (List Char)
  | [] => none
  | d :: rest => if d = c then some rest else none

/-- The number of days of a month. -/
def daysIn (year month : Nat) : Nat :=
  if month = 2 then
    if year % 4 = 0 && (year % 100 != 0 || year % 400 = 0) then 29 else 28
  else if month = 4 || month = 6 || month = 9 || month = 11 then 30
  else 31

/-- The text behind a date. -/
def date? (s : List Char) : Option (List Char) := do
  let (year, s) ← fixedNumber 4 0 9999 s
  let (month, s) ← fixedNumber 2 1 12 (← char? '-' s)
  let (_, s) ← fixedNumber 2 1 (daysIn year month) (← char? '-' s)
  pure s

/-- The text behind the fraction of a second, if there is one. -/
def secondFraction? (s : List Char) : Option (List Char) :=
  match s with
  | '.' :: rest =>
    match rest.takeWhile Char.isDigit with
    | [] => none
    | _ => some (rest.dropWhile Char.isDigit)
  | _ => some s

/-- The text behind a time. -/
def time? (s : List Char) : Option (List Char) := do
  let (_, s) ← fixedNumber 2 0 23 s
  let (_, s) ← fixedNumber 2 0 59 (← char? ':' s)
  let (_, s) ← fixedNumber 2 0 60 (← char? ':' s)
  secondFraction? s

/-- The text behind the offset of a time, if there is one. -/
def offset? (s : List Char) : Option (List Char) :=
  match s with
  | 'Z' :: rest | 'z' :: rest => some rest
  | '+' :: rest | '-' :: rest => do
    let (_, s) ← fixedNumber 2 0 23 rest
    let (_, s) ← fixedNumber 2 0 59 (← char? ':' s)
    pure s
  | _ => some s

/-- The text behind the time that may follow a date. -/
def timeAfterDate? (s : List Char) : Option (List Char) :=
  match s with
  | c :: rest =>
    if c = 'T' ∨ c = 't' then (time? rest).bind offset?
    else if c = ' ' then
      match time? rest with
      | some rest => offset? rest
      | none => some s
    else some s
  | [] => some s

/-- A date, a time, or a date with a time. -/
def readDatetime : Reader Toml := fun s =>
  let rest := match date? s with
    | some rest => timeAfterDate? rest
    | none => time? s
  rest.map fun rest => (.datetime (s.take (s.length - rest.length)), rest)

end LiveBundle.Toml
