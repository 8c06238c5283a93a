import LiveBundle.Decimal.Binary64
import LiveBundle.Json.Basic
import LiveBundle.Text.Basic

/-!
# Reading JSON texts

A reader takes characters from the front of a text and leaves the rest, also when it fails: the
rest tells where a fault without a place of its own was found. Containers may be nested 127 deep.

A fault is a cause and, once it is known, a place. Places are kept as the number of bytes that were
not read yet; a message counts lines from one and the bytes since the last line feed.

* `Reader.value` reads any value, `Reader.skipValue` passes over one without keeping it.
* `Reader.list` and `Reader.entries` walk through a container whose items another reader takes.
* `Json.parse` reads a whole text.
-/

namespace LiveBundle.Json

/-! ## Faults -/

/-- Why a text is not the JSON that was expected. -/
inductive Cause where
  | eofInList
  | eofInObject
  | eofInString
  | eofInValue
  | expectedColon
  | expectedListCommaOrEnd
  | expectedObjectCommaOrEnd
  | expectedIdent
  | expectedValue
  | invalidEscape
  | invalidNumber
  | numberOutOfRange
  | controlCharacter
  | keyMustBeString
  | loneSurrogate
  | trailingComma
  | trailingCharacters
  | unexpectedEndOfHexEscape
  | recursionLimit
  /-- A value of another kind than the expected one. -/
  | invalidType (found expected : String)
  /-- A list that ends too early. -/
  | invalidLength (length : Nat) (expected : String)
  | duplicateField (name : String)
  | missingField (name : String)
deriving DecidableEq, Repr

/-- The cause in words. -/
def Cause.text : Cause → String
  | .eofInList => "EOF while parsing a list"
  | .eofInObject => "EOF while parsing an object"
  | .eofInString => "EOF while parsing a string"
  | .eofInValue => "EOF while parsing a value"
  | .expectedColon => "expected `:`"
  | .expectedListCommaOrEnd => "expected `,` or `]`"
  | .expectedObjectCommaOrEnd => "expected `,` or `\x7d`"
  | .expectedIdent => "expected ident"
  | .expectedValue => "expected value"
  | .invalidEscape => "invalid escape"
  | .invalidNumber => "invalid number"
  | .numberOutOfRange => "number out of range"
  | .controlCharacter => "control character (\\u0000-\\u001F) found while parsing a string"
  | .keyMustBeString => "key must be a string"
  | .loneSurrogate => "lone leading surrogate in hex escape"
  | .trailingComma => "trailing comma"
  | .trailingCharacters => "trailing characters"
  | .unexpectedEndOfHexEscape => "unexpected end of hex escape"
  | .recursionLimit => "recursion limit exceeded"
  | .invalidType found expected => "invalid type: " ++ found ++ ", expected " ++ expected
  | .invalidLength length expected =>
    "invalid length " ++ toString length ++ ", expected " ++ expected
  | .duplicateField name => "duplicate field `" ++ name ++ "`"
  | .missingField name => "missing field `" ++ name ++ "`"

/-- A cause with the number of bytes that were unread where it was found. -/
structure Fault where
  cause : Cause
  unread : Option Nat
deriving DecidableEq, Repr

/-- Line and column of a byte index: lines from one, and the bytes since the last line feed. -/
def place : Nat → List Char → Nat × Nat → Nat × Nat
  | _, [], at_ => at_
  | index, c :: cs, (line, column) =>
    if index = 0 then (line, column)
    else if c = '\n' then place (index - 1) cs (line + 1, 0)
    else place (index - c.utf8Size) cs (line, column + min index c.utf8Size)

/-- The message of a fault in a text. -/
def Fault.message (text : String) (fault : Fault) : String :=
  match fault.unread with
  | none => fault.cause.text
  | some unread =>
    let cs := text.toList
    let (line, column) := place (Text.byteSize cs - unread) cs (1, 0)
    fault.cause.text ++ " at line " ++ toString line ++ " column " ++ toString column

/-! ## Readers -/

/-- What a reader gives: a value or a fault, and the text that it left. -/
inductive Outcome (α : Type) where
  | done (value : α) (rest : List Char)
  | failed (fault : Fault) (rest : List Char)

/-- A reader of values of type `α`. -/
def Reader (α : Type) : Type := List Char → Outcome α

namespace Reader

variable {α β : Type}

/-- Reads nothing. -/
def pure (a : α) : Reader α := fun s => .done a s

/-- Reads with `r` and then with the reader chosen by its value. -/
def bind (r : Reader α) (f : α → Reader β) : Reader β := fun s =>
  match r s with
  | .done a rest => f a rest
  | .failed fault rest => .failed fault rest

instance : Monad Reader where
  pure := pure
  bind := bind

/-- Fails at the next character: the place is behind it, or the end of the text. -/
def failNext (cause : Cause) : Reader α := fun s =>
  .failed ⟨cause, some (Text.byteSize s - 1)⟩ s

/-- Fails at the present place. -/
def failHere (cause : Cause) : Reader α := fun s => .failed ⟨cause, some (Text.byteSize s)⟩ s

/-- Fails at a place that is still to be told. -/
def fail (cause : Cause) : Reader α := fun s => .failed ⟨cause, none⟩ s

/-- Gives a fault of `r` that has no place the place where `r` stopped. -/
def located (r : Reader α) : Reader α := fun s =>
  match r s with
  | .failed ⟨cause, none⟩ rest => .failed ⟨cause, some (Text.byteSize rest)⟩ rest
  | outcome => outcome

/-- Runs `close` after `r`, also if `r` failed; the fault of `r` comes first. -/
def closing (r : Reader α) (close : Reader Unit) : Reader α := fun s =>
  match r s with
  | .done a rest =>
    match close rest with
    | .done _ rest => .done a rest
    | .failed fault rest => .failed fault rest
  | .failed fault rest =>
    match close rest with
    | .done _ rest => .failed fault rest
    | .failed _ rest => .failed fault rest

/-- Blanks between tokens. -/
def isSpace (c : Char) : Bool := c == ' ' || c == '\n' || c == '\t' || c == '\r'

/-- Passes over blanks. -/
def skipSpace : Reader Unit := fun s => .done () (s.dropWhile isSpace)

/-- The next character, which is not taken. -/
def peek : Reader (Option Char) := fun s => .done s.head? s

/-- Takes a character. -/
def advance : Reader Unit := fun s => .done () s.tail

/-- The number of characters left, a bound on the steps of a loop. -/
def remaining : Reader Nat := fun s => .done s.length s

/-- The character after the blanks, which is not taken. -/
def peekToken : Reader (Option Char) := do
  skipSpace
  peek

/-- Takes the letters of a word. -/
def word : List Char → Reader Unit
  | [] => pure ()
  | c :: cs => do
    match ← peek with
    | none => failHere .eofInValue
    | some next =>
      if next = c then do
        advance
        word cs
      else failNext .expectedIdent

/-! ## Strings -/

/-- The value of a hexadecimal digit. -/
def hexDigit? (c : Char) : Option Nat :=
  if c.isDigit then some (c.toNat - '0'.toNat)
  else if 'a' ≤ c && c ≤ 'f' then some (c.toNat - 'a'.toNat + 10)
  else if 'A' ≤ c && c ≤ 'F' then some (c.toNat - 'A'.toNat + 10)
  else none

/-- The value of four hexadecimal digits. -/
def hexQuad? (a b c d : Char) : Option Nat := do
  some ((((← hexDigit? a) * 16 + (← hexDigit? b)) * 16 + (← hexDigit? c)) * 16 + (← hexDigit? d))

/-- Fails where four hexadecimal digits should be. -/
def failHex : Reader Nat := fun s =>
  if Text.byteSize s < 4 then .failed ⟨.eofInString, some 0⟩ []
  else .failed ⟨.invalidEscape, some (Text.byteSize s - 4)⟩ (s.drop 4)

/-- Four hexadecimal digits. -/
def hexEscape : Reader Nat := fun s =>
  match s with
  | a :: b :: c :: d :: rest =>
    match hexQuad? a b c d with
    | some n => .done n rest
    | none => failHex s
  | _ => failHex s

/-- The next character, for a string that may not end here. -/
def peekInString : Reader Char := do
  match ← peek with
  | none => failHere .eofInString
  | some c => pure c

/-- The character of an escape with a code unit, whose `\u` is taken. A leading surrogate needs a
second escape. -/
def unicodeEscape : Reader Char := do
  let unit ← hexEscape
  if 0xDC00 ≤ unit && unit ≤ 0xDFFF then failHere .loneSurrogate
  else if unit < 0xD800 || 0xDBFF < unit then pure (Char.ofNat unit)
  else
    if (← peekInString) ≠ '\\' then failNext .unexpectedEndOfHexEscape
    else do
      advance
      if (← peekInString) ≠ 'u' then failNext .unexpectedEndOfHexEscape
      else do
        advance
        let low ← hexEscape
        if low < 0xDC00 || 0xDFFF < low then failHere .loneSurrogate
        else pure (Char.ofNat ((unit - 0xD800) * 1024 + (low - 0xDC00) + 0x10000))

/-- The characters that a backslash and a letter stand for. -/
def simpleEscape? (c : Char) : Option Char :=
  if c = '"' then some '"'
  else if c = '\\' then some '\\'
  else if c = '/' then some '/'
  else if c = 'b' then some '\x08'
  else if c = 'f' then some '\x0c'
  else if c = 'n' then some '\n'
  else if c = 'r' then some '\r'
  else if c = 't' then some '\t'
  else none

/-- The character of an escape, whose backslash is taken. -/
def escape : Reader Char := do
  let c ← peekInString
  match simpleEscape? c with
  | some e => do
    advance
    pure e
  | none =>
    if c = 'u' then do
      advance
      unicodeEscape
    else failNext .invalidEscape

/-- The characters of a string up to its closing quote, which is taken too. -/
def stringBody : Nat → Reader (List Char)
  | 0 => failHere .eofInString
  | fuel + 1 => do
    let c ← peekInString
    if c = '"' then do
      advance
      pure []
    else if c = '\\' then do
      advance
      let e ← escape
      let rest ← stringBody fuel
      pure (e :: rest)
    else if c.toNat < 0x20 then failNext .controlCharacter
    else do
      advance
      let rest ← stringBody fuel
      pure (c :: rest)

/-- A string, whose opening quote is next. -/
def quoted : Reader String := do
  advance
  let body ← stringBody ((← remaining) + 1)
  pure (String.ofList body)

/-- Passes over a string whose opening quote is taken; surrogates need not come in pairs. -/
def skipStringBody : Nat → Reader Unit
  | 0 => failHere .eofInString
  | fuel + 1 => do
    let c ← peekInString
    if c = '"' then advance
    else if c = '\\' then do
      advance
      let e ← peekInString
      if (simpleEscape? e).isSome then do
        advance
        skipStringBody fuel
      else if e = 'u' then do
        advance
        let _ ← hexEscape
        skipStringBody fuel
      else failNext .invalidEscape
    else if c.toNat < 0x20 then failHere .controlCharacter
    else do
      advance
      skipStringBody fuel

/-- Passes over a string. -/
def skipQuoted : Reader Unit := do
  advance
  skipStringBody ((← remaining) + 1)

/-! ## Numbers -/

/-- The largest whole number that is kept exactly. -/
def maxWhole : Nat := Decimal.twoTo 64 - 1

/-- Whether the next character is a decimal digit. -/
def atDigit : Reader Bool := do
  match ← peek with
  | some c => pure c.isDigit
  | none => pure false

/-- Takes the digits that come next. -/
def digits : Reader (List Char) := fun s =>
  .done (s.takeWhile Char.isDigit) (s.dropWhile Char.isDigit)

/-- The value of a digit. -/
def digitValue (c : Char) : Nat := c.toNat - '0'.toNat

/-- Appends digits to a significand as long as it stays a 64-bit number, and tells how many were
not appended. -/
def appendDigits : Nat → List Char → Nat × Nat
  | significand, [] => (significand, 0)
  | significand, c :: cs =>
    let next := significand * 10 + digitValue c
    if maxWhole < next then (significand, cs.length + 1) else appendDigits next cs

/-- `x · 10^exponent`, in steps of at most `10^308`. -/
def scaled : Nat → Float → Int → Option Float
  | 0, x, _ => some x
  | fuel + 1, x, exponent =>
    if exponent.natAbs ≤ 308 then
      let power := Float.ofScientific 1 false exponent.natAbs
      if 0 ≤ exponent then
        let y := x * power
        if y.isInf then none else some y
      else some (x / power)
    else if x == 0 then some x
    else if 0 ≤ exponent then none
    else scaled fuel (x / Float.ofScientific 1 false 308) (exponent + 308)

/-- The number with the given sign, significand and exponent. -/
def float (negative : Bool) (significand : Nat) (exponent : Int) : Reader Number :=
  match scaled (exponent.natAbs / 308 + 2) (Float.ofNat significand) exponent with
  | some x => pure (.float (if negative then -x else x))
  | none => failHere .numberOutOfRange

/-- The largest exponent that is read; larger ones stand for infinity or zero. -/
def maxExponent : Nat := Decimal.twoTo 31 - 1

/-- Reads the digits of an exponent after its first; nothing if the number gets too large. -/
def exponentDigits : Nat → Nat → Reader (Option Nat)
  | 0, value => pure (some value)
  | fuel + 1, value => do
    match ← peek with
    | some c =>
      if c.isDigit then do
        advance
        let next := value * 10 + digitValue c
        if maxExponent < next then pure none else exponentDigits fuel next
      else pure (some value)
    | none => pure (some value)

/-- The sign of an exponent. -/
def exponentSign : Reader Bool := do
  match ← peek with
  | some '+' => do
    advance
    pure false
  | some '-' => do
    advance
    pure true
  | _ => pure false

/-- The rest of a number from the letter of its exponent on. -/
def exponentPart (negative : Bool) (significand : Nat) (start : Int) : Reader Number := do
  advance
  let below ← exponentSign
  match ← peek with
  | none => failHere .eofInValue
  | some c =>
    if !c.isDigit then failNext .invalidNumber
    else do
      advance
      match ← exponentDigits ((← remaining) + 1) (digitValue c) with
      | some e => float negative significand (if below then start - e else start + e)
      | none =>
        if significand ≠ 0 && !below then failHere .numberOutOfRange
        else do
          let _ ← digits
          pure (.float (if negative then -0.0 else 0.0))

/-- Whether the next character starts an exponent. -/
def atExponent : Reader Bool := do
  match ← peek with
  | some c => pure (c == 'e' || c == 'E')
  | none => pure false

/-- The rest of a number from its point on. -/
def fractionPart (negative : Bool) (significand : Nat) (start : Int) : Reader Number := do
  advance
  let ds ← digits
  let (significand, dropped) := appendDigits significand ds
  if ds.isEmpty then
    match ← peek with
    | some _ => failNext .invalidNumber
    | none => failHere .eofInValue
  else
    let exponent := start - ((ds.length - dropped : Nat) : Int)
    if ← atExponent then exponentPart negative significand exponent
    else float negative significand exponent

/-- The rest of a number after its whole part. -/
def numberTail (negative : Bool) (significand dropped : Nat) : Reader Number := do
  match ← peek with
  | some '.' => fractionPart negative significand dropped
  | some c =>
    if c = 'e' || c = 'E' then exponentPart negative significand dropped
    else whole
  | none => whole
where
  /-- A number without fraction and exponent. -/
  whole : Reader Number :=
    if dropped ≠ 0 then float negative significand dropped
    else if !negative then pure (.nat significand)
    else if significand = 0 || Decimal.twoTo 63 < significand then
      pure (.float (-Float.ofNat significand))
    else pure (.negative significand)

/-- A number whose sign is taken. -/
def number (negative : Bool) : Reader Number := do
  match ← peek with
  | none => failHere .eofInValue
  | some c =>
    if c = '0' then do
      advance
      if ← atDigit then failNext .invalidNumber else numberTail negative 0 0
    else if c.isDigit then do
      let (significand, dropped) := appendDigits 0 (← digits)
      numberTail negative significand dropped
    else failNext .invalidNumber

/-- Passes over a number whose sign is taken. -/
def skipNumber : Reader Unit := do
  match ← peek with
  | some c =>
    if c = '0' then do
      advance
      if ← atDigit then failNext .invalidNumber else fraction
    else if c.isDigit then do
      let _ ← digits
      fraction
    else failNext .invalidNumber
  | none => failHere .invalidNumber
where
  /-- The letter, sign and digits of an exponent, if there is one. -/
  exponent : Reader Unit := do
    if ← atExponent then
      advance
      let _ ← exponentSign
      if ← atDigit then
        let _ ← digits
        pure ()
      else failNext .invalidNumber
    else pure ()
  /-- The point and digits of a fraction, if there is one, and the exponent. -/
  fraction : Reader Unit := do
    if (← peek) = some '.' then
      advance
      if (← digits).isEmpty then failNext .invalidNumber else exponent
    else exponent

/-! ## Containers -/

/-- Whether a list has another item; `first` tells that none was read yet. -/
def hasItem (first : Bool) : Reader Bool := do
  match ← peekToken with
  | none => failNext .eofInList
  | some c =>
    if c = ']' then pure false
    else if first then pure true
    else if c = ',' then do
      advance
      match ← peekToken with
      | some ']' => failNext .trailingComma
      | some _ => pure true
      | none => failNext .eofInValue
    else failNext .expectedListCommaOrEnd

/-- Whether an object has another member, whose key is then next. -/
def hasMember (first : Bool) : Reader Bool := do
  match ← peekToken with
  | none => failNext .eofInObject
  | some c =>
    if c = '}' then pure false
    else if first then
      if c = '"' then pure true else failNext .keyMustBeString
    else if c = ',' then do
      advance
      match ← peekToken with
      | some '"' => pure true
      | some '}' => failNext .trailingComma
      | some _ => failNext .keyMustBeString
      | none => failNext .eofInValue
    else failNext .expectedObjectCommaOrEnd

/-- The colon between a key and its value. -/
def colon : Reader Unit := do
  match ← peekToken with
  | some ':' => advance
  | some _ => failNext .expectedColon
  | none => failNext .eofInObject

/-- The end of a list. -/
def endList : Reader Unit := do
  match ← peekToken with
  | some ']' => advance
  | some ',' => do
    advance
    match ← peekToken with
    | some ']' => failNext .trailingComma
    | _ => failNext .trailingCharacters
  | some _ => failNext .trailingCharacters
  | none => failNext .eofInList

/-- The end of an object. -/
def endObject : Reader Unit := do
  match ← peekToken with
  | some '}' => advance
  | some ',' => failNext .trailingComma
  | some _ => failNext .trailingCharacters
  | none => failNext .eofInObject

/-- Reads the items of a list one after the other. -/
def items (item : α → Reader α) : Nat → Bool → α → Reader α
  | 0, _, acc => pure acc
  | fuel + 1, first, acc => do
    if ← hasItem first then items item fuel false (← item acc) else pure acc

/-- Reads the members of an object one after the other; `member` gets the key, reads the colon and
the value, and adds them. -/
def members (member : String → α → Reader α) : Nat → Bool → α → Reader α
  | 0, _, acc => pure acc
  | fuel + 1, first, acc => do
    if ← hasMember first then
      let key ← quoted
      members member fuel false (← member key acc)
    else pure acc

/-- A list whose bracket is next, with `depth` levels of nesting left. -/
def list (depth : Nat) (start : α) (item : Nat → α → Reader α) : Reader α :=
  match depth with
  | 0 => failNext .recursionLimit
  | depth + 1 => do
    advance
    closing (do items (item depth) ((← remaining) + 1) true start) endList

/-- An object whose brace is next, with `depth` levels of nesting left. -/
def object (depth : Nat) (start : α) (member : Nat → String → α → Reader α)
    (finish : α → Reader β) : Reader β :=
  match depth with
  | 0 => failNext .recursionLimit
  | depth + 1 => do
    advance
    closing (do finish (← members (member depth) ((← remaining) + 1) true start)) endObject

/-! ## Values -/

/-- Puts a member into its place in key order, instead of an earlier one with the same key. -/
def insertMember (key : String) (value : Json) : List (String × Json) → List (String × Json)
  | [] => [(key, value)]
  | (k, v) :: rest =>
    if key < k then (key, value) :: (k, v) :: rest
    else if k < key then (k, v) :: insertMember key value rest
    else (key, value) :: rest

/-- A value with `depth` levels of nesting left. -/
def value : Nat → Reader Json
  | 0 => failNext .recursionLimit
  | depth + 1 => do
    match ← peekToken with
    | none => failNext .eofInValue
    | some c =>
      if c = 'n' then do
        advance
        word ['u', 'l', 'l']
        pure .null
      else if c = 't' then do
        advance
        word ['r', 'u', 'e']
        pure (.bool true)
      else if c = 'f' then do
        advance
        word ['a', 'l', 's', 'e']
        pure (.bool false)
      else if c = '-' then do
        advance
        pure (.number (← number true))
      else if c.isDigit then do pure (.number (← number false))
      else if c = '"' then do pure (.string (← quoted))
      else if c = '[' then do
        let all ← list depth [] fun _ acc => do pure ((← value depth) :: acc)
        pure (.array all.reverse)
      else if c = '{' then do
        object depth [] (fun _ key acc => do
          colon
          pure (insertMember key (← value depth) acc)) fun all => pure (.object all)
      else failNext .expectedValue

/-- Passes over a value of any depth. -/
def skipValue : Nat → Reader Unit
  | 0 => failNext .expectedValue
  | fuel + 1 => do
    match ← peekToken with
    | none => failNext .eofInValue
    | some c =>
      if c = 'n' then do
        advance
        word ['u', 'l', 'l']
      else if c = 't' then do
        advance
        word ['r', 'u', 'e']
      else if c = 'f' then do
        advance
        word ['a', 'l', 's', 'e']
      else if c = '-' then do
        advance
        skipNumber
      else if c.isDigit then skipNumber
      else if c = '"' then skipQuoted
      else if c = '[' then do
        advance
        skipList fuel true (skipValue fuel)
      else if c = '{' then do
        advance
        skipObject fuel true (skipValue fuel)
      else failNext .expectedValue
where
  /-- Passes over the items of a list and its end. -/
  skipList : Nat → Bool → Reader Unit → Reader Unit
    | 0, _, _ => failNext .eofInList
    | fuel + 1, first, item => do
      match ← peekToken with
      | none => failNext .eofInList
      | some c =>
        if c = ']' then advance
        else if first then do
          item
          skipList fuel false item
        else if c = ',' then do
          advance
          item
          skipList fuel false item
        else failNext .expectedListCommaOrEnd
  /-- Passes over a key, its colon and its value. -/
  skipMember (item : Reader Unit) : Reader Unit := do
    match ← peekToken with
    | some '"' => do
      skipQuoted
      match ← peekToken with
      | some ':' => do
        advance
        item
      | some _ => failNext .expectedColon
      | none => failNext .eofInObject
    | some _ => failNext .keyMustBeString
    | none => failNext .eofInObject
  /-- Passes over the members of an object and its end. -/
  skipObject : Nat → Bool → Reader Unit → Reader Unit
    | 0, _, _ => failNext .eofInObject
    | fuel + 1, first, item => do
      match ← peekToken with
      | none => failNext .eofInObject
      | some c =>
        if c = '}' then advance
        else if first then do
          skipMember item
          skipObject fuel false item
        else if c = ',' then do
          advance
          skipMember item
          skipObject fuel false item
        else failNext .expectedObjectCommaOrEnd

/-- Passes over a value. -/
def ignored : Reader Unit := do skipValue ((← remaining) + 1)

/-- Reads with `r` a text in which nothing but blanks may follow. -/
def whole (r : Reader α) (text : String) : Except Fault α :=
  match bind r (fun a => bind peekToken fun next =>
      if next.isSome then failNext .trailingCharacters else pure a) text.toList with
  | .done a _ => .ok a
  | .failed fault _ => .error fault

end Reader

/-- Levels of nesting that a value may use, itself included. -/
def maxDepth : Nat := 128

/-- Reads a whole text as one value. -/
def parse (text : String) : Except Fault Json := Reader.whole (Reader.value maxDepth) text

end LiveBundle.Json
