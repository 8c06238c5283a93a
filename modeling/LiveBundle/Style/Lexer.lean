import LiveBundle.Decimal.Binary64
import LiveBundle.Style.Token
import LiveBundle.Text.CharClass

/-!
# Reading tokens

Cuts the text of a style sheet into tokens. Names may hold escapes and every character above ASCII;
a number takes the longest text that is one, and a name directly behind it is its unit. Nothing is
refused here: a string that is broken by a line end and an address with a stray quote are tokens of
their own, which no grammar accepts.

* `Lexeme.ofText` cuts a text, `piecesOf` builds the tree of its pieces.
-/

namespace LiveBundle.Style

namespace Lexer

/-- Line breaks. -/
def isNewline (c : Char) : Bool := c == '\n' || c == '\r' || c == '\x0c'

/-- White space. -/
def isSpace (c : Char) : Bool := c == ' ' || c == '\t' || isNewline c

/-- Characters that may start a name. -/
def isNameStart (c : Char) : Bool :=
  c.isAlpha || c == '_' || c == '\x00' || 0x80 ≤ c.toNat

/-- Characters of names. -/
def isNameChar (c : Char) : Bool := isNameStart c || c.isDigit || c == '-'

/-- The character that stands for what is no character. -/
def replacement : Char := Char.ofNat 0xFFFD

/-- Whether an escape begins here. -/
def startsEscape : List Char → Bool
  | '\\' :: c :: _ => !isNewline c
  | ['\\'] => true
  | _ => false

/-- Whether a name begins here. -/
def startsName : List Char → Bool
  | '-' :: rest =>
    match rest with
    | '-' :: _ => true
    | c :: _ => isNameStart c || startsEscape rest
    | [] => false
  | c :: rest => isNameStart c || startsEscape (c :: rest)
  | [] => false

/-- The text behind one white-space character that ends an escape. -/
def skipEscapeEnd : List Char → List Char
  | '\r' :: '\n' :: rest => rest
  | c :: rest => if isSpace c then rest else c :: rest
  | [] => []

/-- The character of an escape, given what follows the backslash, and the rest. -/
def escape : List Char → Char × List Char
  | [] => (replacement, [])
  | c :: rest =>
    if Text.isHexDigit c then
      let digits := ((c :: rest).take 6).takeWhile Text.isHexDigit
      let n := digits.foldl (fun n d => n * 16 + Text.hexValue d) 0
      let value := if n = 0 ∨ ¬ n.isValidChar then replacement else Char.ofNat n
      (value, skipEscapeEnd ((c :: rest).drop digits.length))
    else (if c = '\x00' then replacement else c, rest)

/-- A name and the rest; `fuel` bounds the number of characters. -/
def name : Nat → List Char → List Char × List Char
  | 0, s => ([], s)
  | fuel + 1, s =>
    match s with
    | [] => ([], [])
    | c :: rest =>
      if c = '\\' then
        if startsEscape s then
          let (value, rest) := escape rest
          let (more, rest) := name fuel rest
          (value :: more, rest)
        else ([], s)
      else if isNameChar c then
        let (more, rest) := name fuel rest
        ((if c = '\x00' then replacement else c) :: more, rest)
      else ([], s)

/-- The value of a string and the rest, given what follows the quote. A line break ends a string
badly, the end of the text well. -/
def string (quote : Char) : Nat → List Char → List Char → Token × List Char
  | 0, value, s => (.string (String.ofList value.reverse), s)
  | fuel + 1, value, s =>
    match s with
    | [] => (.string (String.ofList value.reverse), [])
    | '\\' :: '\r' :: '\n' :: rest => string quote fuel value rest
    | '\\' :: rest =>
      match rest with
      | [] => (.string (String.ofList value.reverse), [])
      | c :: more =>
        if isNewline c then string quote fuel value more
        else
          let (c, rest) := escape rest
          string quote fuel (c :: value) rest
    | c :: rest =>
      if c = quote then (.string (String.ofList value.reverse), rest)
      else if isNewline c then (.badString, s)
      else string quote fuel ((if c = '\x00' then replacement else c) :: value) rest

/-- The text behind a broken address. -/
def skipBadUrl : List Char → List Char
  | [] => []
  | '\\' :: ')' :: rest => skipBadUrl rest
  | '\\' :: '\\' :: rest => skipBadUrl rest
  | ')' :: rest => rest
  | _ :: rest => skipBadUrl rest

/-- Characters that no address without quotes may hold. -/
def isUnprintable (c : Char) : Bool :=
  let n := c.toNat
  (1 ≤ n && n ≤ 8) || n == 0x0B || (0x0E ≤ n && n ≤ 0x1F) || n == 0x7F

/-- An address without quotes. -/
def url : Nat → List Char → List Char → Token × List Char
  | 0, value, s => (.url (String.ofList value.reverse), s)
  | fuel + 1, value, s =>
    match s with
    | [] => (.url (String.ofList value.reverse), [])
    | ')' :: rest => (.url (String.ofList value.reverse), rest)
    | '\\' :: rest =>
      if startsEscape s then
        let (c, rest) := escape rest
        url fuel (c :: value) rest
      else (.badUrl, skipBadUrl rest)
    | c :: rest =>
      if isSpace c then
        match rest.dropWhile isSpace with
        | [] => (.url (String.ofList value.reverse), [])
        | ')' :: rest => (.url (String.ofList value.reverse), rest)
        | rest => (.badUrl, skipBadUrl rest)
      else if c = '"' || c = '\'' || c = '(' || isUnprintable c then
        (.badUrl, skipBadUrl rest)
      else url fuel ((if c = '\x00' then replacement else c) :: value) rest

/-- A name, or a function or address if a bracket follows. -/
def identLike (s : List Char) : Token × List Char :=
  let (value, rest) := name s.length s
  let ident := String.ofList value
  match rest with
  | '(' :: rest =>
    if value.map Char.toLower = ['u', 'r', 'l'] then
      match rest.dropWhile isSpace with
      | '"' :: _ => (.function ident, rest)
      | '\'' :: _ => (.function ident, rest)
      | inner => url (inner.length + 1) [] inner
    else (.function ident, rest)
  | rest => (.ident ident, rest)

/-- The value of a row of decimal digits. -/
def digitsValue (digits : List Char) : Nat :=
  digits.foldl (fun n d => n * 10 + (d.toNat - '0'.toNat)) 0

/-- Whether a number begins here. -/
def startsNumber : List Char → Bool
  | c :: rest =>
    let unsigned := if c = '+' ∨ c = '-' then rest else c :: rest
    match unsigned with
    | '.' :: d :: _ => d.isDigit
    | d :: _ => d.isDigit
    | [] => false
  | [] => false

/-- The exponent of a number and the rest. -/
def exponent? : List Char → Option (Int × List Char)
  | e :: rest =>
    if e = 'e' ∨ e = 'E' then
      let (negative, digits) := match rest with
        | '-' :: rest => (true, rest)
        | '+' :: rest => (false, rest)
        | rest => (false, rest)
      match digits.takeWhile Char.isDigit with
      | [] => none
      | ds =>
        let n : Int := digitsValue ds
        some (if negative then -n else n, digits.dropWhile Char.isDigit)
    else none
  | [] => none

/-- Ten to a power; powers beyond `±400` count as `±400`. -/
def powerOfTen (e : Int) : Rat :=
  if 0 ≤ e then mkRat (Decimal.tenTo (min e 400).toNat) 1
  else mkRat 1 (Decimal.tenTo (min (-e) 400).toNat)

/-- A number and the rest. -/
def numeral (s : List Char) : Numeral × List Char :=
  let (signed, negative, rest) := match s with
    | '+' :: rest => (true, false, rest)
    | '-' :: rest => (true, true, rest)
    | rest => (false, false, rest)
  let whole := rest.takeWhile Char.isDigit
  let rest := rest.dropWhile Char.isDigit
  let (fraction, rest) := match rest with
    | '.' :: d :: more =>
      if d.isDigit then ((d :: more).takeWhile Char.isDigit, (d :: more).dropWhile Char.isDigit)
      else ([], rest)
    | _ => ([], rest)
  let size := mkRat (digitsValue (whole ++ fraction)) (Decimal.tenTo fraction.length)
  let (size, isWhole, rest) := match exponent? rest with
    | some (e, rest) => (size * powerOfTen e, false, rest)
    | none => (size, fraction.isEmpty, rest)
  (⟨if negative then -size else size, isWhole, signed⟩, rest)

/-- A number with what directly follows it. -/
def numeric (s : List Char) : Token × List Char :=
  let (n, rest) := numeral s
  match rest with
  | '%' :: rest => (.percentage n, rest)
  | rest =>
    if startsName rest then
      let (unit, rest) := name rest.length rest
      (.dimension n (String.ofList unit), rest)
    else (.number n, rest)

/-- The text behind a comment, given what follows its start. -/
def skipComment : List Char → List Char
  | [] => []
  | '*' :: '/' :: rest => rest
  | _ :: rest => skipComment rest

/-- A character that may be followed by an equals sign. -/
def comparison (c : Char) (rest : List Char) : Token × List Char :=
  match rest with
  | '=' :: rest => (.comparison c, rest)
  | rest => (.delim c, rest)

/-- The first token of a text that starts with `c`. -/
def token (c : Char) (rest : List Char) : Token × List Char :=
  if isSpace c then (.space, rest.dropWhile isSpace)
  else match c with
    | '"' => string '"' (rest.length + 1) [] rest
    | '\'' => string '\'' (rest.length + 1) [] rest
    | '#' =>
      let isIdent := startsName rest
      let continues := match rest with
        | d :: _ => d.isDigit || d == '-'
        | [] => false
      if isIdent || continues then
        let (value, rest) := name rest.length rest
        (.hash (String.ofList value) isIdent, rest)
      else (.delim '#', rest)
    | '(' => (.opening .paren, rest)
    | ')' => (.closing .paren, rest)
    | '[' => (.opening .square, rest)
    | ']' => (.closing .square, rest)
    | '\x7b' => (.opening .curly, rest)
    | '\x7d' => (.closing .curly, rest)
    | '$' => comparison '$' rest
    | '*' => comparison '*' rest
    | '^' => comparison '^' rest
    | '|' => comparison '|' rest
    | '~' => comparison '~' rest
    | ',' => (.comma, rest)
    | ':' => (.colon, rest)
    | ';' => (.semicolon, rest)
    | '/' =>
      match rest with
      | '*' :: rest => (.comment, skipComment rest)
      | rest => (.delim '/', rest)
    | '<' =>
      match rest with
      | '!' :: '-' :: '-' :: rest => (.documentComment, rest)
      | rest => (.delim '<', rest)
    | '@' =>
      if startsName rest then
        let (value, rest) := name rest.length rest
        (.atKeyword (String.ofList value), rest)
      else (.delim '@', rest)
    | _ =>
      if startsNumber (c :: rest) then numeric (c :: rest)
      else
        match c, rest with
        | '-', '-' :: '>' :: rest => (.documentComment, rest)
        | _, _ =>
          if startsName (c :: rest) then identLike (c :: rest) else (.delim c, rest)

/-- The tokens of a text; `fuel` bounds their number. -/
def tokens : Nat → List Char → List Lexeme
  | 0, _ => []
  | _ + 1, [] => []
  | fuel + 1, c :: cs =>
    let (t, rest) := token c cs
    let source := (c :: cs).take (cs.length + 1 - rest.length)
    ⟨t, String.ofList source⟩ :: tokens fuel rest

end Lexer

/-- The tokens of a text. -/
def Lexeme.ofText (s : List Char) : List Lexeme := Lexer.tokens s.length s

/-- The tree of pieces of a text. -/
def piecesOf (s : List Char) : List Piece := Piece.ofTokens (Lexeme.ofText s)

end LiveBundle.Style
