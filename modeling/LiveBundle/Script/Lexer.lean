import LiveBundle.Text.CharClass

/-!
# Scanning tokens

A token is what the scanner finds at a place: its kind, its length in characters, and whether a
line break comes before it. Names and keywords are both words; which words are reserved depends on
where they stand.

`nextToken` reads the token at the front of a text. Scanners walk down the list of characters; one
that reads several characters at once passes the number still to be skipped along, so that all of
them recurse on the text itself. Lengths count characters.

* `blanks` is the number of characters of white space and comments in front, and whether a line
  break is among them.
* `regexLength?` and `templatePart` scan the tokens that only the grammar can tell from others.
-/

namespace LiveBundle.Script

/-- What a token is. -/
inductive TokenKind where
  | eof
  /-- Characters that start no token. -/
  | bad
  /-- A name or keyword, with escapes replaced; `escaped` tells whether there were any. -/
  | word (text : String) (escaped : Bool)
  /-- A name with `#` in front. -/
  | privateName
  | punct (text : String)
  | number
  | bigint
  | string (value : String)
  /-- A piece of a template; `last` tells that the template ends with it, `wellFormed` that its
  escapes are valid. -/
  | template (last wellFormed : Bool)
  | regex
deriving DecidableEq, Repr

/-- A token with its length in characters. -/
structure Token where
  kind : TokenKind
  length : Nat
  lineBreakBefore : Bool := false
deriving DecidableEq, Repr

/-- The words that are never names. -/
def reservedWords : List String := [
  "break", "case", "catch", "class", "const", "continue", "debugger", "default", "delete", "do",
  "else", "enum", "export", "extends", "false", "finally", "for", "function", "if", "import", "in",
  "instanceof", "new", "null", "return", "super", "switch", "this", "throw", "true", "try",
  "typeof", "var", "void", "while", "with"]

/-- Whether a word is never a name. -/
def isReserved (text : String) : Bool := reservedWords.contains text

/-- The punctuators, a longer one before its own beginnings. Closing angle brackets are separate
tokens; operators are put together from them where one may stand. -/
def punctuators : List String := [
  "...", "===", "!==", "**=", "<<=", "&&=", "||=", "??=", "=>", "==", "!=", "<=", "&&", "||", "??",
  "?.", "++", "--", "+=", "-=", "*=", "/=", "%=", "&=", "|=", "^=", "<<", "**", "\x7b", "\x7d", "(",
  ")", "[", "]", ";", ",", "<", ">", "+", "-", "*", "/", "%", "&", "|", "^", "!", "~", "?", ":",
  "=", ".", "@"]

/-- The operators that start with a closing angle bracket, longest first. -/
def angleOperators : List String := [">>>=", ">>>", ">>=", ">>", ">="]

end LiveBundle.Script

namespace LiveBundle.Script.Lexer

open Text (isIdStart isIdContinue isHexDigit hexValue)

/-- Line terminators. -/
def isLineEnd (c : Char) : Bool :=
  c == '\n' || c == '\r' || c == '\u2028' || c == '\u2029'

/-- White space other than line terminators. -/
def isSpace (c : Char) : Bool :=
  let n := c.toNat
  c == ' ' || c == '\t' || n == 0x0B || n == 0x0C || n == 0x85 || n == 0xA0 || n == 0x1680 ||
    (0x2000 ≤ n && n ≤ 0x200B) || n == 0x202F || n == 0x205F || n == 0x3000 || n == 0xFEFF

/-- Characters that start a name. -/
def isNameStart (c : Char) : Bool := c == '$' || c == '_' || isIdStart c

/-- Characters that continue a name. -/
def isNamePart (c : Char) : Bool :=
  c == '$' || isIdContinue c || c == '\u200c' || c == '\u200d'

/-! ## Blanks -/

/-- Where the scan of blanks is. -/
inductive BlankMode where
  | outside
  | lineComment
  | blockComment
  /-- One more character of a comment's delimiter is to be skipped. -/
  | enter (block : Bool)
  | leave

/-- The number of characters up to the next token and whether a line break is among them; nothing
if a comment is not closed. -/
def blanks : BlankMode → Bool → Nat → List Char → Option (Nat × Bool)
  | .blockComment, _, _, [] | .enter _, _, _, [] | .leave, _, _, [] => none
  | _, broken, n, [] => some (n, broken)
  | .enter block, broken, n, _ :: cs =>
    blanks (if block then .blockComment else .lineComment) broken (n + 1) cs
  | .leave, broken, n, _ :: cs => blanks .outside broken (n + 1) cs
  | .lineComment, broken, n, c :: cs =>
    if isLineEnd c then blanks .outside true (n + 1) cs else blanks .lineComment broken (n + 1) cs
  | .blockComment, broken, n, c :: cs =>
    if c = '*' && cs.head? = some '/' then blanks .leave broken (n + 1) cs
    else blanks .blockComment (broken || isLineEnd c) (n + 1) cs
  | .outside, broken, n, c :: cs =>
    if isLineEnd c then blanks .outside true (n + 1) cs
    else if isSpace c then blanks .outside broken (n + 1) cs
    else if c = '/' && cs.head? = some '/' then blanks (.enter false) broken (n + 1) cs
    else if c = '/' && cs.head? = some '*' then blanks (.enter true) broken (n + 1) cs
    else some (n, broken)

/-- The number of characters of a first line that starts with `#!`. -/
def hashbang (s : List Char) : Nat :=
  match s with
  | '#' :: '!' :: rest => 2 + (rest.takeWhile fun c => !isLineEnd c).length
  | _ => 0

/-! ## Escapes -/

/-- A character of a string's value, or a surrogate without its partner. -/
inductive Piece where
  | char (c : Char)
  | surrogate (unit : Nat)

/-- The number written by hexadecimal digits up to a closing brace, with the number of characters
read, brace included. -/
def bracedHex (value count : Nat) : List Char → Option (Nat × Nat)
  | [] => none
  | c :: cs =>
    if c = '}' then if count = 0 then none else some (value, count + 1)
    else if isHexDigit c then
      let value := value * 16 + hexValue c
      if value ≤ 0x10FFFF then bracedHex value (count + 1) cs else none
    else none

/-- The number written by four hexadecimal digits. -/
def hex4? : List Char → Option Nat
  | a :: b :: c :: d :: _ =>
    if isHexDigit a && isHexDigit b && isHexDigit c && isHexDigit d then
      some (((hexValue a * 16 + hexValue b) * 16 + hexValue c) * 16 + hexValue d)
    else none
  | _ => none

/-- The code point after `\u` and the number of characters it is written with. -/
def unicode? (s : List Char) : Option (Nat × Nat) :=
  match s with
  | '{' :: rest => (bracedHex 0 0 rest).map fun (value, count) => (value, count + 1)
  | _ => (hex4? s).map fun value => (value, 4)

/-- Whether a code unit is the first half of a surrogate pair. -/
def isHighSurrogate (n : Nat) : Bool := 0xD800 ≤ n && n ≤ 0xDBFF

/-- Whether a code unit is the second half of a surrogate pair. -/
def isLowSurrogate (n : Nat) : Bool := 0xDC00 ≤ n && n ≤ 0xDFFF

/-- The piece after `\u`; a pair of escapes for surrogates makes one character. -/
def unicodePiece? (s : List Char) : Option (Piece × Nat) :=
  match unicode? s with
  | none => none
  | some (n, count) =>
    if isHighSurrogate n then
      match s.drop count with
      | '\\' :: 'u' :: rest =>
        match unicode? rest with
        | some (low, count') =>
          if isLowSurrogate low then
            some (.char (Char.ofNat ((n - 0xD800) * 1024 + (low - 0xDC00) + 0x10000)),
              count + 2 + count')
          else some (.surrogate n, count)
        | none => some (.surrogate n, count)
      | _ => some (.surrogate n, count)
    else if isLowSurrogate n then some (.surrogate n, count)
    else some (.char (Char.ofNat n), count)

/-- Whether a character is an octal digit. -/
def isOctal (c : Char) : Bool := '0' ≤ c && c ≤ '7'

/-- The value of an octal escape and the number of its digits. -/
def octal (s : List Char) : Nat × Nat :=
  let value := fun (ds : List Char) => ds.foldl (fun n d => n * 8 + hexValue d) 0
  let ds := (s.take 3).takeWhile isOctal
  if 0o377 < value ds then (value (ds.take 2), 2) else (value ds, ds.length)

/-- The pieces that an escape stands for and the number of characters after the backslash. A
template admits no octal escapes. -/
def escape? (inTemplate : Bool) (s : List Char) : Option (List Piece × Nat) :=
  match s with
  | [] => none
  | c :: rest =>
    if c = 'n' then some ([.char '\n'], 1)
    else if c = 'r' then some ([.char '\r'], 1)
    else if c = 't' then some ([.char '\t'], 1)
    else if c = 'b' then some ([.char '\x08'], 1)
    else if c = 'v' then some ([.char '\x0b'], 1)
    else if c = 'f' then some ([.char '\x0c'], 1)
    else if c = '\r' then some ([], if rest.head? = some '\n' then 2 else 1)
    else if isLineEnd c then some ([], 1)
    else if c = 'x' then
      match rest with
      | a :: b :: _ =>
        if isHexDigit a && isHexDigit b then
          some ([.char (Char.ofNat (hexValue a * 16 + hexValue b))], 3)
        else none
      | _ => none
    else if c = 'u' then (unicodePiece? rest).map fun (piece, n) => ([piece], n + 1)
    else if c = '0' && !(rest.head?.any Char.isDigit) then some ([.char '\x00'], 1)
    else if isOctal c then
      if inTemplate then none
      else
        let (value, n) := octal s
        some ([.char (Char.ofNat value)], n)
    else if c.isDigit && inTemplate then none
    else some ([.char c], 1)

/-- The text of pieces. A surrogate without its partner is written as a replacement character and
its number, and a replacement character beside one in the same way. -/
def textOf (pieces : List Piece) : String :=
  let lone := pieces.any fun
    | .surrogate _ => true
    | .char _ => false
  let marked := fun (n : Nat) => '\ufffd' :: Nat.toDigits 16 n
  String.ofList (pieces.flatMap fun
    | .surrogate n => marked n
    | .char c => if lone && c == '\ufffd' then marked 0xFFFD else [c])

/-! ## Strings and templates -/

/-- The pieces of a string up to its closing quote and the number of characters, quote included;
the first `skip` characters belong to an escape. -/
def stringPieces (quote : Char) : Nat → Nat → List Char → Option (List Piece × Nat)
  | _, _, [] => none
  | skip + 1, n, _ :: cs => stringPieces quote skip (n + 1) cs
  | 0, n, c :: cs =>
    if c = quote then some ([], n + 1)
    else if c = '\n' || c = '\r' then none
    else if c = '\\' then
      match escape? false cs with
      | none => none
      | some (pieces, count) =>
        (stringPieces quote count (n + 1) cs).map fun (rest, n) => (pieces ++ rest, n)
    else (stringPieces quote 0 (n + 1) cs).map fun (rest, n) => (.char c :: rest, n)

/-- A piece of a template up to a closing backtick or the start of a substitution: the kind of the
token and the number of characters. -/
def templatePart (wellFormed : Bool) : Nat → Nat → List Char → Option (TokenKind × Nat)
  | _, _, [] => none
  | skip + 1, n, _ :: cs => templatePart wellFormed skip (n + 1) cs
  | 0, n, c :: cs =>
    if c = '`' then some (.template true wellFormed, n + 1)
    else if c = '$' && cs.head? = some '{' then some (.template false wellFormed, n + 2)
    else if c = '\\' then
      match escape? true cs with
      | some (_, count) => templatePart wellFormed count (n + 1) cs
      | none => templatePart false 1 (n + 1) cs
    else templatePart wellFormed 0 (n + 1) cs

/-! ## Regular expressions -/

/-- The flags of a regular expression, each at most once; the number of characters. -/
def regexFlags : List Char → List Char → Nat → Option Nat
  | _, [], n => some n
  | seen, c :: cs, n =>
    if isNamePart c then
      if ['d', 'g', 'i', 'm', 's', 'u', 'v', 'y'].contains c && !seen.contains c then
        regexFlags (c :: seen) cs (n + 1)
      else none
    else some n

/-- The number of characters of a regular expression after its opening slash. -/
def regexLength? (inClass : Bool) : Bool → Nat → List Char → Option Nat
  | _, _, [] => none
  | escaped, n, c :: cs =>
    if isLineEnd c then none
    else if escaped then regexLength? inClass false (n + 1) cs
    else if c = '\\' then regexLength? inClass true (n + 1) cs
    else if c = '[' then regexLength? true false (n + 1) cs
    else if c = ']' then regexLength? false false (n + 1) cs
    else if c = '/' && !inClass then regexFlags [] cs (n + 1)
    else regexLength? inClass false (n + 1) cs

/-! ## Numbers -/

/-- The number of digits and separators; a separator stands between two digits. `after` tells
whether a digit was just read. -/
def digitRun (isDigit : Char → Bool) : Bool → Nat → List Char → Option Nat
  | _, n, [] => some n
  | after, n, c :: cs =>
    if isDigit c then digitRun isDigit true (n + 1) cs
    else if c = '_' then
      if after && cs.head?.any isDigit then digitRun isDigit false (n + 1) cs else none
    else some n

/-- Refuses a name or digit directly behind a number. -/
def endNumber (kind : TokenKind) (n : Nat) (rest : List Char) : Option (TokenKind × Nat) :=
  match rest with
  | c :: _ => if isNameStart c || c.isDigit || c = '\\' then none else some (kind, n)
  | [] => some (kind, n)

/-- The exponent of a number, if there is one, and the end of the number. -/
def exponentPart (n : Nat) (s : List Char) : Option (TokenKind × Nat) :=
  match s with
  | c :: rest =>
    if c = 'e' || c = 'E' then
      let sign := if rest.head? = some '+' || rest.head? = some '-' then 1 else 0
      match digitRun Char.isDigit false 0 (rest.drop sign) with
      | some (k + 1) => endNumber .number (n + 1 + sign + (k + 1)) (rest.drop (sign + (k + 1)))
      | _ => none
    else endNumber .number n s
  | [] => some (.number, n)

/-- The digits behind the point of a number, which may be missing, and the end of the number. -/
def fractionPart (n : Nat) (s : List Char) : Option (TokenKind × Nat) :=
  match digitRun Char.isDigit false 0 s with
  | some k => exponentPart (n + k) (s.drop k)
  | none => none

/-- A number with a letter for its base after the zero. -/
def basedNumber (isDigit : Char → Bool) (s : List Char) : Option (TokenKind × Nat) :=
  match digitRun isDigit false 0 s with
  | some (k + 1) =>
    let rest := s.drop (k + 1)
    if rest.head? = some 'n' then endNumber .bigint (k + 4) rest.tail
    else endNumber .number (k + 3) rest
  | _ => none

/-- A number that starts with a zero and another digit. -/
def zeroNumber (s : List Char) : Option (TokenKind × Nat) :=
  let ds := s.takeWhile Char.isDigit
  let rest := s.drop ds.length
  if ds.all isOctal then endNumber .number ds.length rest
  else
    match rest with
    | '.' :: rest => fractionPart (ds.length + 1) rest
    | 'e' :: _ => exponentPart ds.length rest
    | _ => endNumber .number ds.length rest

/-- A number that starts with a digit. -/
def number (s : List Char) : Option (TokenKind × Nat) :=
  match s with
  | '0' :: c :: rest =>
    if c = 'x' || c = 'X' then basedNumber isHexDigit rest
    else if c = 'o' || c = 'O' then basedNumber isOctal rest
    else if c = 'b' || c = 'B' then basedNumber (fun d => d == '0' || d == '1') rest
    else if c.isDigit then zeroNumber s
    else if c = '_' then none
    else decimal
  | _ => decimal
where
  /-- A decimal number. -/
  decimal : Option (TokenKind × Nat) :=
    match digitRun Char.isDigit false 0 s with
    | none => none
    | some k =>
      match s.drop k with
      | '.' :: rest => fractionPart (k + 1) rest
      | 'n' :: rest => endNumber .bigint (k + 1) rest
      | rest => exponentPart k rest

/-! ## Words -/

/-- The characters of a word and their number; `first` tells that none was read yet. -/
def wordChars (first : Bool) (escaped : Bool) : Nat → Nat → List Char →
    Option (List Char × Nat × Bool)
  | _, n, [] => some ([], n, escaped)
  | skip + 1, n, _ :: cs => wordChars first escaped skip (n + 1) cs
  | 0, n, c :: cs =>
    if if first then isNameStart c else isNamePart c then
      (wordChars false escaped 0 (n + 1) cs).map fun (rest, m) => (c :: rest, m)
    else if c = '\\' then
      match cs with
      | 'u' :: more =>
        match unicode? more with
        | some (value, count) =>
          let d := Char.ofNat value
          if d.toNat = value && (if first then isNameStart d else isNamePart d) then
            (wordChars false true (count + 1) (n + 1) cs).map fun (rest, m) => (d :: rest, m)
          else none
        | none => none
      | _ => none
    else some ([], n, escaped)

/-- A word, which may not be empty. -/
def word (s : List Char) : Option (TokenKind × Nat) :=
  match wordChars true false 0 0 s with
  | some (c :: cs, n, escaped) => some (.word (String.ofList (c :: cs)) escaped, n)
  | _ => none

/-! ## Tokens -/

/-- The longest punctuator in front. -/
def punctuator (s : List Char) : Option (TokenKind × Nat) :=
  (punctuators.find? fun p => p.toList.isPrefixOf s).map fun p =>
    if p = "?." && (s.drop 2).head?.any Char.isDigit then (.punct "?", 1)
    else (.punct p, p.length)

/-- The token at the front of a text that starts with no blank. -/
def token (s : List Char) : Option (TokenKind × Nat) :=
  match s with
  | [] => some (.eof, 0)
  | c :: cs =>
    if c = '"' || c = '\'' then
      (stringPieces c 0 1 cs).map fun (pieces, n) => (.string (textOf pieces), n)
    else if c = '`' then templatePart true 0 1 cs
    else if c.isDigit then number s
    else if c = '.' && cs.head?.any Char.isDigit then fractionPart 1 cs
    else if c = '#' then
      match word cs with
      | some (_, n) => some (.privateName, n + 1)
      | none => none
    else if isNameStart c || c = '\\' then word s
    else punctuator s

/-- The operator that starts with a closing angle bracket at the front of a text. -/
def angleOperator (s : List Char) : Option (TokenKind × Nat) :=
  (angleOperators.find? fun p => p.toList.isPrefixOf s).map fun p => (.punct p, p.length)

end LiveBundle.Script.Lexer
