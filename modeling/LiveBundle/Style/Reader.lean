import LiveBundle.Style.Token
import LiveBundle.Text.Basic

/-!
# Readers of pieces

Selectors, queries and values are read from rows of pieces. A reader passes over white space and
comments in front of what it wants, gives its value with the pieces that are left, or fails; after
a failure the next way of reading starts where the failed one did. Keywords are compared without
regard to the case of ASCII letters.

* `whole` runs a reader on pieces that it has to use up.
* `splitAtCommas` and `commaList` read lists.
-/

namespace LiveBundle.Style

/-- A reader of the front of a row of pieces. -/
abbrev Reader (α : Type) := StateT (List Piece) Option α

namespace Reader

variable {α β : Type}

/-- The reader that fails. -/
def fail : Reader α := fun _ => none

/-- The value, if there is one. -/
def ofOption (a : Option α) : Reader α := fun ps => a.map (·, ps)

/-- Fails unless the condition holds. -/
def require (condition : Bool) : Reader Unit := if condition then pure () else fail

/-- Runs a reader that has to use up the pieces, up to blanks. -/
def whole (p : Reader α) (ps : List Piece) : Option α :=
  match p ps with
  | some (a, rest) => if (skipBlank rest).isEmpty then some a else none
  | none => none

/-- The next piece, white space and comments included. -/
def rawPiece : Reader Piece
  | [] => none
  | p :: ps => some (p, ps)

/-- The next piece. -/
def piece : Reader Piece := fun ps => rawPiece (skipBlank ps)

/-- Whether no piece is left. -/
def atEnd : Reader Bool := fun ps => some ((skipBlank ps).isEmpty, ps)

/-- Reads if possible. -/
def optional (p : Reader α) : Reader (Option α) := (some <$> p) <|> pure none

/-- Whether the reader succeeds; it leaves the pieces it read only then. -/
def takes (p : Reader α) : Reader Bool := (p *> pure true) <|> pure false

/-- The next token. -/
def token : Reader Token := do
  match ← piece with
  | .token t _ => return t
  | _ => fail

/-- Exactly this token. -/
def exactly (t : Token) : Reader Unit := do
  require ((← token) == t)

/-- A comma. -/
def comma : Reader Unit := exactly .comma

/-- A colon. -/
def colon : Reader Unit := exactly .colon

/-- A character that is a token by itself. -/
def delim (c : Char) : Reader Unit := exactly (.delim c)

/-- A name as written. -/
def name : Reader String := do
  match ← token with
  | .ident name => return name
  | _ => fail

/-- A name in lower case. -/
def keyword : Reader String := Text.asciiLower <$> name

/-- This keyword. -/
def word (k : String) : Reader Unit := do require ((← keyword) == k)

/-- One of these keywords, in lower case. -/
def oneOf (ks : List String) : Reader String := do
  let k ← keyword
  require (ks.contains k)
  return k

/-- The value that a table gives for a keyword. -/
def lookup (table : List (String × α)) : Reader α := do
  ofOption (table.lookup (← keyword))

/-- A name that starts with two hyphens. -/
def dashedName : Reader String := do
  let n ← name
  require (Text.hasPrefix "--" n)
  return n

/-- A string. -/
def string : Reader String := do
  match ← token with
  | .string s => return s
  | _ => fail

/-- Reads inside these pieces, which have to be used up, and goes on behind them. -/
def inside (inner : List Piece) (p : Reader α) : Reader α := ofOption (whole p inner)

/-- Reads inside brackets. -/
def bracketed (b : Bracket) (p : Reader α) : Reader α := do
  match ← piece with
  | .block b' inner => if b = b' then inside inner p else fail
  | _ => fail

/-- Reads the arguments of a function; its name is given in lower case. -/
def call (p : String → Reader α) : Reader α := do
  match ← piece with
  | .function name _ inner => inside inner (p (Text.asciiLower name))
  | _ => fail

/-- Reads the arguments of the function with this name. -/
def callOf (name : String) (p : Reader α) : Reader α :=
  call fun n => if n = name then p else fail

/-- The address in `url()`. -/
def url : Reader String := do
  match ← piece with
  | .token (.url address) _ => return address
  | .function name _ inner =>
    if Text.asciiLower name = "url" then inside inner string else fail
  | _ => fail

/-- At most `n` values, as many as can be read. -/
def upTo (p : Reader α) : Nat → Reader (List α)
  | 0 => pure []
  | n + 1 => (do
      let a ← p
      let more ← upTo p n
      return a :: more) <|> pure []

/-- As many values as can be read. -/
def many (p : Reader α) : Reader (List α) := fun ps => upTo p ps.length ps

/-- As many values as can be read, at least one. -/
def many1 (p : Reader α) : Reader (List α) := do
  let a ← p
  let more ← many p
  return a :: more

/-- The parts of a row of pieces between commas; there is always at least one. -/
def splitAtCommas : List Piece → List (List Piece)
  | [] => [[]]
  | p :: ps =>
    match splitAtCommas ps with
    | [] => [[p]]
    | part :: parts =>
      match p with
      | .token .comma _ => [] :: part :: parts
      | p => (p :: part) :: parts

/-- The values of the parts between commas; every part has to be used up. -/
def commaList (p : Reader α) : Reader (List α) := fun ps =>
  ((splitAtCommas ps).mapM (whole p)).map (·, [])

/-- Reads the first of several ways that succeeds. -/
def firstOf : List (Reader α) → Reader α
  | [] => fail
  | p :: ps => p <|> firstOf ps

end Reader

end LiveBundle.Style
