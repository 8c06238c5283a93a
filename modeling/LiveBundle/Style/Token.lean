/-!
# Tokens and pieces of style sheets

The text of a style sheet is a row of tokens. Where brackets and functions match up, the tokens form
a tree; its nodes are the pieces that rules, selectors and values are read from. A closing bracket
that closes nothing is a piece of its own, and what is open at the end of the text ends there.

* `Token` and `Piece` are the two levels, `Piece.ofTokens` builds the tree.
* `sourceOf` gives the text of some pieces.
-/

namespace LiveBundle.Style

/-- The three kinds of brackets. -/
inductive Bracket where
  | paren
  | square
  | curly
deriving DecidableEq, Repr

/-- The opening character. -/
def Bracket.opening : Bracket → Char
  | .paren => '('
  | .square => '['
  | .curly => '\x7b'

/-- The closing character. -/
def Bracket.closing : Bracket → Char
  | .paren => ')'
  | .square => ']'
  | .curly => '\x7d'

/-- A number as written. -/
structure Numeral where
  value : Rat
  /-- Whether it is written without point and exponent. -/
  isWhole : Bool
  /-- Whether it is written with a sign. -/
  signed : Bool
deriving DecidableEq, Repr

/-- The tokens. -/
inductive Token where
  | ident (name : String)
  | atKeyword (name : String)
  /-- A name behind `#`; an identifier if the name could stand alone. -/
  | hash (name : String) (isIdent : Bool)
  | string (value : String)
  | badString
  | url (address : String)
  | badUrl
  | number (n : Numeral)
  | percentage (n : Numeral)
  | dimension (n : Numeral) (unit : String)
  | space
  | comment
  | delim (c : Char)
  | colon
  | semicolon
  | comma
  /-- A character followed by an equals sign, as attribute tests have it. -/
  | comparison (c : Char)
  /-- One of the two comment marks of the surrounding document. -/
  | documentComment
  | function (name : String)
  | opening (b : Bracket)
  | closing (b : Bracket)
deriving DecidableEq, Repr

/-- A token with the text it was read from. -/
structure Lexeme where
  token : Token
  source : String
deriving DecidableEq, Repr

/-- A node of the tree of brackets and functions. -/
inductive Piece where
  | token (t : Token) (source : String)
  | block (b : Bracket) (inner : List Piece)
  | function (name : String) (source : String) (inner : List Piece)
deriving Repr, Inhabited

/-- White space and comments. -/
def Piece.isBlank : Piece → Bool
  | .token .space _ => true
  | .token .comment _ => true
  | _ => false

/-- Pieces without the blanks in front. -/
def skipBlank (ps : List Piece) : List Piece := ps.dropWhile Piece.isBlank

/-- Pieces without the blanks at either end. -/
def trimBlank (ps : List Piece) : List Piece :=
  (skipBlank (skipBlank ps).reverse).reverse

/-! ## The tree -/

/-- What opened a node. -/
inductive Opener where
  | bracket (b : Bracket)
  | function (name : String) (source : String)

/-- The bracket that closes it. -/
def Opener.closedBy : Opener → Bracket
  | .bracket b => b
  | .function .. => .paren

/-- The node with its inner pieces. -/
def Opener.close (inner : List Piece) : Opener → Piece
  | .bracket b => .block b inner
  | .function name source => .function name source inner

/-- Closes everything that is open. `done` holds the pieces of the innermost open node, the latest
first, and `stack` what is open around it. -/
def closeAll : List (Opener × List Piece) → List Piece → List Piece
  | [], done => done.reverse
  | (opener, outer) :: stack, done => closeAll stack (opener.close done.reverse :: outer)

/-- Builds the tree token by token. -/
def buildTree (stack : List (Opener × List Piece)) (done : List Piece) :
    List Lexeme → List Piece
  | [] => closeAll stack done
  | ⟨.opening b, _⟩ :: rest => buildTree ((.bracket b, done) :: stack) [] rest
  | ⟨.function name, source⟩ :: rest =>
    buildTree ((.function name source, done) :: stack) [] rest
  | ⟨.closing b, source⟩ :: rest =>
    match stack with
    | (opener, outer) :: stack' =>
      if opener.closedBy = b then buildTree stack' (opener.close done.reverse :: outer) rest
      else buildTree stack (.token (.closing b) source :: done) rest
    | [] => buildTree [] (.token (.closing b) source :: done) rest
  | ⟨t, source⟩ :: rest => buildTree stack (.token t source :: done) rest

/-- The tree of a row of tokens. -/
def Piece.ofTokens (tokens : List Lexeme) : List Piece := buildTree [] [] tokens

/-! ## Text -/

mutual

/-- The text of a piece. -/
def Piece.source : Piece → String
  | .token _ source => source
  | .block b inner =>
    String.singleton b.opening ++ sourceOf inner ++ String.singleton b.closing
  | .function _ source inner => source ++ sourceOf inner ++ ")"

/-- The text of some pieces. -/
def sourceOf : List Piece → String
  | [] => ""
  | p :: ps => p.source ++ sourceOf ps

end

mutual

/-- The number of tokens of a piece. -/
def Piece.weight : Piece → Nat
  | .token .. => 1
  | .block _ inner => 2 + weightOf inner
  | .function _ _ inner => 2 + weightOf inner

/-- The number of tokens of some pieces. -/
def weightOf : List Piece → Nat
  | [] => 0
  | p :: ps => p.weight + weightOf ps

end

end LiveBundle.Style
