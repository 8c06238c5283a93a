import LiveBundle.Text.Basic

/-!
# Markup templates

Markup is literal text with expressions between braces. Braces inside an expression are part of it
as long as they balance. A template is written as the body of a template literal.

* `Template.parse` reads markup, or tells what is wrong and at which byte.
* `Template.render` writes it, with the marks of template literals escaped in literal text.
-/

namespace LiveBundle.Component

/-- A part of a template. -/
inductive Template.Part where
  | literal (c : Char)
  /-- An expression, as it stands between its braces. -/
  | expression (text : List Char)
deriving DecidableEq, Repr

/-- What can be wrong with markup. -/
inductive Template.Fault where
  | emptyExpression
  /-- An opening brace with a mark behind it that starts a block. -/
  | blockMark (mark : Char)
  | unexpectedClose
  | unclosedExpression
deriving DecidableEq, Repr

/-- The message of a fault. -/
def Template.Fault.message : Template.Fault → String
  | .emptyExpression => "Empty expression"
  | .blockMark mark =>
    "Block syntax '" ++ String.ofList ['\x7b', mark] ++ "' is not supported"
  | .unexpectedClose => "Unexpected '\x7d'"
  | .unclosedExpression => "Expression is not closed"

namespace Template

/-- Where reading stands. -/
inductive State where
  | outside
  /-- Inside the expression whose brace is at byte `start`, with `depth` further braces open; its
  text so far in reverse. -/
  | inside (start depth : Nat) (text : List Char)

/-- The marks that make an opening brace start a block. -/
def isBlockMark (c : Char) : Bool := c == '#' || c == ':' || c == '/' || c == '@'

/-- Puts a part in front of what follows. -/
def consPart (p : Part) : Except (Fault × Nat) (List Part) → Except (Fault × Nat) (List Part)
  | .ok ps => .ok (p :: ps)
  | .error e => .error e

/-- The parts of markup that begins at byte `at`. -/
def partsFrom : State → Nat → List Char → Except (Fault × Nat) (List Part)
  | .outside, _, [] => .ok []
  | .inside start _ _, _, [] => .error (.unclosedExpression, start)
  | .outside, offset, c :: cs =>
    if c = '\x7b' then
      match cs.head? with
      | some mark =>
        if isBlockMark mark then .error (.blockMark mark, offset)
        else partsFrom (.inside offset 0 []) (offset + 1) cs
      | none => partsFrom (.inside offset 0 []) (offset + 1) cs
    else if c = '\x7d' then .error (.unexpectedClose, offset)
    else consPart (.literal c) (partsFrom .outside (offset + c.utf8Size) cs)
  | .inside start depth text, offset, c :: cs =>
    if c = '\x7d' then
      match depth with
      | 0 =>
        if text.all Text.isBlank then .error (.emptyExpression, start)
        else consPart (.expression text.reverse) (partsFrom .outside (offset + 1) cs)
      | depth + 1 => partsFrom (.inside start depth (c :: text)) (offset + 1) cs
    else if c = '\x7b' then partsFrom (.inside start (depth + 1) (c :: text)) (offset + 1) cs
    else partsFrom (.inside start depth (c :: text)) (offset + c.utf8Size) cs

/-- The parts of markup; a fault comes with the byte of the brace that it is about. -/
def parse (markup : List Char) : Except (Fault × Nat) (List Part) := partsFrom .outside 0 markup

/-- A literal character inside a template literal. -/
def escapeChar (c : Char) : List Char :=
  if c = '\\' ∨ c = Char.ofNat 96 ∨ c = '$' then ['\\', c] else [c]

/-- A part inside a template literal; an expression is trimmed, and what it gives is escaped. -/
def Part.render : Part → List Char
  | .literal c => escapeChar c
  | .expression text => "$\x7b__pg_escape(".toList ++ Text.trim text ++ ")\x7d".toList

/-- The body of a template literal, without white space at its ends. -/
def render (parts : List Part) : List Char := Text.trim (parts.flatMap Part.render)

end Template

end LiveBundle.Component
