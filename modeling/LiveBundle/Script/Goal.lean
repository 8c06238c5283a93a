import LiveBundle.Script.Cursor

/-!
# Goals of the grammar

The productions of the grammar call each other in circles. Each production that others reach
through such a circle is a goal; a production takes the reader of goals as an argument and is a
plain definition. `Shape` is what a production tells of an expression: as much as decides where it
may stand.

* `Shape.canAssign` is the rule for the left side of an assignment, `Shape.canUpdate` the rule for
  operators that change a single variable or property.
-/

namespace LiveBundle.Script

/-- What later productions need to know of an expression. -/
inductive Shape where
  /-- A variable. -/
  | name (text : String)
  /-- A string literal with its place. -/
  | string (value : String)
  /-- A property access. -/
  | member
  /-- An array or object literal: whether it reads as a pattern, and the offsets of its properties
  with default values. -/
  | literal (pattern : Bool) (defaults : List Nat)
  /-- An assignment; `plain` tells that its operator is `=`. -/
  | assign (plain : Bool)
  /-- An expression in parentheses. -/
  | parens (inner : Shape)
  /-- An expression under a type cast. -/
  | cast (inner : Shape)
  /-- A prefix operator before an expression. -/
  | prefixed
  /-- A logical expression; `coalescing` tells that its operator is `??`. -/
  | logical (coalescing : Bool)
  /-- A dynamic import. -/
  | importCall
  /-- A name with type arguments. -/
  | instantiated (inner : Shape)
  | other

namespace Shape

/-- Whether an operator may change the expression in place. -/
def canUpdate : Shape → Bool
  | name _ | member => true
  | parens inner | cast inner => inner.canUpdate
  | _ => false

/-- Whether the expression may stand left of `=`. -/
def canAssign : Shape → Bool
  | literal pattern _ => pattern
  | s => s.canUpdate

/-- Whether the expression may be an element of a destructuring pattern. -/
def canBeElement : Shape → Bool
  | assign plain => plain
  | s => s.canAssign

/-- The default values that an element of a pattern leaves to its surroundings. -/
def openDefaults : Shape → List Nat
  | literal _ defaults => defaults
  | _ => []

/-- Whether a power may not have the expression as its base. -/
def isPrefixed : Shape → Bool
  | prefixed => true
  | _ => false

/-- Whether the expression is an unparenthesized `&&` or `||`. -/
def isAndOr : Shape → Bool
  | logical coalescing => !coalescing
  | _ => false

end Shape

/-- The goals of the grammar. -/
inductive Goal where
  /-- Expressions with commas between them. -/
  | expression
  /-- One expression; `arrowTypes` tells whether an arrow function may state its result type. -/
  | assignment (arrowTypes : Bool)
  /-- Operands joined by operators that bind tighter than `level`. -/
  | binary (level : Nat)
  /-- An operand with its prefix operators. -/
  | unary
  /-- A left-hand side: a value with its accesses and calls. -/
  | leftHandSide
  /-- A statement; `single` tells that it stands where only one may. -/
  | statement (single : Bool)
  /-- Statements in braces. -/
  | block
  /-- The pattern of a declared variable. -/
  | pattern
  /-- The parameters of a function. -/
  | parameters
  /-- A class from its keyword on. -/
  | classDefinition
  | type

/-- What reading a goal gives. -/
def Goal.Result (text : List Char) : Goal → Type
  | .expression | .assignment _ | .binary _ | .unary | .leftHandSide => Shape
  | .statement _ => Item text
  | .block | .parameters | .type => Unit
  | .pattern => Pattern
  | .classDefinition => Option String

/-- Reads goals. -/
abbrev Runner (text : List Char) := (g : Goal) → Parser text (g.Result text)

namespace Runner

variable {text : List Char} (run : Runner text)

/-- An expression, commas included. -/
def expression : Parser text Shape := run .expression

/-- An expression, commas included, in which `in` is an operator. -/
def expressionIn : Parser text Shape :=
  Parser.within (fun ctx => { ctx with inOperator := true }) (run .expression)

/-- An expression without commas. -/
def assignment : Parser text Shape := run (.assignment true)

/-- An expression without commas in which `in` is an operator. -/
def assignmentIn : Parser text Shape :=
  Parser.within (fun ctx => { ctx with inOperator := true, decorating := false })
    (run (.assignment true))

/-- A type. -/
def type : Parser text Unit := run .type

/-- A statement that stands alone. -/
def single : Parser text Unit := do
  let _ ← run (.statement true)
  pure ()

end Runner

end LiveBundle.Script
