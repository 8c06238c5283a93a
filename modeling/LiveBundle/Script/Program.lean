import LiveBundle.Script.Modules

/-!
# Reading scripts

`Program.parse` reads the module syntax of a whole script. Goals are read with a bound on how deep
they nest; the bound grows with the text, so that no text is too deep for it. A script is refused
if it cannot be read to its end, if a flaw was found, if a property's default value never became
part of a pattern, or if a name is exported twice.
-/

namespace LiveBundle.Script

variable {text : List Char}

/-- The production of a goal. -/
def Runner.step (run : Runner text) : Runner text
  | .expression => commaExpression run
  | .assignment arrowTypes => assignmentExpression run arrowTypes
  | .binary level => binaryExpression run level
  | .unary => unaryExpression run
  | .leftHandSide => leftHandSide run
  | .statement single => anyStatement run single
  | .block => blockStatement run
  | .pattern => bindingPattern run
  | .parameters => formalParameters run
  | .classDefinition => classRest run
  | .type => anyType run

/-- Reads goals that nest at most `depth` deep. -/
def Runner.upTo (text : List Char) : Nat → Runner text
  | 0 => fun _ => Parser.fail
  | depth + 1 => Runner.step (Runner.upTo text depth)

namespace Program

/-- The surroundings of the top level. -/
def topLevel (typescript : Bool) (limit : Nat) : Context where
  typescript := typescript
  inOperator := true
  yields := false
  awaits := true
  returns := false
  decorating := false
  ambient := false
  conditionals := true
  limit := limit

/-- The state before the first token. A first line that starts with `#!` is passed over. -/
def initial (text : List Char) : State text :=
  let start := (Place.first text).skip (Lexer.hashbang text)
  let (token, place) := Parser.tokenAt start
  { token
    start := place
    stop := place.skip token.length
    previous := start
    flawed := false
    defaults := []
    sites := [] }

/-- The statements of the top level. -/
def statements (run : Runner text) : Parser text (List (Item text)) :=
  Parser.iterate [] fun acc => do
    if ← Parser.atEnd then pure (.inr acc.reverse)
    else
      let item ← run (.statement false)
      pure (.inl (item :: acc))

/-- Whether a list has no element twice. -/
def distinct : List String → Bool
  | [] => true
  | x :: xs => !xs.contains x && distinct xs

/-- The test for repeated names finds each repetition. -/
theorem distinct_iff {names : List String} : distinct names = true ↔ names.Nodup := by
  induction names with
  | nil => simp [distinct]
  | cons x xs ih => simp [distinct, ih, List.nodup_cons]

/-- Levels of nesting that one character can open. -/
def depthPerCharacter : Nat := 8

/-- Reads a script. -/
def parse (typescript : Bool) (text : List Char) : Option (Program text) := do
  let limit := text.length + 2
  let run := Runner.upTo text (depthPerCharacter * limit)
  let (items, s) ← statements run (topLevel typescript limit) (initial text)
  let names := items.flatMap Item.exportedNames
  if s.flawed || !s.defaults.isEmpty || !(typescript || distinct names) then none
  else some ⟨items, s.sites.reverse⟩

end Program

end LiveBundle.Script
