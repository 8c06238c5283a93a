import LiveBundle.Script.Functions

/-!
# Expressions

Expressions by precedence, from literals up to assignments and arrow functions. Whether parentheses
start an arrow function is told from the first tokens behind them where that is possible, and by
trying where it is not.
-/

namespace LiveBundle.Script

open LiveBundle.Script.Parser

variable {text : List Char} (run : Runner text)

/-! ## Literals -/

/-- An element of an array literal or an argument list: the expression, and whether `...` stands
in front. -/
def spreadable : Parser text (Shape × Bool) := do
  if ← eatPunct "..." then pure (← run.assignmentIn, true)
  else pure (← run.assignmentIn, false)

/-- What the elements of a literal mean for its reading as a pattern. -/
structure Literal where
  pattern : Bool := true
  defaults : List Nat := []

/-- Adds an element to a literal; one behind `...` has to be the last. -/
def Literal.add (l : Literal) (element : Shape) (spread last : Bool) : Literal where
  pattern := l.pattern && if spread then last && element.canAssign else element.canBeElement
  defaults := l.defaults ++ element.openDefaults

/-- An array literal. -/
def arrayLiteral : Parser text Shape := do
  expectPunct "["
  iterate ({} : Literal) fun acc => do
    if ← eatPunct "]" then pure (.inr (.literal acc.pattern acc.defaults))
    else if ← eatPunct "," then pure (.inl acc)
    else
      let (element, spread) ← spreadable run
      let last ← atPunct "]"
      if !last then expectPunct ","
      pure (.inl (acc.add element spread last))

/-- A property of an object literal. -/
def objectProperty (acc : Literal) : Parser text Literal := do
  if ← eatPunct "..." then
    let element ← run.assignmentIn
    let last ← atPunct "\x7d"
    pure { acc.add element true last with
      pattern := acc.pattern && last && element.canUpdate }
  else
    let start ← here
    let mods ← modifiers ["async"]
    let accessor ← if ← atAnyWord ["get", "set"] then nextLooksLike atPropertyName else pure false
    if accessor && mods.isEmpty then
      takeKeyword
      objectKey
      method run false false
      pure { acc with pattern := false }
    else
      let generator ← eatPunct "*"
      let ctx ← context
      let reference := (← word?).any (isReference ctx)
      objectKey
      if generator || (← atAnyPunct ["(", "<"]) then
        method run (!mods.isEmpty) generator
        pure { acc with pattern := false }
      else
        ensure mods.isEmpty
        if ← eatPunct ":" then
          let element ← run.assignmentIn
          pure (acc.add element false false)
        else
          ensure reference
          if ← eatPunct "=" then
            noteDefault start.offset
            let _ ← run.assignmentIn
            pure { acc with defaults := start.offset :: acc.defaults }
          else pure acc
where
  /-- The name of a property, which is not private. -/
  objectKey : Parser text Unit := do
    ensure ((← kind) != .privateName)
    propertyName run

/-- An object literal. -/
def objectLiteral : Parser text Shape := do
  expectPunct "\x7b"
  iterate ({} : Literal) fun acc => do
    if ← eatPunct "\x7d" then pure (.inr (.literal acc.pattern acc.defaults))
    else
      let acc ← objectProperty run acc
      if !(← atPunct "\x7d") then expectPunct ","
      pure (.inl acc)

/-- The substitutions of a template literal. -/
def templateLiteral (tagged : Bool) : Parser text Unit :=
  templateParts (do let _ ← run.expressionIn) tagged

/-- An expression in parentheses. -/
def parenthesized : Parser text Shape := do
  expectPunct "("
  let inner ← within (fun ctx => { ctx with decorating := false }) run.expressionIn
  expectPunct ")"
  pure (.parens inner)

/-- A regular expression, whose slash is present. -/
def regexLiteral : Parser text Unit := do
  reread fun s => (Lexer.regexLength? false false 1 s.tail).map fun n => (.regex, n)
  advance

/-! ## Calls -/

/-- The arguments of a call in parentheses: the text and place of the only argument, if that is a
string literal. -/
def callArguments : Parser text (Option (String × Span text)) := do
  expectPunct "("
  let (args, _) ← within (fun ctx => { ctx with decorating := false }) <| commaList ")" do
    let start ← here
    let (shape, spread) ← spreadable run
    let span ← spanFrom start
    pure (shape, spread, span)
  expectPunct ")"
  match args with
  | [(.string value, false, span)] => pure (some (value, span))
  | _ => pure none

/-- Whether a call of this expression is a call of `require`. -/
def Shape.isRequire : Shape → Bool
  | name text => text == "require"
  | instantiated (name text) => text == "require"
  | _ => false

/-- The arguments of a call of `callee`; a module asked for by `require` is noted. -/
def call (callee : Shape) : Parser text Unit := do
  match ← callArguments run with
  | some (value, span) =>
    if callee.isRequire then found (.requireArgument span value)
  | none => pure ()

/-- A dynamic import, from its parenthesis on; a string literal is noted. -/
def importCall (start : Place text) : Parser text Shape := do
  expectPunct "("
  let source ← run.assignmentIn
  if ← eatPunct "," then
    if !(← atPunct ")") then
      let _ ← run.assignmentIn
      let _ ← eatPunct ","
  expectPunct ")"
  match source with
  | .string value => found (.dynamicImport (← spanFrom start) value)
  | _ => pure ()
  pure .importCall

/-- `import.meta`, or a dynamic import. -/
def importExpression : Parser text Shape := do
  let start ← here
  expectWord "import"
  if ← eatPunct "." then
    if ← eatWord "meta" then pure .other
    else
      ensure (← atAnyWord ["source", "defer"])
      advance
      importCall run start
  else importCall run start

/-- `super`, before an access or a call. -/
def superExpression : Parser text Shape := do
  expectWord "super"
  flawIf !(← atAnyPunct [".", "(", "["])
  pure .other

/-- A class as an expression, maybe with decorators. -/
def classExpression : Parser text Shape := do
  let _ ← decorators run
  let _ ← run .classDefinition
  pure .other

/-- Whether an expression can start with the present token. -/
def startsExpression : Parser text Bool := do
  match ← kind with
  | .eof | .bad => pure false
  | .word w _ =>
    pure (!isReserved w || ["this", "super", "null", "true", "false", "function", "class", "new",
      "delete", "void", "typeof", "import"].contains w)
  | .punct p =>
    pure (["(", "[", "\x7b", "+", "-", "~", "!", "++", "--", "<", "/", "/=", "@"].contains p)
  | _ => pure true

/-- The operators that join two operands, with their levels of precedence. -/
def operatorLevels : List (String × Nat) := [
  ("??", 1), ("||", 2), ("&&", 3), ("|", 4), ("^", 5), ("&", 6),
  ("==", 7), ("!=", 7), ("===", 7), ("!==", 7),
  ("<", 8), (">", 8), ("<=", 8), (">=", 8), ("instanceof", 8), ("in", 8), ("as", 8),
  ("satisfies", 8),
  ("<<", 9), (">>", 9), (">>>", 9), ("+", 10), ("-", 10), ("*", 11), ("/", 11), ("%", 11),
  ("**", 12)]

/-- Puts an operator together that starts with a closing angle bracket. -/
def joinAngles : Parser text Unit := do
  if ← atPunct ">" then
    let _ ← attempt (reread Lexer.angleOperator)

/-- The operator at the present token. -/
def operator? : Parser text (Option String) := do
  joinAngles
  match ← kind with
  | .punct p => pure (some p)
  | .word w _ => pure (some w)
  | _ => pure none

/-- The operator that joins operands here, with its level. -/
def joiningOperator? : Parser text (Option (String × Nat)) := do
  let ctx ← context
  match ← operator? with
  | none => pure none
  | some op =>
    if (op = "as" || op = "satisfies") && (!ctx.typescript || (← afterLineBreak)) then pure none
    else if op = "in" && !ctx.inOperator then pure none
    else pure (operatorLevels.find? (·.1 == op))

/-- Type arguments behind an expression; they may not be the operands of comparisons. -/
def expressionTypeArguments : Parser text Unit := do
  typeArguments run
  match ← kind with
  | .template _ _ => pure ()
  | .punct "(" => pure ()
  | .punct p =>
    ensure !(["<", ">", "+", "-"].contains p)
    ensure ((← afterLineBreak) || (← joiningOperator?).isSome || !(← startsExpression))
  | _ => ensure ((← afterLineBreak) || (← joiningOperator?).isSome || !(← startsExpression))

/-- A value: a literal, a name, a function or class, or an expression in parentheses. `new` is the
reader of a construction. -/
def primary (construction : Parser text Shape) : Parser text Shape := do
  match ← kind with
  | .string value =>
    advance
    pure (.string value)
  | .number | .bigint =>
    advance
    pure .other
  | .template _ _ =>
    templateLiteral run false
    pure .other
  | .punct "[" => arrayLiteral run
  | .punct "\x7b" => objectLiteral run
  | .punct "(" => parenthesized run
  | .punct "/" | .punct "/=" =>
    regexLiteral
    pure .other
  | .punct "@" => classExpression run
  | .word w _ =>
    if ["this", "null", "true", "false"].contains w then
      takeKeyword
      pure .other
    else if w = "class" then classExpression run
    else if w = "new" then construction
    else if w = "super" then superExpression
    else if w = "import" then importExpression run
    else if ← startsFunction then
      functionExpression run
      pure .other
    else
      ensure (isReference (← context) w)
      advance
      pure (.name w)
  | _ => fail

/-! ## Accesses -/

/-- The name of a property behind a point. -/
def accessName : Parser text Unit := do
  match ← kind with
  | .word _ _ | .privateName => advance
  | _ => fail

/-- What was read of a left-hand side: its shape and whether an optional access is in it. -/
structure Chain where
  shape : Shape
  optional : Bool

/-- The property in brackets. -/
def computedAccess : Parser text Unit := do
  expectPunct "["
  let _ ← run.expressionIn
  expectPunct "]"

/-- One access behind a value, if there is one: a property, a template, a non-null mark or type
arguments. -/
def access? (chain : Chain) : Parser text (Option Chain) := do
  let ctx ← context
  let member : Chain := { chain with shape := if chain.optional then .other else .member }
  match ← kind with
  | .punct "." =>
    advance
    accessName
    pure (some member)
  | .punct "?." =>
    let property ← nextLooksLike do
      match ← kind with
      | .word _ _ | .privateName => pure true
      | .punct p => pure (p == "[")
      | _ => pure false
    if property then
      advance
      if ← atPunct "[" then computedAccess run else accessName
      pure (some ⟨.other, true⟩)
    else pure none
  | .punct "[" =>
    if ctx.decorating then pure none
    else
      computedAccess run
      pure (some member)
  | .template _ _ =>
    flawIf chain.optional
    templateLiteral run true
    pure (some { chain with shape := .other })
  | .punct "!" =>
    if ctx.typescript && !(← afterLineBreak) then
      advance
      pure (some { chain with shape := .cast chain.shape })
    else pure none
  | .punct p =>
    if ctx.typescript && (p = "<" || p = "<<") then
      match ← attempt (expressionTypeArguments run) with
      | some () => pure (some { chain with shape := .instantiated chain.shape })
      | none => pure none
    else pure none
  | _ => pure none

/-- All accesses behind a value. -/
def accesses (chain : Chain) : Parser text Chain :=
  iterate chain fun chain => do
    match ← access? run chain with
    | some chain => pure (.inl chain)
    | none => pure (.inr chain)

/-- `new.target`, or a construction. Its class is a value with accesses; the arguments may be
missing. -/
def construction : Nat → Parser text Shape
  | 0 => fail
  | n + 1 => do
    expectWord "new"
    if ← eatPunct "." then
      expectWord "target"
      pure .other
    else
      let value ← primary run (construction n)
      let chain ← accesses run ⟨value, false⟩
      flawIf chain.optional
      flawIf (match value with
        | .importCall => true
        | _ => false)
      if ← atPunct "(" then
        let _ ← callArguments run
      pure .other

/-- One call behind a value, if there is one. -/
def call? (chain : Chain) : Parser text (Option Chain) := do
  let optional ← eatPunct "?."
  if optional then
    if (← context).typescript then
      let _ ← attempt (typeArguments run)
    match ← kind with
    | .template _ _ =>
      flaw
      templateLiteral run true
    | _ => call run chain.shape
    pure (some ⟨.other, true⟩)
  else if ← atPunct "(" then
    call run chain.shape
    pure (some { chain with shape := .other })
  else pure none

/-- A value with its accesses and calls. -/
def leftHandSide : Parser text Shape := do
  let value ← primary run (construction run (← context).limit)
  let chain ← iterate (⟨value, false⟩ : Chain) fun chain => do
    let chain ← accesses run chain
    match ← call? run chain with
    | some chain => pure (.inl chain)
    | none => pure (.inr chain)
  pure chain.shape

/-! ## Operators -/

/-- Whether a value that follows a keyword starts on the same line. -/
def operandOnSameLine : Parser text Bool := do
  if ← afterLineBreak then pure false
  else
    match ← kind with
    | .word _ _ | .string _ | .number | .bigint => pure true
    | _ => pure false

/-- Whether `await` or `yield` is an operator here. Where it is not known, an operand behind it on
the same line gives the reading away. -/
def isOperatorWord (word : String) (known : Bool) : Parser text Bool := do
  if ← atWord word then
    if known then pure true else nextLooksLike operandOnSameLine
  else pure false

/-- An operand with the operators in front of it or `++` or `--` behind it. -/
def unaryExpression : Parser text Shape := do
  let ctx ← context
  if (← atAnyPunct ["+", "-", "!", "~"]) || (← atAnyWord ["delete", "typeof", "void"]) then
    takeKeyword
    let _ ← run .unary
    pure .prefixed
  else if ← isOperatorWord "await" ctx.awaits then
    flawIf !ctx.awaits
    takeKeyword
    let _ ← run .unary
    pure .prefixed
  else if ← atAnyPunct ["++", "--"] then
    advance
    let operand ← run .unary
    ensure operand.canUpdate
    pure .other
  else if ctx.typescript && (← atPunct "<") then
    advance
    run.type
    expectPunct ">"
    let operand ← run .unary
    pure (.cast operand)
  else
    let operand ← leftHandSide run
    if (← atAnyPunct ["++", "--"]) && !(← afterLineBreak) then
      ensure operand.canUpdate
      advance
      pure .other
    else pure operand

/-- Joins two operands by an operator of the given level. -/
def joined (op : String) (level : Nat) (left : Shape) : Parser text Shape := do
  flawIf (op == "**" && left.isPrefixed)
  if op = "as" || op = "satisfies" then
    advance
    if (← atWord "const") then advance else run.type
    pure (.cast left)
  else
    takeKeyword
    let right ← run (.binary (if op = "**" then level - 1 else level))
    flawIf (op == "??" && (left.isAndOr || right.isAndOr))
    pure (if op = "??" then .logical true
      else if op = "||" || op = "&&" then .logical false
      else .other)

/-- The first operand of a joined expression; a private name asks whether an object has it. -/
def firstOperand (level : Nat) : Parser text Shape := do
  if (← kind) == .privateName then
    advance
    ensure ((← atWord "in") && level < 8 && (← context).inOperator)
    pure .other
  else run .unary

/-- Operands joined by operators that bind tighter than `level`. -/
def binaryExpression (level : Nat) : Parser text Shape := do
  let first ← firstOperand run level
  iterate first fun left => do
    match ← joiningOperator? with
    | some (op, opLevel) =>
      if level < opLevel then pure (.inl (← joined run op opLevel left))
      else pure (.inr left)
    | none => pure (.inr left)

/-- `? … : …` behind a condition, if it is there. -/
def conditionalRest (arrowTypes : Bool) (condition : Shape) : Parser text Shape := do
  if ← eatPunct "?" then
    let _ ← within (fun ctx => { ctx with inOperator := true }) (run (.assignment false))
    expectPunct ":"
    let _ ← run (.assignment arrowTypes)
    pure .other
  else pure condition

/-! ## Arrow functions -/

/-- What the first tokens tell about an arrow function. -/
inductive Verdict where
  | yes
  | no
  | maybe
deriving DecidableEq

/-- What the tokens behind an opening parenthesis tell. -/
def verdictBehindParen : Parser text Verdict := do
  if ← eatPunct ")" then
    pure (if ← atAnyPunct ["=>", ":", "\x7b"] then .yes else .no)
  else if ← atAnyPunct ["[", "\x7b"] then pure .maybe
  else if ← atPunct "..." then pure .yes
  else if (← context).typescript &&
      (← atAnyWord ["public", "private", "protected", "readonly", "override"]) &&
      (← nextLooksLike atBindable) then
    advance
    pure (if ← atWord "as" then .no else .yes)
  else if !(← atBindable) && !(← atWord "this") then pure .no
  else
    advance
    if ← atPunct ":" then pure .yes
    else if ← eatPunct "?" then
      pure (if ← atAnyPunct [":", ",", "=", ")"] then .yes else .no)
    else pure (if ← atAnyPunct [",", "=", ")"] then .maybe else .no)

/-- What the first tokens of an expression tell about an arrow function with parentheses. -/
def arrowVerdict : Parser text Verdict := do
  let verdict : Parser text Verdict := do
    let async ← eatWord "async"
    if async && (← afterLineBreak) then pure .no
    else if ← eatPunct "(" then verdictBehindParen
    else if (← context).typescript && (← eatPunct "<") then
      pure (if (← atBindable) || (← atWord "const") then .maybe else .no)
    else pure .no
  if (← atAnyPunct ["(", "<"]) || (← atWord "async") then
    let maybe_ ← looksLike do pure ((← verdict) == .maybe)
    let yes ← looksLike do pure ((← verdict) == .yes)
    pure (if yes then .yes else if maybe_ then .maybe else .no)
  else pure .no

/-- The body of an arrow function: statements in braces or an expression. -/
def arrowBody (async arrowTypes : Bool) : Parser text Unit := do
  let inOperator := (← context).inOperator
  within (Context.inFunction async false) do
    if ← atPunct "\x7b" then functionBody run
    else
      let _ ← within (fun ctx => { ctx with inOperator }) (run (.assignment arrowTypes))

/-- The arrow, which stands on the line of the parameters. -/
def arrow : Parser text Unit := do
  flawIf ((← afterLineBreak) && (← atPunct "=>"))
  expectPunct "=>"

/-- An arrow function whose parameters are in parentheses. A result type inside a conditional
expression needs a colon behind the function, else the colon belongs to the condition. -/
def arrowFunction (arrowTypes : Bool) : Parser text Shape := do
  let async ← eatWord "async"
  let typed ← within (fun ctx => { ctx with
      awaits := ctx.awaits || async
      inOperator := true
      decorating := false }) do
    typeParameters run
    run .parameters
    let typed := (← context).typescript && (← atPunct ":")
    optionalResult run
    pure typed
  arrow
  arrowBody run async arrowTypes
  if !arrowTypes && typed then ensure (← atPunct ":")
  pure .other

/-- An arrow function with one bare parameter, which is taken. -/
def bareArrowFunction (async arrowTypes : Bool) : Parser text Shape := do
  arrow
  arrowBody run async arrowTypes
  pure .other

/-- Whether an asynchronous arrow function with one bare parameter starts here. -/
def startsBareAsyncArrow : Parser text Bool := do
  if ← atWord "async" then
    nextLooksLike do
      if (← afterLineBreak) || !(← atBindable) then pure false
      else
        advance
        pure (!(← afterLineBreak) && (← atPunct "=>"))
  else pure false

/-! ## Assignments -/

/-- The operators that assign. -/
def assignmentOperators : List String := [
  "=", "+=", "-=", "*=", "/=", "%=", "**=", "<<=", ">>=", ">>>=", "&=", "|=", "^=", "&&=", "||=",
  "??="]

/-- A `yield` expression. -/
def yieldExpression : Parser text Shape := do
  flawIf !(← context).yields
  takeKeyword
  if !(← afterLineBreak) then
    let delegate ← eatPunct "*"
    let ended := (← atAnyPunct [";", "\x7d", "]", ")", ":", ","]) || (← atEnd) || (← atWord "in")
    if delegate || !ended then
      let _ ← run.assignment
  pure .other

/-- An expression that is no arrow function with parentheses. -/
def plainAssignment (arrowTypes : Bool) : Parser text Shape := do
  let left ← run (.binary 0)
  let op ← operator?
  match left with
  | .name _ =>
    if ← atPunct "=>" then bareArrowFunction run false arrowTypes else rest op left
  | _ => rest op left
where
  /-- What follows the first operands: an assignment or a condition. -/
  rest (op : Option String) (left : Shape) : Parser text Shape := do
    match op with
    | some op =>
      if assignmentOperators.contains op && !((← word?).isSome) then
        if op = "=" then
          ensure left.canAssign
          settleDefaults left.openDefaults
        else ensure left.canUpdate
        advance
        let _ ← run (.assignment arrowTypes)
        pure (.assign (op == "="))
      else conditionalRest run arrowTypes left
    | none => conditionalRest run arrowTypes left

/-- An expression without commas. -/
def assignmentExpression (arrowTypes : Bool) : Parser text Shape := do
  if ← isOperatorWord "yield" (← context).yields then yieldExpression run
  else
    match ← arrowVerdict with
    | .yes => arrowFunction run arrowTypes
    | .maybe =>
      match ← attempt (arrowFunction run arrowTypes) with
      | some shape => pure shape
      | none => other
    | .no => other
where
  /-- An expression that is no arrow function with parentheses. -/
  other : Parser text Shape := do
    if ← startsBareAsyncArrow then
      takeKeyword
      let _ ← within (fun ctx => { ctx with awaits := true }) bindingName
      bareArrowFunction run true arrowTypes
    else plainAssignment run arrowTypes

/-- Expressions with commas between them. -/
def commaExpression : Parser text Shape := do
  let first ← run (.assignment true)
  iterate first fun last => do
    if ← eatPunct "," then
      let _ ← run (.assignment true)
      pure (.inl .other)
    else pure (.inr last)

end LiveBundle.Script
