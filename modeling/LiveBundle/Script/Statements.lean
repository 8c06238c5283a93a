import LiveBundle.Script.Expressions

/-!
# Statements and declarations

Statements of every kind but those that import and export. A declaration is told with what it binds
and with the place where it starts, because exporting it is written in front of that place.
-/

namespace LiveBundle.Script

open LiveBundle.Script.Parser

variable {text : List Char} (run : Runner text)

/-! ## Variables -/

/-- The keyword that declares variables. -/
inductive VariableKind where
  | var
  | let_
  | const_
  /-- A resource that is released at the end of the block. -/
  | using_
deriving DecidableEq

/-- A declared variable: its pattern, and whether it has a value. -/
def declarator : Parser text (Pattern × Bool) := do
  let pattern ← run .pattern
  if (← context).typescript then
    let _ ← eatPunct "!"
  optionalType run
  if ← eatPunct "=" then
    let _ ← run.assignment
    pure (pattern, true)
  else pure (pattern, false)

/-- Declared variables with commas between them. -/
def declarators : Parser text (List (Pattern × Bool)) :=
  iterate [] fun acc => do
    let d ← declarator run
    if ← eatPunct "," then pure (.inl (d :: acc)) else pure (.inr (d :: acc).reverse)

/-- Whether a variable may not be declared without a value. -/
def needsValue (ambient : Bool) (kind : VariableKind) : Pattern → Bool
  | .name _ => kind == .using_ || (kind == .const_ && !ambient)
  | _ => !ambient

/-- Notes a variable that is declared without the value it needs. -/
def checkValues (kind : VariableKind) (ds : List (Pattern × Bool)) : Parser text Unit := do
  let ambient := (← context).ambient
  flawIf (ds.any fun (pattern, valued) => !valued && needsValue ambient kind pattern)

/-- Variables from behind their keyword to the end of the statement. -/
def variableStatement (kind : VariableKind) : Parser text Declaration := do
  let ds ← declarators run
  checkValues kind ds
  statementEnd
  pure (.variables (ds.map (·.1)))

/-- Whether a name follows on the same line, as it does behind `using`. -/
def nameFollows : Parser text Bool := nextLooksLike do
  if ← afterLineBreak then pure false else atBindable

/-- Whether a resource is declared here. -/
def startsUsing : Parser text Bool := do
  if ← atWord "using" then nameFollows
  else if ← atWord "await" then
    nextLooksLike do
      if ← afterLineBreak then pure false
      else if ← atWord "using" then nameFollows
      else pure false
  else pure false

/-- The keyword of a resource. -/
def takeUsing : Parser text Unit := do
  let _ ← eatWord "await"
  expectWord "using"

/-! ## Declarations of types -/

/-- An interface from its keyword on. -/
def interfaceDeclaration : Parser text Unit := do
  expectWord "interface"
  let _ ← bindingName
  typeParameters run
  if ← eatWord "extends" then
    iterate () fun _ => do
      typeReference run
      if ← eatPunct "," then pure (.inl ()) else pure (.inr ())
  objectType run

/-- A type alias from its keyword on. -/
def typeAlias : Parser text Unit := do
  expectWord "type"
  let _ ← bindingName
  typeParameters run
  expectPunct "="
  run.type
  statementEnd

/-- A member of an enumeration. -/
def enumMember : Parser text Unit := do
  propertyName run
  if ← eatPunct "=" then
    let _ ← run.assignmentIn

/-- An enumeration from its keyword on. -/
def enumDeclaration : Parser text Unit := do
  expectWord "enum"
  let _ ← bindingName
  expectPunct "\x7b"
  closedList "\x7d" (enumMember run)

/-- The statements of a namespace. -/
def namespaceBody : Parser text Unit :=
  within (fun ctx => { ctx with returns := false, yields := false }) (run .block)

/-- A namespace or the description of a module, from its keyword on. -/
def namespaceDeclaration : Parser text Unit := do
  advance
  match ← kind with
  | .string _ =>
    advance
    if ← atPunct "\x7b" then namespaceBody run else statementEnd
  | _ =>
    iterate () fun _ => do
      let _ ← bindingName
      if ← eatPunct "." then pure (.inl ()) else pure (.inr ())
    namespaceBody run

/-- The modifiers in front of declarations. -/
def declarationModifiers : List String :=
  ["abstract", "accessor", "async", "declare", "private", "protected", "public", "readonly"]

/-- Whether a declaration that only types know starts here, maybe behind modifiers. -/
def startsTypedDeclaration : Parser text Bool := looksLike <|
  iterate () fun _ => do
    match ← word? with
    | none => pure (.inr false)
    | some w =>
      if ["var", "let", "const", "function", "class", "enum"].contains w then pure (.inr true)
      else if w = "interface" || w = "type" then
        advance
        pure (.inr (!(← afterLineBreak) && (← atBindable)))
      else if w = "module" || w = "namespace" then
        advance
        let named ← match ← kind with
          | .string _ => pure true
          | _ => atBindable
        pure (.inr (!(← afterLineBreak) && named))
      else if w = "global" then
        advance
        pure (.inr ((← atPunct "\x7b") || (← atBindable) || (← atWord "export")))
      else if w = "import" then
        advance
        let named ← match ← kind with
          | .string _ | .word _ _ => pure true
          | _ => atAnyPunct ["*", "\x7b"]
        pure (.inr named)
      else if declarationModifiers.contains w then
        advance
        if ← afterLineBreak then pure (.inr false) else pure (.inl ())
      else if w = "static" then
        advance
        pure (.inl ())
      else pure (.inr false)

/-- A class behind its decorators and modifiers. -/
def classDeclaration (optionalName : Bool) : Parser text (Option String) := do
  let _ ← eatWord "abstract"
  let name ← run .classDefinition
  ensure (optionalName || name.isSome)
  pure name

/-- A declaration other than an import or export. -/
def declaration : Parser text Declaration := do
  let typed := (← context).typescript
  if ← startsFunction then
    match ← functionDeclaration run false with
    | some name => pure (.function name)
    | none => fail
  else if (← atWord "class") || (← atPunct "@") ||
      (typed && (← atWord "abstract") && (← nextLooksLike (atWord "class"))) then
    let _ ← decorators run
    match ← classDeclaration run false with
    | some name => pure (.class name)
    | none => fail
  else if typed && (← atWord "const") && (← nextLooksLike (atWord "enum")) then
    advance
    enumDeclaration run
    pure .erased
  else if ← atAnyWord ["var", "let", "const"] then
    let kind ← if ← atWord "var" then pure VariableKind.var
      else if ← atWord "let" then pure .let_ else pure .const_
    takeKeyword
    variableStatement run kind
  else if typed then
    if ← atWord "interface" then
      interfaceDeclaration run
      pure .erased
    else if ← atWord "type" then
      typeAlias run
      pure .erased
    else if ← atWord "enum" then
      enumDeclaration run
      pure .erased
    else if ← atAnyWord ["namespace", "module"] then
      namespaceDeclaration run
      pure .erased
    else if ← eatWord "global" then
      namespaceBody run
      pure .erased
    else fail
  else fail

/-- A declaration behind `declare`, which describes what exists elsewhere, or one without it; tells
whether it was there. -/
def describedDeclaration : Parser text (Declaration × Bool) := do
  if (← context).typescript && (← atWord "declare") && (← startsTypedDeclaration) then
    advance
    let d ← within (fun ctx => { ctx with ambient := true }) (declaration run)
    pure (d, true)
  else pure (← declaration run, false)

/-! ## Control -/

/-- A condition in parentheses. -/
def condition : Parser text Unit := do
  expectPunct "("
  let _ ← run.expressionIn
  expectPunct ")"

/-- `if` with its branches. -/
def ifStatement : Parser text Unit := do
  takeKeyword
  condition run
  run.single
  if ← eatWord "else" then run.single

/-- `do` with its condition behind the body. -/
def doStatement : Parser text Unit := do
  takeKeyword
  run.single
  expectWord "while"
  condition run
  let _ ← eatPunct ";"

/-- The rest of a loop with three parts, from the first semicolon on. -/
def forParts : Parser text Unit := do
  expectPunct ";"
  if !(← atPunct ";") then
    let _ ← run.expressionIn
  expectPunct ";"
  if !(← atPunct ")") then
    let _ ← run.expressionIn
  expectPunct ")"
  run.single

/-- The rest of a loop over a collection or over keys, from `in` or `of` on. -/
def forOver (await : Bool) : Parser text Unit := do
  if ← eatWord "of" then
    let _ ← run.assignmentIn
  else
    expectWord "in"
    flawIf await
    let _ ← run.expressionIn
  expectPunct ")"
  run.single

/-- The keyword of variables that a loop declares. -/
def forDeclarationKind : Parser text (Option VariableKind) := do
  if ← atWord "var" then pure (some .var)
  else if ← atWord "const" then pure (some .const_)
  else if ← atWord "let" then
    let declares ← nextLooksLike do pure ((← atBindable) || (← atAnyPunct ["[", "\x7b"]))
    pure (if declares then some .let_ else none)
  else if ← startsUsing then
    let isName ← if ← atWord "using" then nextLooksLike (atWord "of") else pure false
    pure (if isName then none else some .using_)
  else pure none

/-- Whether `async` stands here with `of` behind it; written with escapes it is a name. -/
def startsAsyncOf : Parser text Bool := do
  match ← kind with
  | .word w escaped =>
    if w == "async" && !escaped then nextLooksLike (atWord "of") else pure false
  | _ => pure false

/-- `for` in all its forms. -/
def forStatement : Parser text Unit := do
  takeKeyword
  let await ← atWord "await"
  if await then
    flawIf !(← context).awaits
    advance
  expectPunct "("
  if ← atPunct ";" then
    flawIf await
    forParts run
  else
    match ← forDeclarationKind with
    | some kind =>
      if kind == .using_ then takeUsing else takeKeyword
      let ds ← within (fun ctx => { ctx with inOperator := false }) (declarators run)
      if ← atAnyWord ["in", "of"] then forOver run await
      else
        flawIf await
        checkValues kind ds
        forParts run
    | none =>
      -- `async of` in front of `=>` starts a function, which is no place to assign to.
      let asyncOf ← startsAsyncOf
      let left ← within (fun ctx => { ctx with inOperator := false }) run.expression
      if ← atAnyWord ["in", "of"] then
        ensure left.canAssign
        settleDefaults left.openDefaults
        flawIf (asyncOf && !await)
        forOver run await
      else
        flawIf await
        forParts run

/-- `break` or `continue`, maybe with a label. -/
def jumpStatement : Parser text Unit := do
  takeKeyword
  if !(← canEndStatement) then
    let _ ← bindingName
  statementEnd

/-- `return`, maybe with a value. -/
def returnStatement : Parser text Unit := do
  flawIf !(← context).returns
  takeKeyword
  if !(← canEndStatement) then
    let _ ← run.expressionIn
  statementEnd

/-- The statements of a case. -/
def caseBody : Parser text Unit :=
  iterate () fun _ => do
    if (← atPunct "\x7d") || (← atAnyWord ["case", "default"]) then pure (.inr ())
    else
      let _ ← run (.statement false)
      pure (.inl ())

/-- `switch` with its cases. -/
def switchStatement : Parser text Unit := do
  takeKeyword
  condition run
  expectPunct "\x7b"
  iterate () fun _ => do
    if ← eatPunct "\x7d" then pure (.inr ())
    else
      if ← eatWord "default" then pure ()
      else
        expectWord "case"
        let _ ← run.expressionIn
      expectPunct ":"
      caseBody run
      pure (.inl ())

/-- `throw`, whose value stands on the same line. -/
def throwStatement : Parser text Unit := do
  takeKeyword
  ensure !(← afterLineBreak)
  let _ ← run.expressionIn
  statementEnd

/-- `try` with at least one of its handlers. -/
def tryStatement : Parser text Unit := do
  takeKeyword
  run .block
  let caught ← eatWord "catch"
  if caught then
    if ← eatPunct "(" then
      let _ ← run .pattern
      optionalType run
      expectPunct ")"
    run .block
  let finished ← eatWord "finally"
  if finished then run .block
  flawIf !(caught || finished)

/-- `with`. -/
def withStatement : Parser text Unit := do
  takeKeyword
  condition run
  run.single

/-- Whether a label starts here. -/
def startsLabel : Parser text Bool := do
  match ← word? with
  | some w =>
    if isReference (← context) w then nextLooksLike (atPunct ":") else pure false
  | none => pure false

/-- An expression or a labelled statement. -/
def expressionStatement : Parser text Unit := do
  if ← startsLabel then
    advance
    advance
    run.single
  else
    let _ ← run.expressionIn
    statementEnd

/-- Whether `let` declares variables here. -/
def letDeclares (single : Bool) : Parser text Bool := nextLooksLike do
  match ← operator? with
  | some op =>
    if assignmentOperators.contains op || (operatorLevels.find? (·.1 == op)).isSome then
      pure (op == "as" || op == "satisfies")
    else if op = "." || op = "(" || op = ";" then pure false
    else pure (!single || op == "[")
  | none => pure !single

/-- The statements in braces. -/
def blockStatement : Parser text Unit := do
  expectPunct "\x7b"
  iterate () fun _ => do
    if ← eatPunct "\x7d" then pure (.inr ())
    else
      let _ ← run (.statement false)
      pure (.inl ())

/-- A statement that starts with a word and is neither a declaration of types nor a module
statement. -/
def keywordStatement (single : Bool) (w : String) : Parser text Unit := do
  match w with
  | "if" => ifStatement run
  | "do" => doStatement run
  | "while" => withStatement run
  | "for" => forStatement run
  | "continue" | "break" => jumpStatement
  | "with" => withStatement run
  | "switch" => switchStatement run
  | "throw" => throwStatement run
  | "try" => tryStatement run
  | "debugger" =>
    takeKeyword
    statementEnd
  | "return" => returnStatement run
  | "class" =>
    flawIf single
    let _ ← declaration run
  | "var" | "function" =>
    let _ ← declaration run
  | "const" =>
    flawIf single
    let _ ← declaration run
  | "let" =>
    if ← letDeclares single then
      flawIf single
      let _ ← declaration run
    else expressionStatement run
  | _ =>
    if (← startsFunction) then
      flawIf single
      let _ ← declaration run
    else if ← startsUsing then
      takeUsing
      flawIf single
      let _ ← variableStatement run .using_
    else if (← context).typescript && (← startsTypedDeclaration) then
      let _ ← describedDeclaration run
    else expressionStatement run

end LiveBundle.Script
