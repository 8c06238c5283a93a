import LiveBundle.Script.Types

/-!
# Patterns, functions and classes

The left sides of declarations, parameters, and the bodies of functions and classes. A function
changes the surroundings: whether `await`, `yield` and `return` are known inside depends on its
kind alone.
-/

namespace LiveBundle.Script

open LiveBundle.Script.Parser

variable {text : List Char} (run : Runner text)

/-! ## Patterns -/

/-- A pattern and its default value, if it has one. -/
def patternElement : Parser text Pattern := do
  let target ← run .pattern
  if ← eatPunct "=" then
    let _ ← run.assignmentIn
    pure (.withDefault target)
  else pure target

/-- What stands behind `...` in a pattern; nothing may follow it. -/
def restElement (close : String) : Parser text Pattern := do
  expectPunct "..."
  let target ← run .pattern
  ensure (← atPunct close)
  pure target

/-- An array pattern. -/
def arrayPattern : Parser text Pattern := do
  expectPunct "["
  iterate [] fun acc => do
    if ← eatPunct "]" then pure (.inr (.array acc.reverse none))
    else if ← eatPunct "," then pure (.inl (none :: acc))
    else if ← atPunct "..." then
      let rest ← restElement run "]"
      advance
      pure (.inr (.array acc.reverse (some rest)))
    else
      let p ← patternElement run
      if !(← atPunct "]") then expectPunct ","
      pure (.inl (some p :: acc))

/-- Whether a property is given by its name alone. -/
def startsShorthand : Parser text Bool := do
  if ← atBindable then
    pure !(← nextLooksLike (atPunct ":"))
  else pure false

/-- A property of an object pattern. -/
def patternProperty : Parser text Pattern := do
  if ← startsShorthand then
    let name ← bindingName
    if ← eatPunct "=" then
      let _ ← run.assignmentIn
      pure (.withDefault (.name name))
    else pure (.name name)
  else
    propertyName run
    expectPunct ":"
    patternElement run

/-- An object pattern. What it collects behind `...` has to be a name. -/
def objectPattern : Parser text Pattern := do
  expectPunct "\x7b"
  iterate [] fun acc => do
    if ← eatPunct "\x7d" then pure (.inr (.object acc.reverse none))
    else if ← atPunct "..." then
      let rest ← restElement run "\x7d"
      flawIf (match rest with
        | .name _ => false
        | _ => true)
      advance
      pure (.inr (.object acc.reverse (some rest)))
    else
      let p ← patternProperty run
      if !(← atPunct "\x7d") then expectPunct ","
      pure (.inl (p :: acc))

/-- The pattern of a declared variable. -/
def bindingPattern : Parser text Pattern := do
  if ← atPunct "[" then arrayPattern run
  else if ← atPunct "\x7b" then objectPattern run
  else pure (.name (← bindingName))

/-! ## Decorators and modifiers -/

/-- The decorators in front of a declaration; tells whether there are any. -/
def decorators : Parser text Bool :=
  iterate false fun any => do
    if ← eatPunct "@" then
      let _ ← within (fun ctx => { ctx with decorating := true }) (run .leftHandSide)
      pure (.inl true)
    else pure (.inr any)

/-- Whether a word in front of the present token can be a modifier of it. -/
def canFollowModifier : Parser text Bool := do
  match ← kind with
  | .word _ _ | .string _ | .number | .bigint | .privateName => pure true
  | .punct p => pure (["[", "\x7b", "*", "..."].contains p)
  | _ => pure false

/-- Whether the present token is a modifier of the next one. -/
def atModifier (words : List String) : Parser text Bool := do
  if ← atAnyWord words then
    if (← atWord "static") then nextLooksLike canFollowModifier
    else nextLooksLike do
      if ← afterLineBreak then pure false else canFollowModifier
  else pure false

/-- Takes modifiers and gives the list of them, the last first. -/
def modifiers (words : List String) : Parser text (List String) :=
  iterate [] fun acc => do
    if ← atModifier words then
      match ← word? with
      | some w =>
        takeKeyword
        pure (.inl (w :: acc))
      | none => pure (.inr acc)
    else pure (.inr acc)

/-! ## Parameters -/

/-- A parameter; `...` makes it the last one. -/
def parameter : Parser text Unit := do
  let _ ← decorators run
  let typed := (← context).typescript
  if typed then
    let _ ← modifiers ["public", "private", "protected", "readonly", "override"]
  if ← eatPunct "..." then
    let _ ← run .pattern
    optionalType run
    ensure (← atPunct ")")
  else
    if typed && (← atWord "this") then advance
    else
      let _ ← run .pattern
    if typed then
      let _ ← eatPunct "?"
    optionalType run
    if ← eatPunct "=" then
      let _ ← run.assignmentIn

/-- The parameters of a function in parentheses. -/
def formalParameters : Parser text Unit := do
  expectPunct "("
  closedList ")" (parameter run)

/-! ## Functions -/

/-- The surroundings inside a function. -/
def Context.inFunction (async generator : Bool) (ctx : Context) : Context :=
  { ctx with
    inOperator := true
    awaits := async
    yields := generator
    returns := false
    decorating := false }

/-- The statements of a function in braces. -/
def functionBody : Parser text Unit :=
  within (fun ctx => { ctx with returns := true }) (run .block)

/-- A function from its type parameters on. Without a body it is a signature, which only types
know. -/
def functionRest (async generator : Bool) : Parser text Unit :=
  within (Context.inFunction async generator) do
    typeParameters run
    run .parameters
    optionalResult run
    if ← atPunct "\x7b" then functionBody run
    else
      ensure (← context).typescript
      statementEnd

/-- Whether a function starts here, maybe with `async` in front. -/
def startsFunction : Parser text Bool := do
  if ← atWord "function" then pure true
  else if ← atWord "async" then
    nextLooksLike do
      if ← afterLineBreak then pure false else atWord "function"
  else pure false

/-- The keywords in front of a function: whether it is asynchronous and a generator. -/
def functionHead : Parser text (Bool × Bool) := do
  let async ← eatWord "async"
  expectWord "function"
  let generator ← eatPunct "*"
  pure (async, generator)

/-- A function as an expression. -/
def functionExpression : Parser text Unit := do
  let (async, generator) ← functionHead
  within (Context.inFunction async generator) do
    if ← atBindable then
      let _ ← bindingName
  functionRest run async generator

/-- A function as a declaration. A name may be missing only where one is optional. -/
def functionDeclaration (optionalName : Bool) : Parser text (Option String) := do
  let (async, generator) ← functionHead
  let name ← if ← atBindable then some <$> bindingName
    else do
      ensure optionalName
      pure none
  functionRest run async generator
  pure name

/-! ## Classes -/

/-- The modifiers of class members that only types know. -/
def typedModifiers : List String :=
  ["public", "private", "protected", "readonly", "override", "abstract", "declare"]

/-- The statements of a static block, in braces. -/
def staticBlock : Parser text Unit :=
  within (fun ctx => { Context.inFunction true false ctx with returns := false }) (run .block)

/-- A method from its type parameters on. -/
def method (async generator : Bool) : Parser text Unit := functionRest run async generator

/-- A field from its type on. -/
def field : Parser text Unit := do
  if (← context).typescript then
    let _ ← eatPunct "!"
  optionalType run
  if ← eatPunct "=" then
    within (Context.inFunction false false) do
      let _ ← run.assignment
  statementEnd

/-- A member of a class. -/
def classMember : Parser text Unit := do
  let _ ← decorators run
  let typed := (← context).typescript
  if (← atWord "static") && (← nextLooksLike (atPunct "\x7b")) then
    advance
    staticBlock run
  else
    let words := ["static", "async", "accessor"] ++ if typed then typedModifiers else []
    let mods ← modifiers words
    let accessor ← atModifierLike ["get", "set"]
    if accessor then
      takeKeyword
      propertyName run
      method run false false
    else if typed && (← startsIndexSignature) then
      indexSignature run
      memberEnd
    else
      let generator ← eatPunct "*"
      propertyName run
      if typed then
        let _ ← eatPunct "?"
      if generator || (← atAnyPunct ["(", "<"]) then method run (mods.contains "async") generator
      else
        ensure !(mods.contains "async")
        field run
where
  /-- Whether the present token is one of the words and a property's name follows it. -/
  atModifierLike (words : List String) : Parser text Bool := do
    if ← atAnyWord words then nextLooksLike atPropertyName else pure false

/-- The members of a class in braces. -/
def classBody : Parser text Unit := do
  expectPunct "\x7b"
  iterate () fun _ => do
    if ← eatPunct "\x7d" then pure (.inr ())
    else if ← eatPunct ";" then pure (.inl ())
    else
      classMember run
      pure (.inl ())

/-- The classes and interfaces that a class builds on. -/
def heritage : Parser text Unit :=
  iterate () fun _ => do
    if ← eatWord "extends" then
      let _ ← run .leftHandSide
      if (← context).typescript then typeArguments? run
      pure (.inl ())
    else if (← context).typescript && (← atWord "implements") then
      takeKeyword
      iterate () fun _ => do
        typeReference run
        if ← eatPunct "," then pure (.inl ()) else pure (.inr ())
      pure (.inl ())
    else pure (.inr ())

/-- A class from its keyword on; gives its name. -/
def classRest : Parser text (Option String) := do
  expectWord "class"
  let typed := (← context).typescript
  let named := (← atBindable) && !(typed && (← atWord "implements") && (← nextLooksLike atBindable))
  let name ← if named then some <$> bindingName else pure none
  typeParameters run
  heritage run
  within (fun ctx => { ctx with decorating := false, inOperator := true }) (classBody run)
  pure name

end LiveBundle.Script
