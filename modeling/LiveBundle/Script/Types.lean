import LiveBundle.Script.Goal

/-!
# Types

Types are read and dropped. Only where they end matters, and that what is read is a type.
-/

namespace LiveBundle.Script

open LiveBundle.Script.Parser

variable {text : List Char} (run : Runner text)

/-- Reads the given items up to a closing punctuator and takes it. -/
def closedList (close : String) (item : Parser text Unit) : Parser text Unit := do
  let _ ← commaList close item
  expectPunct close

/-- Turns an operator that starts with `<` into the bracket. -/
def openAngle : Parser text Bool := do
  if ← atPunct "<<" then
    reread fun _ => some (.punct "<", 1)
    pure true
  else atPunct "<"

/-- A type parameter. -/
def typeParameter : Parser text Unit := do
  iterate () fun _ => do
    if ← atAnyWord ["const", "in", "out"] then
      if (← atAnyWord ["const", "in"]) || (← nextLooksLike atBindable) then
        advance
        pure (.inl ())
      else pure (.inr ())
    else pure (.inr ())
  let _ ← bindingName
  if ← eatWord "extends" then run.type
  if ← eatPunct "=" then run.type

/-- Type parameters, if there are any. -/
def typeParameters : Parser text Unit := do
  if (← context).typescript then
    if ← eatPunct "<" then
      let (ps, _) ← commaList ">" (typeParameter run)
      ensure (!ps.isEmpty)
      expectPunct ">"

/-- Type arguments. -/
def typeArguments : Parser text Unit := do
  ensure (← openAngle)
  advance
  let (ts, comma) ← commaList ">" run.type
  ensure (!ts.isEmpty)
  flawIf comma
  expectPunct ">"

/-- Type arguments on the same line, if there are any. -/
def typeArguments? : Parser text Unit := do
  if !(← afterLineBreak) && ((← atPunct "<") || (← atPunct "<<")) then typeArguments run

/-- Names with points between them and type arguments. -/
def typeReference : Parser text Unit := do
  iterate () fun _ => do
    let _ ← anyName
    if ← eatPunct "." then pure (.inl ()) else pure (.inr ())
  typeArguments? run

/-- The result type of a function: a type or a statement about an argument. -/
def resultType : Parser text Unit := do
  let asserting ← looksLike do
    if ← eatWord "asserts" then
      if ← afterLineBreak then pure false
      else if ← atWord "this" then pure true
      else atBindable
    else pure false
  if asserting then
    advance
    advance
    if ← eatWord "is" then run.type
  else
    let predicate ← looksLike do
      if (← atBindable) || (← atWord "this") then
        advance
        if ← afterLineBreak then pure false else atWord "is"
      else pure false
    if predicate then
      advance
      advance
      run.type
    else run.type

/-- A colon and a type, if they are there. -/
def optionalType : Parser text Unit := do
  if (← context).typescript then
    if ← eatPunct ":" then run.type

/-- A colon and the result type of a function, if they are there. -/
def optionalResult : Parser text Unit := do
  if (← context).typescript then
    if ← eatPunct ":" then resultType run

/-- The type of a function behind its type parameters. -/
def functionType : Parser text Unit := do
  typeParameters run
  run .parameters
  expectPunct "=>"
  resultType run

/-- Passes over the first name or pattern of what may be parameters. -/
def skipParameterStart : Parser text Bool := do
  if (← atBindable) || (← atWord "this") then
    advance
    pure true
  else if (← atPunct "[") || (← atPunct "\x7b") then
    let _ ← run .pattern
    pure true
  else pure false

/-- Whether parameters of a function type start here. -/
def startsFunctionType : Parser text Bool := do
  if ← atPunct "<" then pure true
  else looksLike do
    if ← eatPunct "(" then
      if ← atAnyPunct [")", "..."] then pure true
      else if ← skipParameterStart run then
        if ← atAnyPunct [":", ",", "?", "="] then pure true
        else if ← eatPunct ")" then atPunct "=>"
        else pure false
      else pure false
    else pure false

/-- The name of a property. -/
def propertyName : Parser text Unit := do
  match ← kind with
  | .word _ _ | .string _ | .number | .bigint | .privateName => advance
  | .punct "[" =>
    advance
    let _ ← run.assignmentIn
    expectPunct "]"
  | _ => fail

/-- The end of a member of an object type. -/
def memberEnd : Parser text Unit := do
  if ← eatPunct "," then pure () else statementEnd

/-- The rest of a call signature. -/
def signature : Parser text Unit := do
  typeParameters run
  run .parameters
  optionalResult run

/-- Whether an index signature starts here. -/
def startsIndexSignature : Parser text Bool := looksLike do
  if ← eatPunct "[" then
    if ← atBindable then
      advance
      atPunct ":"
    else pure false
  else pure false

/-- An index signature. -/
def indexSignature : Parser text Unit := do
  expectPunct "["
  let _ ← bindingName
  expectPunct ":"
  run.type
  expectPunct "]"
  optionalType run

/-- Whether the token can be the start of a property's name. -/
def atPropertyName : Parser text Bool := do
  match ← kind with
  | .word _ _ | .string _ | .number | .bigint | .privateName => pure true
  | .punct p => pure (p == "[")
  | _ => pure false

/-- A member of an object type. -/
def typeMember : Parser text Unit := do
  if ← atAnyPunct ["(", "<"] then signature run
  else if (← atWord "new") && (← nextLooksLike (atAnyPunct ["(", "<"])) then
    advance
    signature run
  else do
    if (← atWord "readonly") && (← nextLooksLike atPropertyName) then advance
    if ← startsIndexSignature then indexSignature run
    else do
      if (← atAnyWord ["get", "set"]) && (← nextLooksLike atPropertyName) then advance
      propertyName run
      let _ ← eatPunct "?"
      if ← atAnyPunct ["(", "<"] then signature run else optionalType run
  memberEnd

/-- Whether the braces hold a mapped type. -/
def startsMappedType : Parser text Bool := looksLike do
  expectPunct "\x7b"
  if ← atAnyPunct ["+", "-"] then
    advance
    atWord "readonly"
  else do
    if ← atWord "readonly" then advance
    expectPunct "["
    let _ ← anyName
    atWord "in"

/-- A mapped type. -/
def mappedType : Parser text Unit := do
  expectPunct "\x7b"
  if ← atAnyPunct ["+", "-"] then
    advance
    expectWord "readonly"
  else if ← atWord "readonly" then advance
  expectPunct "["
  let _ ← anyName
  expectWord "in"
  run.type
  if ← eatWord "as" then run.type
  expectPunct "]"
  if ← atAnyPunct ["+", "-"] then
    advance
    expectPunct "?"
  else
    let _ ← eatPunct "?"
  optionalType run
  if ← atAnyPunct [";", ","] then advance
  expectPunct "\x7d"

/-- The members of an object type, in braces. -/
def objectType : Parser text Unit := do
  expectPunct "\x7b"
  iterate () fun _ => do
    if ← eatPunct "\x7d" then pure (.inr ())
    else do
      typeMember run
      pure (.inl ())

/-- An element of a tuple type. -/
def tupleElement : Parser text Unit := do
  let _ ← eatPunct "..."
  let named ← looksLike do
    let _ ← anyName
    let _ ← eatPunct "?"
    atPunct ":"
  if named then
    advance
    let _ ← eatPunct "?"
    expectPunct ":"
    run.type
  else
    run.type
    let _ ← eatPunct "?"

/-- The substitutions of a template, each read by `hole`, from its first piece on. -/
def templateParts (hole : Parser text Unit) (tagged : Bool) : Parser text Unit :=
  iterate () fun _ => do
    match ← kind with
    | .template last wellFormed =>
      flawIf (!tagged && !wellFormed)
      if last then
        advance
        pure (.inr ())
      else
        advance
        hole
        ensure (← atPunct "\x7d")
        reread fun s => Lexer.templatePart true 0 1 s.tail
        pure (.inl ())
    | _ => fail

/-- The type of a module: `import("x").A`. -/
def importType : Parser text Unit := do
  expectWord "import"
  expectPunct "("
  run.type
  if ← eatPunct "," then
    if ← atPunct "\x7b" then
      let _ ← run.assignmentIn
    let _ ← eatPunct ","
  expectPunct ")"
  if ← eatPunct "." then typeReference run else typeArguments? run

/-- A type without operators. -/
def primaryType : Parser text Unit := do
  match ← kind with
  | .string _ | .number | .bigint => advance
  | .template _ _ => templateParts run.type false
  | .punct "-" =>
    advance
    match ← kind with
    | .number | .bigint => advance
    | _ => fail
  | .punct "\x7b" => if ← startsMappedType then mappedType run else objectType run
  | .punct "[" =>
    advance
    closedList "]" (tupleElement run)
  | .punct "(" =>
    advance
    run.type
    expectPunct ")"
  | .word "typeof" _ =>
    advance
    if ← atWord "import" then importType run else typeReference run
  | .word "import" _ => importType run
  | .word w _ =>
    if ["void", "null", "this", "true", "false"].contains w then advance
    else do
      ensure (!isReserved w)
      typeReference run
  | _ => fail

/-- A type with brackets behind it. -/
def postfixType : Parser text Unit := do
  primaryType run
  iterate () fun _ => do
    if ← afterLineBreak then pure (.inr ())
    else if ← eatPunct "[" then
      if !(← atPunct "]") then run.type
      expectPunct "]"
      pure (.inl ())
    else pure (.inr ())

/-- A type that a condition does not follow. -/
def constraint : Parser text Unit :=
  within (fun ctx => { ctx with conditionals := false }) run.type

/-- A type that is chosen by a condition. -/
def branch : Parser text Unit := within (fun ctx => { ctx with conditionals := true }) run.type

/-- A type with the operators in front of it. A constraint behind `infer` is left alone if it turns
out to be the condition of the type around. -/
def operatorType : Parser text Unit := do
  iterate () fun _ => do
    if ← atAnyWord ["keyof", "unique", "readonly"] then
      advance
      pure (.inl ())
    else pure (.inr ())
  if ← eatWord "infer" then
    let _ ← bindingName
    let _ ← attempt do
      expectWord "extends"
      constraint run
      ensure (!(← context).conditionals || !(← atPunct "?"))
  else within (fun ctx => { ctx with conditionals := true }) (postfixType run)

/-- Types joined by an operator, which may also stand in front. -/
def joinedType (operator : String) (operand : Parser text Unit) : Parser text Unit := do
  let _ ← eatPunct operator
  operand
  iterate () fun _ => do
    if ← eatPunct operator then
      operand
      pure (.inl ())
    else pure (.inr ())

/-- A type. -/
def anyType : Parser text Unit := do
  if ← startsFunctionType run then functionType run
  else if (← atWord "new") then
    advance
    functionType run
  else if (← atWord "abstract") && (← nextLooksLike (atWord "new")) then
    advance
    advance
    functionType run
  else
    joinedType "|" (joinedType "&" (operatorType run))
    if (← context).conditionals && !(← afterLineBreak) then
      if ← eatWord "extends" then
        constraint run
        expectPunct "?"
        branch run
        expectPunct ":"
        branch run

end LiveBundle.Script
