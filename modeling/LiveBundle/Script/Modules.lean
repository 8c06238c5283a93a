import LiveBundle.Script.Statements

/-!
# Imports and exports

The statements that make a script a module. They are read at the top level and, as any statement,
also inside of blocks, where nobody asks for what they say.
-/

namespace LiveBundle.Script

open LiveBundle.Script.Parser

variable {text : List Char} (run : Runner text)

/-! ## Parts -/

/-- The name of an import or export: a word or a string. -/
def moduleName : Parser text String := do
  match ← kind with
  | .word w _ =>
    advance
    pure w
  | .string s =>
    advance
    pure s
  | _ => fail

/-- Whether the name of an import or export is here. -/
def atModuleName : Parser text Bool := do
  match ← kind with
  | .word _ _ | .string _ => pure true
  | _ => pure false

/-- The text of a string literal. -/
def stringLiteral : Parser text String := do
  match ← kind with
  | .string s =>
    advance
    pure s
  | _ => fail

/-- The attributes behind a module's text, if there are any. -/
def attributes : Parser text Unit := do
  if (← atWord "with") || ((← atWord "assert") && !(← afterLineBreak)) then
    advance
    expectPunct "\x7b"
    closedList "\x7d" do
      let _ ← moduleName
      expectPunct ":"
      let _ ← stringLiteral

/-- `from`, the text that names a module, its attributes, and the end of the statement. -/
def fromClause : Parser text String := do
  expectWord "from"
  let specifier ← stringLiteral
  attributes
  statementEnd
  pure specifier

/-- A name that was read in braces: the part before `as`, the part behind it, whether `type` stands
in front, and whether the names are words. -/
structure BracedName where
  front : String
  back : Option String
  typeOnly : Bool
  frontIsWord : Bool
  backIsWord : Bool

/-- Whether a word is here. -/
def atAnyWordKind : Parser text Bool := do pure (← word?).isSome

/-- A name in the braces of an import or export. The word `type` in front, which only types know,
may also be the name itself. -/
def bracedName : Parser text BracedName := do
  let frontIsWord ← atAnyWordKind
  let typed := (← context).typescript && (← atWord "type")
  let front ← moduleName
  if typed && (← atWord "as") then
    -- `type as …`: the first `as` is a name, or the keyword.
    advance
    if ← atWord "as" then
      advance
      if ← atModuleName then
        let backIsWord ← atAnyWordKind
        pure ⟨"as", some (← moduleName), true, true, backIsWord⟩
      else pure ⟨front, some "as", false, true, true⟩
    else if ← atModuleName then
      let backIsWord ← atAnyWordKind
      pure ⟨front, some (← moduleName), false, true, backIsWord⟩
    else pure ⟨"as", none, true, true, true⟩
  else if typed && (← atModuleName) then
    let frontIsWord ← atAnyWordKind
    let front ← moduleName
    withAlias front true frontIsWord
  else withAlias front false frontIsWord
where
  /-- The part behind `as`, if there is one. -/
  withAlias (front : String) (typeOnly frontIsWord : Bool) : Parser text BracedName := do
    if ← eatWord "as" then
      let backIsWord ← atAnyWordKind
      pure ⟨front, some (← moduleName), typeOnly, frontIsWord, backIsWord⟩
    else pure ⟨front, none, typeOnly, frontIsWord, frontIsWord⟩

/-! ## Imports -/

/-- A name in the braces of an import; what it is called here has to be a name. -/
def importName : Parser text ImportName := do
  let n ← bracedName
  let localName := n.back.getD n.front
  ensure (n.backIsWord && !isReserved localName)
  let ctx ← context
  flawIf (!isReference ctx localName)
  pure ⟨n.front, localName, n.typeOnly⟩

/-- The names in the braces of an import. -/
def namedImports : Parser text (List ImportName) := do
  expectPunct "\x7b"
  let (names, _) ← commaList "\x7d" importName
  expectPunct "\x7d"
  pure names

/-- `* as` a name. -/
def namespaceImport : Parser text String := do
  expectPunct "*"
  expectWord "as"
  bindingName

/-- The part of an import behind its default name: a namespace or names in braces. -/
def importRest (default : Option String) : Parser text ImportClause := do
  if ← atPunct "*" then pure ⟨default, some (← namespaceImport), []⟩
  else pure ⟨default, none, ← namedImports⟩

/-- Everything between `import` and `from`. -/
def importClause (default : Option String) : Parser text ImportClause := do
  match default with
  | none => importRest none
  | some _ => if ← eatPunct "," then importRest default else pure ⟨default, none, []⟩

/-- Whether the word `type` in front of an import means that only types are imported. -/
def startsTypeImport : Parser text Bool := do
  if (← context).typescript && (← atWord "type") then
    nextLooksLike do
      if ← atAnyPunct ["*", "\x7b"] then pure true
      else if ← atWord "from" then
        nextLooksLike do pure ((← atWord "from") || (← atPunct "="))
      else atBindable
  else pure false

/-- Whether the word in front of an import names the phase in which the module is used. -/
def startsPhase : Parser text Bool := do
  if ← atWord "defer" then nextLooksLike (atPunct "*")
  else if ← atWord "source" then
    nextLooksLike do
      if ← atWord "from" then nextLooksLike (atWord "from") else atBindable
  else pure false

/-- An import that is an assignment, from its `=` on. -/
def importAssignment : Parser text Unit := do
  expectPunct "="
  if (← atWord "require") && (← nextLooksLike (atPunct "(")) then
    advance
    expectPunct "("
    let _ ← stringLiteral
    expectPunct ")"
  else
    iterate () fun _ => do
      let _ ← anyName
      if ← eatPunct "." then pure (.inl ()) else pure (.inr ())
  statementEnd

/-- An import statement. -/
def importStatement : Parser text (Item text) := do
  let start ← here
  takeKeyword
  match ← kind with
  | .string specifier =>
    advance
    attributes
    statementEnd
    pure (.importing (← spanFrom start) specifier ⟨none, none, []⟩)
  | _ =>
    let typeOnly ← startsTypeImport
    if typeOnly then advance
    else if ← startsPhase then advance
    let default ← if ← atBindable then some <$> bindingName else pure none
    if default.isSome && (← context).typescript && (← atPunct "=") then
      importAssignment
      pure (.unsupported (← spanFrom start))
    else
      let clause ← importClause default
      let specifier ← fromClause
      let span ← spanFrom start
      pure (if typeOnly then .typeOnly span else .importing span specifier clause)

/-! ## Exports -/

/-- The names in the braces of an export; without a module behind them they have to be variables. -/
def exportNames (start : Place text) (typeOnly : Bool) : Parser text (Item text) := do
  expectPunct "\x7b"
  let (names, _) ← commaList "\x7d" bracedName
  expectPunct "\x7d"
  let all := names.map fun n => ⟨n.front, n.back.getD n.front, n.typeOnly⟩
  if ← atWord "from" then
    let specifier ← fromClause
    let span ← spanFrom start
    pure (if typeOnly then .typeOnly span else .exportFrom span specifier all)
  else
    ensure (names.all fun n => n.frontIsWord && !isReserved n.front)
    flawIf (names.any fun n => n.front == "await" || n.front == "yield")
    statementEnd
    let span ← spanFrom start
    pure (if typeOnly then .typeOnly span else .exportList span all)

/-- `export *`. -/
def exportAll (start : Place text) (typeOnly : Bool) : Parser text (Item text) := do
  expectPunct "*"
  let exported ← if ← eatWord "as" then some <$> moduleName else pure none
  let specifier ← fromClause
  let span ← spanFrom start
  pure (if typeOnly then .typeOnly span else .exportAll span specifier exported)

/-- `export default` before a class or function. -/
def exportDefaultDeclared (start inner : Place text) (name : Option String) :
    Parser text (Item text) := do
  match name with
  | some name => pure (.exportDefaultNamed (start.spanTo inner) name)
  | none =>
    let stop := (← state).previous
    pure (.exportDefaultAnonymous (start.spanTo inner) (stop.spanTo stop))

/-- `export default`, from its second word on. -/
def exportDefault (start : Place text) : Parser text (Item text) := do
  takeKeyword
  let typed := (← context).typescript
  let inner ← here
  if (← atWord "class") || (← atPunct "@") ||
      (typed && (← atWord "abstract") && (← nextLooksLike (atWord "class"))) then
    let _ ← decorators run
    exportDefaultDeclared start inner (← classDeclaration run true)
  else if typed && (← atWord "interface") && (← nameFollows) then
    interfaceDeclaration run
    pure (.exportDefaultErased (← spanFrom start))
  else if ← startsFunction then
    exportDefaultDeclared start inner (← functionDeclaration run true)
  else
    let _ ← run.assignmentIn
    statementEnd
    pure (.exportDefaultExpression (start.spanTo inner))

/-- `export` before a declaration. -/
def exportDeclaration (start : Place text) : Parser text (Item text) := do
  let inner ← here
  let (declaration, described) ← describedDeclaration run
  let span ← spanFrom start
  pure (if described then .typeOnly span
    else .exportDeclaration span (start.spanTo inner) declaration)

/-- An export statement; `start` is where it starts, decorators included. -/
def exportStatement (start : Place text) : Parser text (Item text) := do
  takeKeyword
  let typed := (← context).typescript
  if ← atWord "default" then exportDefault run start
  else if ← atPunct "*" then exportAll start false
  else if ← atPunct "\x7b" then exportNames start false
  else if typed && (← atWord "import") then
    advance
    let _ ← eatWord "type"
    let inner ← here
    let _ ← bindingName
    importAssignment
    pure (.exportDeclaration (← spanFrom start) (start.spanTo inner) .erased)
  else if typed && (← atPunct "=") then
    advance
    let _ ← run.expressionIn
    statementEnd
    pure (.unsupported (← spanFrom start))
  else if typed && (← atWord "as") then
    advance
    expectWord "namespace"
    let _ ← bindingName
    statementEnd
    pure (.unsupported (← spanFrom start))
  else if typed && (← atWord "type") && (← nextLooksLike (atPunct "\x7b")) then
    advance
    exportNames start true
  else if typed && (← atWord "type") && (← nextLooksLike (atPunct "*")) then
    advance
    exportAll start true
  else exportDeclaration run start

/-! ## Statements -/

/-- Whether `import` starts an expression here. -/
def startsImportExpression : Parser text Bool := nextLooksLike (atAnyPunct ["(", "."])

/-- A statement behind decorators. -/
def decoratedStatement : Parser text (Item text) := do
  let start ← here
  let _ ← decorators run
  if ← atWord "export" then exportStatement run start
  else
    let _ ← classDeclaration run false
    pure .other

/-- A statement. -/
def anyStatement (single : Bool) : Parser text (Item text) := do
  match ← kind with
  | .punct "\x7b" =>
    run .block
    pure .other
  | .punct ";" =>
    advance
    pure .other
  | .punct "@" => decoratedStatement run
  | .word w _ =>
    if w = "export" then exportStatement run (← here)
    else if w = "import" && !(← startsImportExpression) then importStatement
    else
      keywordStatement run single w
      pure .other
  | _ =>
    expressionStatement run
    pure .other

end LiveBundle.Script
