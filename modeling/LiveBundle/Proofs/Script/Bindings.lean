import LiveBundle.Proofs.Script.Literals

/-!
# The names that a script binds

Reading a script keeps what its statements import and export; the names that other statements
declare are passed over. Here statements are read together with these names, production by
production, and what is read is the same.

* `Binding` is a name with the way in which it is bound.
* `Declaring` is a parser that collects bindings; in its namespace stand the productions of
  statements.
* `Declaring.Forgets` says that a production without its bindings is the one of the grammar.
* `Program.bound_of_parse`: the statements of a script that is read, with the bindings of each.
-/

namespace LiveBundle.Script

/-- How a name is bound. -/
inductive BindingKind where
  /-- By `let`, `const`, `using`, a class or an import: once in its scope. -/
  | lexical
  /-- By `var`, in all of the function around it. -/
  | var
  | function
deriving DecidableEq, Repr

/-- A name that a statement binds in the scope around it. -/
structure Binding where
  name : String
  kind : BindingKind
deriving DecidableEq, Repr

/-- Names that are bound in one way. -/
def bindAs (kind : BindingKind) (names : List String) : List Binding := names.map (⟨·, kind⟩)

/-- What a statement binds outside of a statement around it. -/
def hoisted (bs : List Binding) : List Binding := bs.filter (·.kind == .var)

/-- How a keyword binds variables. -/
def VariableKind.binds : VariableKind → BindingKind
  | .var => .var
  | _ => .lexical

variable {text : List Char} {α β σ : Type}

/-- What a declaration binds, variables in the given way. -/
def Declaration.bindings (kind : BindingKind) : Declaration → List Binding
  | .variables patterns => bindAs kind (Pattern.namesOfList patterns)
  | .function name => bindAs .function [name]
  | .class name => bindAs .lexical [name]
  | .erased => []

/-- The names that an import binds, those of types left out. -/
def ImportClause.names (clause : ImportClause) : List String :=
  clause.default.toList ++ clause.namespace_.toList ++
    (clause.named.filter (!·.typeOnly)).map (·.localName)

/-- The names that a statement imports, if it is an import. -/
def Item.imports? : Item text → Option (List String)
  | .importing _ _ clause => some clause.names
  | _ => none

/-- What an import or export binds; `kind` is the way for variables and for what is exported as
default. -/
def Item.bindings (kind : BindingKind) : Item text → List Binding
  | .importing _ _ clause => bindAs .lexical clause.names
  | .exportDeclaration _ _ declaration => declaration.bindings kind
  | .exportDefaultNamed _ name => bindAs kind [name]
  | _ => []

/-- An import binds its names, whatever the way for variables is. -/
lemma Item.bindings_of_imports {kind : BindingKind} {item : Item text} {names : List String}
    (h : item.imports? = some names) : item.bindings kind = bindAs .lexical names := by
  cases item <;> cases h
  rfl

/-! ## Parsers with the same steps -/

/-- A parser gives the results of another one, changed by a function. -/
def Parser.Maps (f : β → α) (q : Parser text β) (p : Parser text α) : Prop :=
  ∀ ctx s, p ctx s = (q ctx s).map fun r => (f r.1, r.2)

namespace Parser.Maps

/-- Every parser gives its own results. -/
lemma refl (p : Parser text α) : p.Maps id p := by
  intro ctx s
  rcases p ctx s with _ | ⟨a, s₁⟩ <;> rfl

/-- What is only given is changed by the function. -/
lemma pure {f : β → α} {a : α} {b : β} (h : a = f b) :
    (Pure.pure b : Parser text β).Maps f (Pure.pure a) := by
  rw [h]
  exact fun _ _ => rfl

/-- Two steps are followed by two steps, each of which gives what the other one does. -/
lemma bind {α' β' : Type} {f : β → α} {g : β' → α'} {q : Parser text β} {p : Parser text α}
    {q' : β → Parser text β'} {p' : α → Parser text α'} (h : q.Maps f p)
    (h' : ∀ b, (q' b).Maps g (p' (f b))) : (q >>= q').Maps g (p >>= p') := by
  intro ctx s
  simp only [Bind.bind, h ctx s]
  rcases q ctx s with _ | ⟨b, s₁⟩
  · rfl
  · exact h' b ctx s₁

/-- On both ways the results are the changed ones. -/
lemma ite {c : Prop} [Decidable c] {f : β → α} {q q' : Parser text β} {p p' : Parser text α}
    (h : q.Maps f p) (h' : q'.Maps f p') : (if c then q else q').Maps f (if c then p else p') := by
  split
  · exact h
  · exact h'

/-- A loop whose steps do the same as those of another one. -/
lemma iterate {σ' : Type} {f : β → α} {g : σ' → σ} {step : σ → Parser text (σ ⊕ α)}
    {step' : σ' → Parser text (σ' ⊕ β)} {start : σ'}
    (h : ∀ acc, (step' acc).Maps (Sum.map g f) (step (g acc))) :
    (Parser.iterate start step').Maps f (Parser.iterate (g start) step) := by
  refine .bind (.refl _) fun ctx => ?_
  simp only [id_eq]
  generalize ctx.limit = n
  induction n generalizing start with
  | zero => exact fun _ _ => rfl
  | succ n ih =>
    refine .bind (h start) fun result => ?_
    cases result with
    | inl acc => exact ih
    | inr a => exact .pure rfl

end Parser.Maps

/-! ## Parsers that collect bindings -/

/-- A parser that collects what is bound. -/
abbrev Declaring (text : List Char) := StateT (List Binding) (Parser text)

namespace Declaring

open LiveBundle.Script.Parser

/-- Reads with a parser that binds nothing. -/
def plain (p : Parser text α) : Declaring text α := fun bs => do
  let a ← p
  pure (a, bs)

/-- Adds bindings. -/
def declare (bs : List Binding) : Declaring text Unit := modify (· ++ bs)

/-- Reads below another statement. -/
def hoisting (p : Declaring text α) : Declaring text α := fun bs => do
  let (a, below) ← p []
  pure (a, bs ++ hoisted below)

/-- Repeats a step that changes a value, until the step gives a result. -/
def repeatFor (step : σ → Declaring text (σ ⊕ α)) : Nat → σ → Declaring text α
  | 0, _ => plain fail
  | n + 1, acc => do
    match ← step acc with
    | .inl acc => repeatFor step n acc
    | .inr result => pure result

/-- Repeats a step as often as the text may need. -/
def iterate (start : σ) (step : σ → Declaring text (σ ⊕ α)) : Declaring text α := do
  repeatFor step (← plain context).limit start

/-- Reads statements and blocks with what they bind. -/
structure Reader (text : List Char) where
  statement (single : Bool) : Declaring text (Item text)
  block : Declaring text Unit

/-- A statement below another one that stands alone. -/
def Reader.single (reader : Reader text) : Declaring text Unit := hoisting do
  let _ ← reader.statement true

section

variable (run : Runner text) (reader : Reader text)

/-! ### Control -/

/-- `if` with its branches. -/
def ifStatement : Declaring text Unit := do
  plain takeKeyword
  plain (condition run)
  reader.single
  if ← plain (eatWord "else") then reader.single

/-- `do` with its condition behind the body. -/
def doStatement : Declaring text Unit := do
  plain takeKeyword
  reader.single
  plain (expectWord "while")
  plain (condition run)
  let _ ← plain (eatPunct ";")

/-- The rest of a loop with three parts. -/
def forParts : Declaring text Unit := do
  plain (expectPunct ";")
  if !(← plain (atPunct ";")) then
    let _ ← plain run.expressionIn
  plain (expectPunct ";")
  if !(← plain (atPunct ")")) then
    let _ ← plain run.expressionIn
  plain (expectPunct ")")
  reader.single

/-- The rest of a loop over a collection or over keys. -/
def forOver (await : Bool) : Declaring text Unit := do
  if ← plain (eatWord "of") then
    let _ ← plain run.assignmentIn
  else
    plain (expectWord "in")
    plain (flawIf await)
    let _ ← plain run.expressionIn
  plain (expectPunct ")")
  reader.single

/-- `for` in all its forms. -/
def forStatement : Declaring text Unit := do
  plain takeKeyword
  let await ← plain (atWord "await")
  if await then
    plain (flawIf !(← plain context).awaits)
    plain advance
  plain (expectPunct "(")
  if ← plain (atPunct ";") then
    plain (flawIf await)
    forParts run reader
  else
    match ← plain forDeclarationKind with
    | some kind =>
      if kind == .using_ then plain takeUsing else plain takeKeyword
      let ds ← plain (within (fun ctx => { ctx with inOperator := false }) (declarators run))
      declare (hoisted (bindAs kind.binds (Pattern.namesOfList (ds.map (·.1)))))
      if ← plain (atAnyWord ["in", "of"]) then forOver run reader await
      else
        plain (flawIf await)
        plain (checkValues kind ds)
        forParts run reader
    | none =>
      let asyncOf ← plain startsAsyncOf
      let left ← plain (within (fun ctx => { ctx with inOperator := false }) run.expression)
      if ← plain (atAnyWord ["in", "of"]) then
        plain (ensure left.canAssign)
        plain (settleDefaults left.openDefaults)
        plain (flawIf (asyncOf && !await))
        forOver run reader await
      else
        plain (flawIf await)
        forParts run reader

/-- The statements of a case. -/
def caseBody : Declaring text Unit :=
  iterate () fun _ => do
    if (← plain (atPunct "\x7d")) || (← plain (atAnyWord ["case", "default"])) then pure (.inr ())
    else
      let _ ← hoisting (reader.statement false)
      pure (.inl ())

/-- `switch` with its cases. -/
def switchStatement : Declaring text Unit := do
  plain takeKeyword
  plain (condition run)
  plain (expectPunct "\x7b")
  iterate () fun _ => do
    if ← plain (eatPunct "\x7d") then pure (.inr ())
    else
      if ← plain (eatWord "default") then pure ()
      else
        plain (expectWord "case")
        let _ ← plain run.expressionIn
      plain (expectPunct ":")
      caseBody reader
      pure (.inl ())

/-- `try` with at least one of its handlers. -/
def tryStatement : Declaring text Unit := do
  plain takeKeyword
  reader.block
  let caught ← plain (eatWord "catch")
  if caught then
    if ← plain (eatPunct "(") then
      let _ ← plain (run .pattern)
      plain (optionalType run)
      plain (expectPunct ")")
    reader.block
  let finished ← plain (eatWord "finally")
  if finished then reader.block
  plain (flawIf !(caught || finished))

/-- `with`, and `while`. -/
def withStatement : Declaring text Unit := do
  plain takeKeyword
  plain (condition run)
  reader.single

/-- An expression or a labelled statement; a label may stand in front of a function. -/
def expressionStatement : Declaring text Unit := do
  if ← plain startsLabel then
    plain advance
    plain advance
    let _ ← reader.statement true
  else
    let _ ← plain run.expressionIn
    plain statementEnd

/-- The statements in braces. -/
def blockStatement : Declaring text Unit := do
  plain (expectPunct "\x7b")
  iterate () fun _ => do
    if ← plain (eatPunct "\x7d") then pure (.inr ())
    else
      let _ ← hoisting (reader.statement false)
      pure (.inl ())

/-! ### Declarations -/

/-- A declaration whose variables are bound in the given way. -/
def declaration (kind : BindingKind) : Declaring text Unit := do
  let d ← plain (Script.declaration run)
  declare (d.bindings kind)

/-- A statement that starts with a word and is no module statement. -/
def keywordStatement (single : Bool) (w : String) : Declaring text Unit := do
  match w with
  | "if" => ifStatement run reader
  | "do" => doStatement run reader
  | "while" => withStatement run reader
  | "for" => forStatement run reader
  | "continue" | "break" => plain jumpStatement
  | "with" => withStatement run reader
  | "switch" => switchStatement run reader
  | "throw" => plain (throwStatement run)
  | "try" => tryStatement run reader
  | "debugger" =>
    plain takeKeyword
    plain statementEnd
  | "return" => plain (returnStatement run)
  | "class" =>
    plain (flawIf single)
    declaration run .lexical
  | "var" | "function" => declaration run .var
  | "const" =>
    plain (flawIf single)
    declaration run .lexical
  | "let" =>
    if ← plain (letDeclares single) then
      plain (flawIf single)
      declaration run .lexical
    else expressionStatement run reader
  | _ =>
    if (← plain startsFunction) then
      plain (flawIf single)
      declaration run .lexical
    else if ← plain startsUsing then
      plain takeUsing
      plain (flawIf single)
      let d ← plain (variableStatement run .using_)
      declare (d.bindings .lexical)
    else if (← plain context).typescript && (← plain startsTypedDeclaration) then
      -- What a declaration describes is bound elsewhere.
      let (d, described) ← plain (describedDeclaration run)
      declare (if described then [] else d.bindings .lexical)
    else expressionStatement run reader

/-! ### Imports and exports -/

/-- How the export that starts here binds variables, and what it exports as default. -/
def exportedKind : Parser text BindingKind := do
  if ← nextLooksLike (atWord "var") then pure .var
  else if ← nextLooksLike (do if ← atWord "default" then nextLooksLike startsFunction else pure false)
    then pure .function
  else pure .lexical

/-- A statement behind decorators, which is a class. -/
def decoratedStatement : Declaring text (Item text) := do
  let start ← plain here
  let _ ← plain (decorators run)
  if ← plain (atWord "export") then
    let item ← plain (exportStatement run start)
    declare (item.bindings .lexical)
    pure item
  else
    let name ← plain (classDeclaration run false)
    declare (bindAs .lexical name.toList)
    pure .other

/-- A statement. -/
def anyStatement (single : Bool) : Declaring text (Item text) := do
  match ← plain kind with
  | .punct "\x7b" =>
    reader.block
    pure .other
  | .punct ";" =>
    plain advance
    pure .other
  | .punct "@" => decoratedStatement run
  | .word w _ =>
    if w = "export" then
      let kind ← plain exportedKind
      let item ← plain (exportStatement run (← plain here))
      declare (item.bindings kind)
      pure item
    else if w = "import" && !(← plain startsImportExpression) then
      let item ← plain importStatement
      declare (item.bindings .lexical)
      pure item
    else
      keywordStatement run reader single w
      pure .other
  | _ =>
    expressionStatement run reader
    pure .other

end

/-- Reads statements and blocks that nest at most `depth` deep. -/
def Reader.upTo (text : List Char) : Nat → Reader text
  | 0 => ⟨fun _ => plain fail, plain fail⟩
  | depth + 1 =>
    ⟨anyStatement (Runner.upTo text depth) (Reader.upTo text depth),
      blockStatement (Reader.upTo text depth)⟩

/-! ## Looking ahead -/

/-- Something is read, and nothing taken. -/
def Peeks (p : Parser text α) : Prop := ∀ ctx s, ∃ a, p ctx s = some (a, s)

/-- Looking whether something could be read takes nothing. -/
lemma looksLike_peeks (p : Parser text Bool) : Peeks (looksLike p) := by
  intro ctx s
  unfold looksLike
  split
  · exact ⟨_, rfl⟩
  · exact ⟨_, rfl⟩

/-- Looking behind the present token takes nothing. -/
lemma nextLooksLike_peeks (p : Parser text Bool) : Peeks (nextLooksLike p) := looksLike_peeks _

/-- Two looks take nothing. -/
lemma Peeks.bind {p : Parser text α} {q : α → Parser text β} (hp : Peeks p)
    (hq : ∀ a, Peeks (q a)) : Peeks (p >>= q) := by
  intro ctx s
  obtain ⟨a, ha⟩ := hp ctx s
  obtain ⟨b, hb⟩ := hq a ctx s
  exact ⟨b, by simp only [Bind.bind, ha, hb]⟩

lemma Peeks.pure (a : α) : Peeks (Pure.pure a : Parser text α) := fun _ _ => ⟨a, rfl⟩

/-- What an export binds is told by looking ahead. -/
lemma exportedKind_peeks : Peeks (exportedKind : Parser text BindingKind) := by
  refine .bind (nextLooksLike_peeks _) fun isVar => ?_
  cases isVar with
  | true => exact .pure _
  | false =>
    exact .bind (nextLooksLike_peeks _) fun isFunction => by cases isFunction <;> exact .pure _

/-! ## Bindings forgotten -/

/-- Without the bindings, what is read is the same. -/
def Forgets (q : Declaring text α) (p : Parser text α) : Prop := ∀ bs, (q bs).Maps Prod.fst p

namespace Forgets

/-- A parser that binds nothing has nothing to forget. -/
lemma plain (p : Parser text α) : (Declaring.plain p).Forgets p := by
  intro bs ctx s
  simp only [Declaring.plain, Bind.bind]
  rcases p ctx s with _ | ⟨a, s₁⟩ <;> rfl

lemma pure (a : α) : Forgets (Pure.pure a : Declaring text α) (Pure.pure a) := fun _ => .pure rfl

lemma declare (bs : List Binding) :
    Forgets (Declaring.declare bs : Declaring text Unit) (Pure.pure ()) := fun _ => .pure rfl

/-- What each of two steps binds is forgotten. -/
lemma bind {q : Declaring text α} {p : Parser text α} {q' : α → Declaring text β}
    {p' : α → Parser text β} (h : q.Forgets p) (h' : ∀ a, (q' a).Forgets (p' a)) :
    (q >>= q').Forgets (p >>= p') := fun bs => .bind (h bs) fun r => h' r.1 r.2

/-- What is declared has no counterpart. -/
lemma declare_bind {bs : List Binding} {q : Declaring text β} {p : Parser text β}
    (h : q.Forgets p) : Forgets (do Declaring.declare bs; q) p := fun bs' => h (bs' ++ bs)

lemma ite {c : Prop} [Decidable c] {q q' : Declaring text α} {p p' : Parser text α}
    (h : q.Forgets p) (h' : q'.Forgets p') :
    (if c then q else q').Forgets (if c then p else p') := by
  split
  · exact h
  · exact h'

/-- The bindings of a result are declared. -/
lemma declared (bindings : α → List Binding) (p : Parser text α) :
    Forgets (do let a ← Declaring.plain p; Declaring.declare (bindings a); Pure.pure a) p := by
  have hresult : (p >>= Pure.pure) = p := by
    funext ctx s
    simp only [Bind.bind]
    rcases p ctx s with _ | ⟨a, s₁⟩ <;> rfl
  have hbind : Forgets (do let a ← Declaring.plain p; Declaring.declare (bindings a); Pure.pure a)
      (p >>= Pure.pure) := .bind (.plain p) fun a => .declare_bind (.pure a)
  rwa [hresult] at hbind

/-- Looking ahead for a binding has no counterpart. -/
lemma peek_bind {q : Parser text β} {q' : β → Declaring text α} {p : Parser text α}
    (hq : Peeks q) (h : ∀ b, (q' b).Forgets p) : (Declaring.plain q >>= q').Forgets p := by
  intro bs ctx s
  obtain ⟨b, hb⟩ := hq ctx s
  rw [h b bs ctx s]
  show _ = (((q >>= fun b => Pure.pure (b, bs)) >>= fun r => q' r.1 r.2) ctx s).map _
  simp only [Bind.bind, hb]
  rfl

/-- What stays below a statement is forgotten too. -/
lemma hoisting {q : Declaring text α} {p : Parser text α} (h : q.Forgets p) :
    (Declaring.hoisting q).Forgets p := by
  intro bs ctx s
  rw [h [] ctx s]
  simp only [Declaring.hoisting, Bind.bind]
  rcases q [] ctx s with _ | ⟨⟨a, bs₁⟩, s₁⟩ <;> rfl

/-- What the rounds of a loop bind is forgotten. -/
lemma iterate {start : σ} {q : σ → Declaring text (σ ⊕ α)} {p : σ → Parser text (σ ⊕ α)}
    (h : ∀ acc, (q acc).Forgets (p acc)) :
    (Declaring.iterate start q).Forgets (Parser.iterate start p) := by
  refine .bind (.plain _) fun ctx => ?_
  generalize ctx.limit = n
  induction n generalizing start with
  | zero => exact .plain _
  | succ n ih =>
    refine .bind (h start) fun result => ?_
    cases result with
    | inl acc => exact ih
    | inr a => exact .pure a

end Forgets

/-- A reader of statements reads what a reader of goals does. -/
structure Reader.Forgets (reader : Reader text) (run : Runner text) : Prop where
  statement single :
    Declaring.Forgets (α := Item text) (reader.statement single) (run (.statement single))
  block : Declaring.Forgets (α := Unit) reader.block (run .block)

section

variable {run : Runner text} {reader : Reader text} (h : reader.Forgets run)
include h

/-- A statement below another one is read as it is. -/
lemma single_forgets : reader.single.Forgets run.single :=
  .hoisting (.bind (h.statement true) fun _ => .pure _)

lemma ifStatement_forgets : (ifStatement run reader).Forgets (Script.ifStatement run) := by
  refine .bind (.plain _) fun _ => .bind (.plain _) fun _ => .bind (single_forgets h) fun _ =>
    .bind (.plain _) fun _ => .ite (single_forgets h) (.pure _)

lemma doStatement_forgets : (doStatement run reader).Forgets (Script.doStatement run) :=
  .bind (.plain _) fun _ => .bind (single_forgets h) fun _ => .bind (.plain _) fun _ =>
    .bind (.plain _) fun _ => .bind (.plain _) fun _ => .pure _

lemma forParts_forgets : (forParts run reader).Forgets (Script.forParts run) := by
  have hsingle := single_forgets h
  unfold forParts Script.forParts
  repeat' first
    | exact hsingle
    | refine .bind (.plain _) fun _ => ?_
    | refine .ite ?_ ?_

lemma forOver_forgets (await : Bool) :
    (forOver run reader await).Forgets (Script.forOver run await) := by
  have hsingle := single_forgets h
  unfold forOver Script.forOver
  repeat' first
    | exact hsingle
    | refine .bind (.plain _) fun _ => ?_
    | refine .ite ?_ ?_

/-- A loop binds its variables outside, and reads what it did. -/
lemma forStatement_forgets : (forStatement run reader).Forgets (Script.forStatement run) := by
  have hparts := forParts_forgets h
  have hover := forOver_forgets h
  unfold forStatement Script.forStatement
  repeat' first
    | with_reducible exact hparts
    | with_reducible exact hover _
    | with_reducible refine .declare_bind ?_
    | with_reducible refine .bind (.plain _) fun _ => ?_
    | with_reducible refine .ite ?_ ?_
    | split

lemma caseBody_forgets : (caseBody reader).Forgets (Script.caseBody run) := by
  refine .iterate fun _ => .bind (.plain _) fun _ => .bind (.plain _) fun _ => .ite (.pure _) ?_
  exact .bind (.hoisting (h.statement false)) fun _ => .pure _

/-- The cases of a `switch` are read as they are. -/
lemma switchStatement_forgets :
    (switchStatement run reader).Forgets (Script.switchStatement run) := by
  refine .bind (.plain _) fun _ => .bind (.plain _) fun _ => .bind (.plain _) fun _ =>
    .iterate fun _ => .bind (.plain _) fun _ => .ite (.pure _) ?_
  have hcase : Declaring.Forgets (α := Unit ⊕ Unit)
      (do plain (expectPunct ":"); caseBody reader; pure (.inl ()))
      (do expectPunct ":"; Script.caseBody run; pure (.inl ())) :=
    .bind (.plain _) fun _ => .bind (caseBody_forgets h) fun _ => .pure _
  exact .bind (.plain _) fun _ =>
    .ite hcase (.bind (.plain _) fun _ => .bind (.plain _) fun _ => hcase)

/-- The handlers of a `try` are read as they are. -/
lemma tryStatement_forgets : (tryStatement run reader).Forgets (Script.tryStatement run) := by
  have hblock := h.block
  unfold tryStatement Script.tryStatement
  repeat' first
    | exact .plain _
    | refine .bind hblock fun _ => ?_
    | refine .bind (.plain _) fun _ => ?_
    | refine .ite ?_ ?_

lemma withStatement_forgets : (withStatement run reader).Forgets (Script.withStatement run) :=
  .bind (.plain _) fun _ => .bind (.plain _) fun _ => single_forgets h

lemma expressionStatement_forgets :
    (expressionStatement run reader).Forgets (Script.expressionStatement run) := by
  refine .bind (.plain _) fun _ => .ite ?_ ?_
  · exact .bind (.plain _) fun _ => .bind (.plain _) fun _ =>
      .bind (h.statement true) fun _ => .pure _
  · exact .bind (.plain _) fun _ => .plain _

lemma blockStatement_forgets : (blockStatement reader).Forgets (Script.blockStatement run) := by
  refine .bind (.plain _) fun _ => .iterate fun _ => .bind (.plain _) fun _ => .ite (.pure _) ?_
  exact .bind (.hoisting (h.statement false)) fun _ => .pure _

omit h in
/-- A declaration binds its names, and nothing else of it is kept. -/
lemma declaration_forgets (kind : BindingKind) :
    (declaration run kind).Forgets (do let _ ← Script.declaration run) :=
  .bind (.plain _) fun _ => .declare _

/-- The word at the start tells the same statement in both readings. -/
lemma keywordStatement_forgets (single : Bool) (w : String) :
    (keywordStatement run reader single w).Forgets (Script.keywordStatement run single w) := by
  have hif := ifStatement_forgets h
  have hdo := doStatement_forgets h
  have hfor := forStatement_forgets h
  have hswitch := switchStatement_forgets h
  have htry := tryStatement_forgets h
  have hwith := withStatement_forgets h
  have hexpression := expressionStatement_forgets h
  unfold keywordStatement
  split
  all_goals simp only [Script.keywordStatement]
  all_goals repeat' first
    | with_reducible refine .bind (.plain _) fun _ => ?_
    | with_reducible refine .ite ?_ ?_
    | with_reducible assumption
    | with_reducible exact .plain _
    | with_reducible exact .declare _
    | exact declaration_forgets _

omit h in
/-- Behind decorators stands an export or a class, in both readings. -/
lemma decoratedStatement_forgets :
    (decoratedStatement run).Forgets (Script.decoratedStatement run) := by
  refine .bind (.plain _) fun start => .bind (.plain _) fun _ => .bind (.plain _) fun _ =>
    .ite ?_ ?_
  · exact .declared (Item.bindings .lexical) _
  · exact .bind (.plain _) fun _ => .declare_bind (.pure _)

/-- A statement is read as it is without its bindings. -/
lemma anyStatement_forgets (single : Bool) :
    (anyStatement run reader single).Forgets (Script.anyStatement run single) := by
  refine .bind (.plain _) fun kind => ?_
  split
  · exact .bind h.block fun _ => .pure _
  · exact .bind (.plain _) fun _ => .pure _
  · exact decoratedStatement_forgets
  · refine .ite ?_ (.bind (.plain _) fun _ => .ite ?_ ?_)
    · exact .peek_bind exportedKind_peeks fun kind => .bind (.plain _) fun start =>
        .declared (Item.bindings kind) _
    · exact .declared (Item.bindings .lexical) _
    · exact .bind (keywordStatement_forgets h _ _) fun _ => .pure _
  · have hother : Declaring.Forgets (α := Item text)
        (do expressionStatement run reader; pure .other)
        (do Script.expressionStatement run; pure .other) :=
      .bind (expressionStatement_forgets h) fun _ => .pure _
    -- The plain reading may still ask which token it is.
    grind

end

/-- Statements that nest at any depth are read as they are without their bindings. -/
lemma Reader.upTo_forgets (text : List Char) (depth : Nat) :
    (Reader.upTo text depth).Forgets (Runner.upTo text depth) := by
  induction depth with
  | zero => exact ⟨fun _ => .plain _, .plain _⟩
  | succ depth ih => exact ⟨anyStatement_forgets ih, blockStatement_forgets ih⟩

/-! ## What imports bind -/

/-- No import is read. -/
def Others (q : Declaring text (Item text)) : Prop :=
  ∀ bs, (q bs).Gives fun r => r.1.imports? = none

lemma Others.pure : Others (Pure.pure (.other : Item text)) := fun _ => .pure rfl

/-- What comes in front does not matter. -/
lemma Others.bind {q : Declaring text α} {q' : α → Declaring text (Item text)}
    (h : ∀ a, (q' a).Others) : (q >>= q').Others := fun _ => .bind fun r => h r.1 r.2

/-- An import that is read binds its names, and nothing else. -/
def Tells (q : Declaring text (Item text)) : Prop :=
  ∀ bs, (q bs).Gives fun r => ∀ names, r.1.imports? = some names → r.2 = bs ++ bindAs .lexical names

namespace Tells

/-- Where no import is read there is nothing to tell. -/
lemma of_others {q : Declaring text (Item text)} (h : q.Others) : q.Tells := by
  intro bs ctx s r s' hrun names hnames
  rw [h bs hrun] at hnames
  cases hnames

/-- What binds nothing may come first. -/
lemma plain_bind {p : Parser text α} {q : α → Declaring text (Item text)} (h : ∀ a, (q a).Tells) :
    (Declaring.plain p >>= q).Tells := by
  intro bs
  have hplain : (Declaring.plain p bs).Gives fun r => r.2 = bs := .bind fun a => .pure rfl
  exact .bind_of hplain fun r hr => hr ▸ h r.1 r.2

lemma ite {c : Prop} [Decidable c] {q q' : Declaring text (Item text)} (h : q.Tells)
    (h' : q'.Tells) : (if c then q else q').Tells := by
  split
  · exact h
  · exact h'

lemma declared (kind : BindingKind) (p : Parser text (Item text)) :
    Tells (do
      let item ← Declaring.plain p
      Declaring.declare (item.bindings kind)
      pure item) :=
  plain_bind fun item bs => .pure fun names hnames => by
    rw [Item.bindings_of_imports hnames]

end Tells

/-- Behind decorators stands no import. -/
lemma decoratedStatement_tells (run : Runner text) : (decoratedStatement run).Tells :=
  .plain_bind fun _ => .plain_bind fun _ => .plain_bind fun _ =>
    .ite (.declared _ _) (.of_others (.bind fun _ => .bind fun _ => .pure))

/-- An import is a statement of its own kind, and its names are all that it binds. -/
lemma anyStatement_tells (run : Runner text) (reader : Reader text) (single : Bool) :
    (anyStatement run reader single).Tells := by
  refine .plain_bind fun kind => ?_
  split
  · exact .of_others (.bind fun _ => .pure)
  · exact .of_others (.bind fun _ => .pure)
  · exact decoratedStatement_tells run
  · refine .ite ?_ (.plain_bind fun _ => .ite ?_ ?_)
    · exact .plain_bind fun _ => .plain_bind fun _ => .declared _ _
    · exact .declared _ _
    · exact .of_others (.bind fun _ => .pure)
  · exact .of_others (.bind fun _ => .pure)

/-- An import binds its names, however deep it could nest. -/
lemma Reader.upTo_tells (text : List Char) (depth : Nat) (single : Bool) :
    ((Reader.upTo text depth).statement single).Tells := by
  cases depth with
  | zero => exact fun _ => .bind_of (Q := fun _ => False) .fail fun _ h => h.elim
  | succ depth => exact anyStatement_tells _ _ single

end Declaring

namespace Program

/-- The statements of the top level, with what each of them binds. -/
def boundStatements (reader : Declaring.Reader text) :
    Parser text (List (Item text × List Binding)) :=
  Parser.iterate [] fun acc => do
    if ← Parser.atEnd then pure (.inr acc.reverse)
    else
      let item ← reader.statement false []
      pure (.inl (item :: acc))

/-- Reads the statements of a script, with what each of them binds. -/
def bound? (typescript : Bool) (text : List Char) : Option (List (Item text × List Binding)) :=
  let limit := text.length + 2
  (boundStatements (Declaring.Reader.upTo text (depthPerCharacter * limit))
    (topLevel typescript limit) (initial text)).map (·.1)

/-- The statements of a script are those that are read with bindings. -/
lemma statements_maps {run : Runner text} {reader : Declaring.Reader text}
    (h : reader.Forgets run) :
    (boundStatements reader).Maps (List.map Prod.fst) (statements run) := by
  have hstart : (([] : List (Item text × List Binding)).map Prod.fst) = [] := rfl
  rw [statements, ← hstart]
  refine .iterate (g := List.map Prod.fst) fun acc => .bind (.refl _) fun atEnd =>
    .ite (.pure ?_) ?_
  · exact congrArg Sum.inr List.map_reverse.symm
  · exact .bind (h.statement false []) fun item => .pure rfl

/-- The statements of a script that is read, with what each of them binds. -/
theorem bound_of_parse {typescript : Bool} {program : Program text}
    (h : parse typescript text = some program) :
    ∃ bound, bound? typescript text = some bound ∧ bound.map (·.1) = program.items := by
  unfold parse at h
  simp only [Option.bind_eq_bind, Option.bind_eq_some_iff] at h
  obtain ⟨⟨items, s⟩, hstatements, hrest⟩ := h
  rw [statements_maps (Declaring.Reader.upTo_forgets text _)] at hstatements
  obtain ⟨⟨bound, s'⟩, hbound, heq⟩ := Option.map_eq_some_iff.mp hstatements
  cases heq
  split at hrest
  · cases hrest
  · cases hrest
    exact ⟨bound, by rw [bound?, hbound]; rfl, rfl⟩

/-- An import of the top level binds its names, and nothing else. -/
lemma bound_imports {typescript : Bool} {bound : List (Item text × List Binding)}
    (h : bound? typescript text = some bound) :
    ∀ r ∈ bound, ∀ names, r.1.imports? = some names → r.2 = bindAs .lexical names := by
  obtain ⟨⟨read, s⟩, hread, rfl⟩ := Option.map_eq_some_iff.mp h
  let Known (rs : List (Item text × List Binding)) : Prop :=
    ∀ r ∈ rs, ∀ names, r.1.imports? = some names → r.2 = bindAs .lexical names
  refine (Parser.Gives.iterate_of (I := Known) (P := Known) ?_ fun acc hacc => ?_) hread
  · exact fun _ h => absurd h List.not_mem_nil
  · refine .bind fun atEnd => ?_
    split
    · exact .pure fun r hr => hacc r (List.mem_reverse.mp hr)
    · refine .bind_of (Declaring.Reader.upTo_tells text _ false []) fun item hitem => .pure ?_
      intro r hr
      rcases List.mem_cons.mp hr with rfl | hr
      · exact hitem
      · exact hacc r hr

end Program

end LiveBundle.Script
