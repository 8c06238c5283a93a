import LiveBundle.Proofs.Script.Productions

/-!
# Expressions and declarations take a token

An expression is never empty, and neither is a declaration: reading one goes past the token at which
it starts.

* `Parser.Takes` says it of a parser; it is enough that one of its parts takes a token.
* `Runner.Takes` says it of the goals where it is needed, `Runner.Takes.step` hands it on from one
  depth of nesting to the next one.
-/

namespace LiveBundle.Script

open LiveBundle.Script.Parser

variable {text : List Char} {α β σ : Type}

/-- Reading goes on past the present token. -/
structure Parser.Takes (p : Parser text α) : Prop where
  proceeds : p.Proceeds
  start_le : ∀ ⦃ctx s a s'⦄, s.Ordered → p ctx s = some (a, s') →
    s.start.offset ≤ s'.previous.offset

namespace Parser.Takes

/-- Nothing is read where reading fails. -/
lemma fail : (Parser.fail : Parser text α).Takes := ⟨.fail, fun _ _ _ _ _ hrun => nomatch hrun⟩

/-- The first part takes a token. -/
@[grind ←]
lemma bind_first {p : Parser text α} {f : α → Parser text β} (hp : p.Takes)
    (hf : ∀ a, (f a).Proceeds) : (p >>= f).Takes := by
  refine ⟨hp.proceeds.bind hf, fun ctx s b s' hs hrun => ?_⟩
  obtain ⟨a, s₁, hrun₁, hrun₂⟩ := bind_eq_some.mp hrun
  have hspans := hp.proceeds hs hrun₁
  exact Nat.le_trans (hp.start_le hs hrun₁) (hf a hspans.ordered hrun₂).previous_le

/-- What follows takes a token. -/
lemma bind_later {p : Parser text α} {f : α → Parser text β} (hp : p.Proceeds)
    (hf : ∀ a, (f a).Takes) : (p >>= f).Takes := by
  refine ⟨hp.bind fun a => (hf a).proceeds, fun ctx s b s' hs hrun => ?_⟩
  obtain ⟨a, s₁, hrun₁, hrun₂⟩ := bind_eq_some.mp hrun
  have hspans := hp hs hrun₁
  exact Nat.le_trans hspans.start_le ((hf a).start_le hspans.ordered hrun₂)

/-- Both ways of going on take a token. -/
lemma ite {c : Prop} [Decidable c] {p q : Parser text α} (hp : p.Takes) (hq : q.Takes) :
    (if c then p else q).Takes := by
  split
  · exact hp
  · exact hq

/-- Other surroundings change nothing about it. -/
lemma within {change : Context → Context} {p : Parser text α} (hp : p.Takes) :
    (Parser.within change p).Takes :=
  ⟨hp.proceeds.within, fun _ _ _ _ hs hrun => hp.start_le hs hrun⟩

/-- What is tried takes a token, and so does what is read in its place. -/
lemma attempt {p q : Parser text Shape} (hp : p.Takes) (hq : q.Takes) :
    Parser.Takes (do
      match ← Parser.attempt p with
      | some shape => pure shape
      | none => q) := by
  refine ⟨.bind (.attempt hp.proceeds) fun r => ?_, fun ctx s a s' hs hrun => ?_⟩
  · cases r with
    | some shape => exact .pure shape
    | none => exact hq.proceeds
  · obtain ⟨r, s₁, htry, hrest⟩ := bind_eq_some.mp hrun
    unfold Parser.attempt at htry
    split at htry
    · rename_i b s₂ hrun'
      cases htry
      cases hrest
      exact hp.start_le hs hrun'
    · cases htry
      exact hq.start_le hs hrest

/-- A loop has at least one round. -/
lemma iterate {start : σ} {step : σ → Parser text (σ ⊕ α)} (hstep : ∀ acc, (step acc).Takes) :
    (Parser.iterate start step).Takes := by
  refine .bind_later .context fun ctx => ?_
  cases ctx.limit with
  | zero => exact fail
  | succ n =>
    refine (hstep start).bind_first fun result => ?_
    cases result with
    | inl acc => exact .repeatFor (fun acc => (hstep acc).proceeds) n acc
    | inr a => exact .pure a

/-- Going on takes the present token. -/
@[grind ←]
lemma advance : (Parser.advance : Parser text Unit).Takes := by
  refine ⟨.advance, ?_⟩
  rintro ctx s a s' hs ⟨⟩
  exact hs.start_le

/-- A keyword is taken, escaped or not. -/
@[grind ←]
lemma takeKeyword : (Parser.takeKeyword : Parser text Unit).Takes := by
  refine .bind_later .kind fun kind => ?_
  split
  · exact .bind_later (flawIf_proceeds _) fun _ => .advance
  · exact .advance

/-- The word that is expected is taken. -/
@[grind ←]
lemma expectWord (w : String) : (Parser.expectWord w : Parser text Unit).Takes :=
  ⟨expectWord_proceeds w, fun _ _ _ _ hs hrun => (expectWord_opened hs hrun).start_le⟩

/-- The punctuator that is expected is taken. -/
@[grind ←]
lemma expectPunct (p : String) : (Parser.expectPunct p : Parser text Unit).Takes := by
  refine ⟨expectPunct_proceeds p, fun ctx s a s' hs hrun => ?_⟩
  obtain ⟨eaten, s₁, heat, hensure⟩ := bind_eq_some.mp hrun
  cases eaten with
  | true =>
    cases hensure
    exact (eatPunct_opened hs heat).start_le
  | false => cases hensure

end Parser.Takes

/-- Goals that are never empty. -/
structure Runner.Takes (run : Runner text) : Prop where
  proceeds : run.Proceeds
  unary : Parser.Takes (α := Shape) (run .unary)
  binary level : Parser.Takes (α := Shape) (run (.binary level))
  assignment arrowTypes : Parser.Takes (α := Shape) (run (.assignment arrowTypes))
  block : Parser.Takes (α := Unit) (run .block)
  classDefinition : Parser.Takes (α := Option String) (run .classDefinition)

variable {run : Runner text} (hrun : run.Takes)
include hrun

/-! ## Declarations -/

omit hrun in
/-- The keyword `function` is taken, behind `async` or without it. -/
lemma functionHead_takes : (functionHead : Parser text (Bool × Bool)).Takes :=
  .bind_later (by grind) fun _ => .bind_first (.expectWord _) fun _ => by grind

/-- A function that is declared starts with its keywords. -/
lemma functionDeclaration_takes (optionalName : Bool) :
    (functionDeclaration run optionalName).Takes := by
  have hproceeds := hrun.proceeds
  exact .bind_first functionHead_takes fun _ => by grind

/-- A function as an expression starts with its keywords. -/
lemma functionExpression_takes : (functionExpression run).Takes := by
  have hproceeds := hrun.proceeds
  exact .bind_first functionHead_takes fun _ => by grind

/-- A class that is declared has its keyword behind the modifiers. -/
lemma classDeclaration_takes (optionalName : Bool) :
    (classDeclaration run optionalName).Takes :=
  .bind_later (by grind) fun _ => .bind_first hrun.classDefinition fun _ => by grind

/-- The rest of a class starts with its keyword. -/
lemma classRest_takes : (classRest run).Takes := by
  have hproceeds := hrun.proceeds
  unfold classRest
  refine .bind_first (.expectWord _) fun _ => .bind (by grind) fun ctx => ?_
  repeat' first | with_reducible refine .bind (by grind) fun _ => ?_ | split | dsimp only
  all_goals grind

/-- A block starts with a brace. -/
lemma blockStatement_takes : (blockStatement run).Takes := by
  have hproceeds := hrun.proceeds
  exact .bind_first (.expectPunct _) fun _ => by grind

/-- An interface starts with its word. -/
lemma interfaceDeclaration_takes : (interfaceDeclaration run).Takes := by
  have hproceeds := hrun.proceeds
  unfold interfaceDeclaration
  refine .bind_first (.expectWord _) fun _ => .bind (by grind) fun name => ?_
  repeat' first
    | refine .iterate fun _ => ?_
    | with_reducible refine .bind (by grind) fun _ => ?_
    | split
  all_goals grind

/-- A type alias starts with its word. -/
lemma typeAlias_takes : (typeAlias run).Takes := by
  have hproceeds := hrun.proceeds
  exact .bind_first (.expectWord _) fun _ => by grind

/-- An enumeration starts with its word. -/
lemma enumDeclaration_takes : (enumDeclaration run).Takes := by
  have hproceeds := hrun.proceeds
  exact .bind_first (.expectWord _) fun _ => by grind

/-- A namespace starts with its word. -/
lemma namespaceDeclaration_takes : (namespaceDeclaration run).Takes := by
  have hproceeds := hrun.proceeds
  exact .bind_first .advance fun _ => by grind

/-- The body of a namespace is a block. -/
lemma namespaceBody_takes : (namespaceBody run).Takes := .within hrun.block

/-- A declaration that only types know. -/
lemma typedDeclaration_takes :
    Parser.Takes (do
      if ← atWord "interface" then
        interfaceDeclaration run
        pure Declaration.erased
      else if ← atWord "type" then
        typeAlias run
        pure .erased
      else if ← atWord "enum" then
        enumDeclaration run
        pure .erased
      else if ← atAnyWord ["namespace", "module"] then
        namespaceDeclaration run
        pure .erased
      else if ← eatWord "global" then
        namespaceBody run
        pure .erased
      else fail) := by
  refine .bind_later (by grind) fun _ => .ite ?_ ?_
  · exact .bind_first (interfaceDeclaration_takes hrun) fun _ => .pure _
  · refine .bind_later (by grind) fun _ => .ite ?_ ?_
    · exact .bind_first (typeAlias_takes hrun) fun _ => .pure _
    · refine .bind_later (by grind) fun _ => .ite ?_ ?_
      · exact .bind_first (enumDeclaration_takes hrun) fun _ => .pure _
      · refine .bind_later (by grind) fun _ => .ite ?_ ?_
        · exact .bind_first (namespaceDeclaration_takes hrun) fun _ => .pure _
        · refine .bind_later (by grind) fun _ => .ite ?_ .fail
          exact .bind_first (namespaceBody_takes hrun) fun _ => .pure _

/-- Every kind of declaration starts with a word or a decorator of its own. -/
lemma declaration_takes : (declaration run).Takes := by
  have hproceeds := hrun.proceeds
  refine .bind_later .context fun ctx => .bind_later (by grind) fun function => .ite ?_ ?_
  · exact .bind_first (functionDeclaration_takes hrun false) fun name => by cases name <;> grind
  · refine .bind_later (by grind) fun class_ => .bind_later (by grind) fun decorated =>
      .bind_later (by grind) fun abstract => .bind_later (by grind) fun abstractClass => .ite ?_ ?_
    · exact .bind_later (by grind) fun _ => .bind_first (classDeclaration_takes hrun false)
        fun name => by cases name <;> grind
    · refine .bind_later (by grind) fun const => .bind_later (by grind) fun enum => .ite ?_ ?_
      · exact .bind_first .advance fun _ => by grind
      · refine .bind_later (by grind) fun atVariables =>
          .ite ?_ (.ite (typedDeclaration_takes hrun) .fail)
        -- The keyword tells the kind of the variables before it is taken.
        have hvariables (kind : VariableKind) : Parser.Takes (do
            takeKeyword
            variableStatement run kind) := .bind_first .takeKeyword fun _ => by grind
        refine .bind_later (by grind) fun var => .bind_later (by grind) fun let_ =>
          .ite ?_ (.ite ?_ ?_)
        all_goals exact .bind_later (.pure _) fun kind => hvariables kind

/-- What is described stands behind `declare`, and a declaration takes a token itself. -/
lemma describedDeclaration_takes : (describedDeclaration run).Takes := by
  have hproceeds := hrun.proceeds
  refine .bind_later .context fun ctx => .bind_later (by grind) fun declare =>
    .bind_later (by grind) fun typed => .ite ?_ ?_
  · exact .bind_first .advance fun _ => by grind
  · exact .bind_first (declaration_takes hrun) fun _ => .pure _

/-! ## Expressions -/

/-- A class as an expression starts with its decorators or its keyword. -/
lemma classExpression_takes : (classExpression run).Takes := by
  have hproceeds := hrun.proceeds
  exact .bind_later (by grind) fun _ => .bind_first hrun.classDefinition fun _ => by grind

/-- Each level of a construction starts with `new`. -/
lemma construction_takes (n : Nat) : (construction run n).Takes := by
  have hproceeds := hrun.proceeds
  cases n with
  | zero => exact .fail
  | succ n =>
    refine .bind_first (.expectWord _) fun _ => .bind (by grind) fun dot => ?_
    split
    · grind
    · repeat' first | with_reducible refine .bind (by grind) fun _ => ?_ | split
      all_goals grind

omit hrun in
/-- A template has at least one part. -/
lemma templateParts_takes (hole : Parser text Unit) (tagged : Bool) (hhole : hole.Proceeds) :
    (templateParts hole tagged).Takes := by
  refine .iterate fun _ => .bind_later .kind fun kind => ?_
  cases kind with
  | template last wellFormed =>
    refine .bind_later (by grind) fun _ => .ite (.bind_first .advance fun _ => .pure _) ?_
    exact .bind_first .advance fun _ => .bind hhole fun _ => nextPart_proceeds
  | _ => exact .fail

omit hrun in
/-- A regular expression is one token. -/
lemma regexLiteral_takes : (regexLiteral : Parser text Unit).Takes :=
  .bind_later rereadRegex_proceeds fun _ => .advance

/-- Each primary expression is a token or starts with one. -/
lemma primary_takes {construction : Parser text Shape} (h : construction.Takes) :
    (primary run construction).Takes := by
  have hproceeds := hrun.proceeds
  refine .bind_later .kind fun kind => ?_
  split
  · grind
  · grind
  · grind
  · exact .bind_first (templateParts_takes _ _ (by grind)) fun _ => .pure _
  · exact .bind_first (.expectPunct _) fun _ => by grind
  · exact .bind_first (.expectPunct _) fun _ => by grind
  · exact .bind_first (.expectPunct _) fun _ => by grind
  · exact .bind_first regexLiteral_takes fun _ => .pure _
  · exact .bind_first regexLiteral_takes fun _ => .pure _
  · exact classExpression_takes hrun
  · refine .ite (.bind_first .takeKeyword fun _ => .pure _) (.ite (classExpression_takes hrun) ?_)
    refine .ite h (.ite (.bind_first (.expectWord _) fun _ => by grind) (.ite ?_ ?_))
    · exact ⟨importExpression_proceeds hproceeds,
        fun _ _ _ _ hs h => (importExpression_spans hproceeds hs h).2⟩
    · refine .bind_later (by grind) fun _ => .ite ?_ ?_
      · exact .bind_first (functionExpression_takes hrun) fun _ => .pure _
      · exact .bind_later .context fun _ => .bind_later (by grind) fun _ =>
          .bind_first .advance fun _ => .pure _
  · exact .fail

/-- A chain of members and calls starts with a primary expression. -/
lemma leftHandSide_takes : (leftHandSide run).Takes := by
  have hproceeds := hrun.proceeds
  refine .bind_later .context fun ctx =>
    .bind_first (primary_takes hrun (construction_takes hrun _)) fun value => ?_
  exact .bind (.iterate fun chain => by grind) fun chain => .pure _

/-- A unary expression starts with an operator or with its operand. -/
lemma unaryExpression_takes : (unaryExpression run).Takes := by
  have hproceeds := hrun.proceeds
  refine .bind_later .context fun ctx => .bind_later (by grind) fun sign =>
    .bind_later (by grind) fun word => .ite (.bind_first .takeKeyword fun _ => by grind) ?_
  refine .bind_later (by grind) fun await => .ite ?_ ?_
  · exact .bind_later (by grind) fun _ => .bind_first .takeKeyword fun _ => by grind
  · refine .bind_later (by grind) fun update => .ite (.bind_first .advance fun _ => by grind) ?_
    refine .bind_later (by grind) fun cast => .ite (.bind_first .advance fun _ => by grind) ?_
    exact .bind_first (leftHandSide_takes hrun) fun operand => by grind

/-- The first operand is a private name or a unary expression. -/
lemma firstOperand_takes (level : Nat) : (firstOperand run level).Takes :=
  .bind_later (by grind) fun kind => .ite (.bind_first .advance fun _ => by grind) hrun.unary

/-- Joined operands start with the first of them. -/
lemma binaryExpression_takes (level : Nat) : (binaryExpression run level).Takes := by
  have hproceeds := hrun.proceeds
  exact .bind_first (firstOperand_takes hrun level) fun first => by grind

/-- An assignment starts with what is assigned to. -/
lemma plainAssignment_takes (arrowTypes : Bool) : (plainAssignment run arrowTypes).Takes := by
  have hproceeds := hrun.proceeds
  refine .bind_first (hrun.binary 0) fun left => .bind (by grind) fun op => ?_
  split <;> grind

omit hrun in
/-- The arrow is a token. -/
lemma arrow_takes : (arrow : Parser text Unit).Takes :=
  .bind_later (by grind) fun _ => .bind_later (by grind) fun _ => .bind_later (by grind) fun _ =>
    .expectPunct _

/-- An arrow function has its arrow, whatever its parameters are. -/
lemma arrowFunction_takes (arrowTypes : Bool) : (arrowFunction run arrowTypes).Takes := by
  have hproceeds := hrun.proceeds
  exact .bind_later (by grind) fun async => .bind_later (by grind) fun typed =>
    .bind_first arrow_takes fun _ => by grind

/-- The keyword `yield` is taken first. -/
lemma yieldExpression_takes : (yieldExpression run).Takes := by
  have hproceeds := hrun.proceeds
  refine .bind_later .context fun ctx => .bind_later (by grind) fun _ =>
    .bind_first .takeKeyword fun _ => .bind .afterLineBreak fun broken => ?_
  repeat' first | with_reducible refine .bind (by grind) fun _ => ?_ | split | dsimp only
  all_goals grind

/-- What starts with no parenthesis is a function with a bare parameter, or an assignment. -/
lemma otherAssignment_takes (arrowTypes : Bool) :
    (assignmentExpression.other run arrowTypes).Takes := by
  have hproceeds := hrun.proceeds
  refine .bind_later (by grind) fun bare => .ite ?_ (plainAssignment_takes hrun arrowTypes)
  exact .bind_first .takeKeyword fun _ => by grind

/-- Each form of an assignment expression takes a token. -/
lemma assignmentExpression_takes (arrowTypes : Bool) :
    (assignmentExpression run arrowTypes).Takes := by
  refine .bind_later .context fun ctx => .bind_later (by grind) fun isYield =>
    .ite (yieldExpression_takes hrun) (.bind_later (by grind) fun verdict => ?_)
  have harrow := arrowFunction_takes hrun arrowTypes
  have hother := otherAssignment_takes hrun arrowTypes
  split
  · exact harrow
  · exact .attempt harrow hother
  · exact hother

end LiveBundle.Script
