import LiveBundle.Proofs.Script.Literals

/-!
# Productions go on

A production of the grammar only goes on when the productions go on that it reads goals with. There
is one lemma for each of them, in the order of the grammar, and each follows from those before it:
reading goes on through all ways of combining parsers.

* `Runner.Proceeds` says it of a reader of goals.
* `call_proceeds` and `importCall_proceeds` are about the two productions that note a site; its
  range goes from a place where reading was to the end of what was read since.
-/

namespace LiveBundle.Script

open LiveBundle.Script.Parser
open ModuleSyntax (siteEdit itemEdits editOf)

variable {text : List Char} {α : Type}

/-! ## Tokens -/

namespace Parser

@[grind ←]
lemma flawIf_proceeds (condition : Bool) : (flawIf condition : Parser text Unit).Proceeds := by
  unfold flawIf
  grind

@[grind ←]
lemma ensure_proceeds (condition : Bool) : (ensure condition : Parser text Unit).Proceeds := by
  unfold ensure
  grind

@[grind ←]
lemma atPunct_proceeds (p : String) : (atPunct p : Parser text Bool).Proceeds := by
  unfold atPunct
  grind

@[grind ←]
lemma atAnyPunct_proceeds (ps : List String) : (atAnyPunct ps : Parser text Bool).Proceeds := by
  unfold atAnyPunct
  grind

@[grind ←]
lemma atWord_proceeds (w : String) : (atWord w : Parser text Bool).Proceeds := by
  unfold atWord
  grind

@[grind ←]
lemma atAnyWord_proceeds (ws : List String) : (atAnyWord ws : Parser text Bool).Proceeds := by
  unfold atAnyWord
  grind

@[grind ←]
lemma word?_proceeds : (word? : Parser text (Option String)).Proceeds := by
  unfold word?
  grind

@[grind ←]
lemma atEnd_proceeds : (atEnd : Parser text Bool).Proceeds := by
  unfold atEnd
  grind

@[grind ←]
lemma takeKeyword_proceeds : (takeKeyword : Parser text Unit).Proceeds := by
  unfold takeKeyword
  grind

@[grind ←]
lemma eatPunct_proceeds (p : String) : (eatPunct p : Parser text Bool).Proceeds := by
  unfold eatPunct
  grind

@[grind ←]
lemma eatWord_proceeds (w : String) : (eatWord w : Parser text Bool).Proceeds := by
  unfold eatWord
  grind

@[grind ←]
lemma expectPunct_proceeds (p : String) : (expectPunct p : Parser text Unit).Proceeds := by
  unfold expectPunct
  grind

@[grind ←]
lemma expectWord_proceeds (w : String) : (expectWord w : Parser text Unit).Proceeds := by
  unfold expectWord
  grind

@[grind ←]
lemma nextLooksLike_proceeds (p : Parser text Bool) : (nextLooksLike p).Proceeds :=
  .looksLike _

@[grind ←]
lemma statementEnd_proceeds : (statementEnd : Parser text Unit).Proceeds := by
  unfold statementEnd
  grind

@[grind ←]
lemma canEndStatement_proceeds : (canEndStatement : Parser text Bool).Proceeds := by
  unfold canEndStatement
  grind

@[grind ←]
lemma atBindable_proceeds : (atBindable : Parser text Bool).Proceeds := by
  unfold atBindable
  grind

@[grind ←]
lemma bindingName_proceeds : (bindingName : Parser text String).Proceeds := by
  unfold bindingName
  grind

@[grind ←]
lemma anyName_proceeds : (anyName : Parser text String).Proceeds := by
  unfold anyName
  grind

/-- A list goes on if each of its items does. -/
@[grind ←]
lemma commaList_proceeds (close : String) (item : Parser text α) (hitem : item.Proceeds) :
    (commaList close item).Proceeds := by
  unfold commaList
  grind

@[grind ←]
lemma rereadAngle_proceeds : (reread Lexer.angleOperator : Parser text Unit).Proceeds :=
  .reread Lexer.solid_angleOperator

/-- The items of a list, with the edits of all of them. -/
lemma commaList_yields {item : Parser text α} {edits : α → List Edit} (hitem : item.Yields edits)
    (close : String) : (commaList close item).Yields fun r => r.1.flatMap edits := by
  intro ctx s r s' hs hrun
  refine Spans.iterate (fun acc => acc.1.reverse.flatMap edits) (fun r => r.1.flatMap edits) ?_
    (.refl hs) hrun
  rintro s₀ ctx ⟨acc, comma⟩ s r s' hspans hrun
  obtain ⟨closed, s₁, hat, hrest⟩ := bind_eq_some.mp hrun
  have hat := hspans.trans (atPunct_proceeds close hspans.ordered hat)
  rw [List.append_nil] at hat
  split at hrest
  · cases hrest
    exact hat
  · obtain ⟨a, s₂, ha, hrest⟩ := bind_eq_some.mp hrest
    have hmore := hat.trans (hitem hat.ordered ha)
    obtain ⟨comma, s₃, hcomma, hrest⟩ := bind_eq_some.mp hrest
    have hcomma := hmore.trans (eatPunct_proceeds "," hmore.ordered hcomma)
    rw [List.append_nil] at hcomma
    have hedits : (a :: acc).reverse.flatMap edits = acc.reverse.flatMap edits ++ edits a := by
      simp
    rw [← hedits] at hcomma
    split at hrest
    · cases hrest
      exact hcomma
    · obtain ⟨last, s₄, hlast, hrest⟩ := bind_eq_some.mp hrest
      obtain ⟨_, s₅, hensure, hpure⟩ := bind_eq_some.mp hrest
      cases hpure
      have hlast := hcomma.trans (atPunct_proceeds close hcomma.ordered hlast)
      have hall := hlast.trans (ensure_proceeds last hlast.ordered hensure)
      rw [List.append_nil, List.append_nil] at hall
      exact hall

/-! ### Taking a token -/

/-- A mark that is found is a token with characters. -/
lemma atPunct_solid {p : String} {ctx : Context} {s s' : State text} {there : Bool}
    (h : atPunct p ctx s = some (there, s')) :
    s' = s ∧ (there = true → s.token.kind.isSolid = true) := by
  obtain ⟨kind, s₁, hkind, hrest⟩ := bind_eq_some.mp h
  cases hkind
  generalize s.token.kind = kind at hrest ⊢
  cases kind <;> cases hrest <;> exact ⟨rfl, by simp [TokenKind.isSolid]⟩

/-- A word that is found is a token with characters. -/
lemma atWord_solid {w : String} {ctx : Context} {s s' : State text} {there : Bool}
    (h : atWord w ctx s = some (there, s')) :
    s' = s ∧ (there = true → s.token.kind.isSolid = true) := by
  obtain ⟨kind, s₁, hkind, hrest⟩ := bind_eq_some.mp h
  cases hkind
  generalize s.token.kind = kind at hrest ⊢
  cases kind <;> cases hrest <;> exact ⟨rfl, by simp [TokenKind.isSolid]⟩

/-- A keyword that is taken opens a reading. -/
lemma takeKeyword_opened {ctx : Context} {s s' : State text} {u : Unit} (hs : s.Ordered)
    (hsolid : s.token.kind.isSolid = true) (h : takeKeyword ctx s = some (u, s')) :
    Opened s s' := by
  obtain ⟨kind, s₁, hkind, hrest⟩ := bind_eq_some.mp h
  cases hkind
  have hadvance : ∃ flawed, advance ctx { s with flawed } = some (u, s') := by
    clear hsolid
    generalize s.token.kind = kind at hrest
    cases kind with
    | word w escaped =>
      obtain ⟨_, s₁, hflaw, hadvance⟩ := bind_eq_some.mp hrest
      unfold flawIf at hflaw
      split at hflaw <;> cases hflaw <;> exact ⟨_, hadvance⟩
    | _ => exact ⟨_, hrest⟩
  obtain ⟨flawed, hadvance⟩ := hadvance
  have hordered : State.Ordered { s with flawed } := ⟨hs.previous_le, hs.start_le, hs.start_lt⟩
  have hopened := Opened.of_advance hordered hsolid hadvance
  exact ⟨hopened.ordered, hopened.previous_le, hopened.start_lt, hopened.start_le, hopened.found⟩

/-- A mark that is taken opens a reading. -/
lemma eatPunct_opened {p : String} {ctx : Context} {s s' : State text} (hs : s.Ordered)
    (h : eatPunct p ctx s = some (true, s')) : Opened s s' := by
  obtain ⟨there, s₁, hat, hrest⟩ := bind_eq_some.mp h
  obtain ⟨rfl, hsolid⟩ := atPunct_solid hat
  cases there with
  | false => cases hrest
  | true =>
    obtain ⟨_, s₂, hadvance, hpure⟩ := bind_eq_some.mp hrest
    cases hpure
    exact .of_advance hs (hsolid rfl) hadvance

/-- A word that had to stand there opens a reading. -/
lemma expectWord_opened {w : String} {ctx : Context} {s s' : State text} {u : Unit} (hs : s.Ordered)
    (h : expectWord w ctx s = some (u, s')) : Opened s s' := by
  obtain ⟨eaten, s₁, heat, hensure⟩ := bind_eq_some.mp h
  obtain ⟨there, s₂, hat, hrest⟩ := bind_eq_some.mp heat
  obtain ⟨rfl, hsolid⟩ := atWord_solid hat
  cases there with
  | false =>
    cases hrest
    cases hensure
  | true =>
    obtain ⟨_, s₃, htake, hpure⟩ := bind_eq_some.mp hrest
    cases hpure
    cases hensure
    exact takeKeyword_opened hs (hsolid rfl) htake

end Parser

/-! ## Readers of goals -/

/-- Reading goals only goes on. The fields behind the first one say the same of single goals, with
the types of their results written out. -/
@[grind cases eager]
structure Runner.Proceeds (run : Runner text) : Prop where
  goal (g : Goal) : (run g).Proceeds
  expression : Parser.Proceeds (α := Shape) (run .expression)
  assignment arrowTypes : Parser.Proceeds (α := Shape) (run (.assignment arrowTypes))
  binary level : Parser.Proceeds (α := Shape) (run (.binary level))
  unary : Parser.Proceeds (α := Shape) (run .unary)
  leftHandSide : Parser.Proceeds (α := Shape) (run .leftHandSide)
  statement single : Parser.Proceeds (α := Item text) (run (.statement single))
  block : Parser.Proceeds (α := Unit) (run .block)
  pattern : Parser.Proceeds (α := Pattern) (run .pattern)
  parameters : Parser.Proceeds (α := Unit) (run .parameters)
  classDefinition : Parser.Proceeds (α := Option String) (run .classDefinition)
  type : Parser.Proceeds (α := Unit) (run .type)
  literal : run.Literal

/-- A reader goes on if it does at each goal. -/
lemma Runner.Proceeds.of_goals {run : Runner text} (h : ∀ g, (run g).Proceeds)
    (hliteral : run.Literal) : run.Proceeds :=
  ⟨h, h _, fun _ => h _, fun _ => h _, h _, h _, fun _ => h _, h _, h _, h _, h _, h _, hliteral⟩

variable {run : Runner text} (hrun : run.Proceeds)
include hrun

/-! ## Goals -/

@[grind ←]
lemma Runner.expression_proceeds : run.expression.Proceeds := by
  unfold Runner.expression
  grind

@[grind ←]
lemma Runner.expressionIn_proceeds : run.expressionIn.Proceeds := by
  unfold Runner.expressionIn
  grind

@[grind ←]
lemma Runner.assignment_proceeds : run.assignment.Proceeds := by
  unfold Runner.assignment
  grind

@[grind ←]
lemma Runner.assignmentIn_proceeds : run.assignmentIn.Proceeds := by
  unfold Runner.assignmentIn
  grind

@[grind ←]
lemma Runner.type_proceeds : run.type.Proceeds := by
  unfold Runner.type
  grind

@[grind ←]
lemma Runner.single_proceeds : run.single.Proceeds := by
  unfold Runner.single
  grind

/-! ## Types -/

omit hrun in
/-- A list in brackets goes on if each of its items does. -/
@[grind ←]
lemma closedList_proceeds (close : String) (item : Parser text Unit) (hitem : item.Proceeds) :
    (closedList close item).Proceeds := by
  unfold closedList
  grind

omit hrun in
@[grind ←]
lemma openAngle_proceeds : (openAngle : Parser text Bool).Proceeds := by
  intro ctx s a s' hs hrun
  obtain ⟨doubled, s₁, hat, hrest⟩ := bind_eq_some.mp hrun
  obtain ⟨rfl, hsolid⟩ := atPunct_solid hat
  cases doubled with
  | true =>
    obtain ⟨_, s₂, hreread, hpure⟩ := bind_eq_some.mp hrest
    cases hpure
    refine Proceeds.reread_of hs ?_ hreread
    rintro kind n ⟨⟩ -
    exact ⟨Nat.one_pos, Place.rest_ne_nil (hs.start_lt (hsolid rfl))⟩
  | false => exact atPunct_proceeds "<" hs hrest

@[grind ←]
lemma typeParameter_proceeds : (typeParameter run).Proceeds := by
  unfold typeParameter
  grind

@[grind ←]
lemma typeParameters_proceeds : (typeParameters run).Proceeds := by
  unfold typeParameters
  grind

@[grind ←]
lemma typeArguments_proceeds : (typeArguments run).Proceeds := by
  unfold typeArguments
  grind

@[grind ←]
lemma typeArguments?_proceeds : (typeArguments? run).Proceeds := by
  unfold typeArguments?
  grind

@[grind ←]
lemma typeReference_proceeds : (typeReference run).Proceeds := by
  unfold typeReference
  grind

@[grind ←]
lemma resultType_proceeds : (resultType run).Proceeds := by
  unfold resultType
  grind

@[grind ←]
lemma optionalType_proceeds : (optionalType run).Proceeds := by
  unfold optionalType
  grind

@[grind ←]
lemma optionalResult_proceeds : (optionalResult run).Proceeds := by
  unfold optionalResult
  grind

@[grind ←]
lemma functionType_proceeds : (functionType run).Proceeds := by
  unfold functionType
  grind

omit hrun in
@[grind ←]
lemma startsFunctionType_proceeds : (startsFunctionType run).Proceeds := by
  unfold startsFunctionType
  grind

@[grind ←]
lemma propertyName_proceeds : (propertyName run).Proceeds := by
  unfold propertyName
  grind

omit hrun in
@[grind ←]
lemma memberEnd_proceeds : (memberEnd : Parser text Unit).Proceeds := by
  unfold memberEnd
  grind

@[grind ←]
lemma signature_proceeds : (signature run).Proceeds := by
  unfold signature
  grind

omit hrun in
@[grind ←]
lemma startsIndexSignature_proceeds : (startsIndexSignature : Parser text Bool).Proceeds := by
  unfold startsIndexSignature
  grind

@[grind ←]
lemma indexSignature_proceeds : (indexSignature run).Proceeds := by
  unfold indexSignature
  grind

@[grind ←]
lemma typeMember_proceeds : (typeMember run).Proceeds := by
  unfold typeMember
  repeat' first
    | with_reducible refine .bind (by grind) fun _ => ?_
    | with_reducible refine .ite ?_ ?_
    | split
  all_goals grind

omit hrun in
@[grind ←]
lemma startsMappedType_proceeds : (startsMappedType : Parser text Bool).Proceeds := by
  unfold startsMappedType
  grind

@[grind ←]
lemma mappedType_proceeds : (mappedType run).Proceeds := by
  unfold mappedType
  repeat' first
    | with_reducible refine .bind (by grind) fun _ => ?_
    | with_reducible refine .ite ?_ ?_
    | split
  all_goals grind

@[grind ←]
lemma objectType_proceeds : (objectType run).Proceeds :=
  .bind (expectPunct_proceeds _) fun _ => .iterate fun _ => .bind (eatPunct_proceeds _) fun _ =>
    .ite (.pure _) (.bind (typeMember_proceeds hrun) fun _ => .pure _)

@[grind ←]
lemma tupleElement_proceeds : (tupleElement run).Proceeds := by
  unfold tupleElement
  grind

omit hrun in
/-- The piece of a template behind a substitution. -/
lemma nextPart_proceeds :
    Parser.Proceeds (do
      ensure (← atPunct "\x7d")
      reread fun s => Lexer.templatePart true 0 1 s.tail
      pure (.inl ()) : Parser text (Unit ⊕ Unit)) := by
  have hpart : (reread fun s => Lexer.templatePart true 0 1 s.tail : Parser text Unit).Proceeds :=
    .reread fun _ => Lexer.solid_templatePart _ _ _ _
  exact .bind (by grind) fun _ => .bind (by grind) fun _ => .bind hpart fun _ => .pure _

omit hrun in
/-- A template goes on if what stands in its holes does. -/
@[grind ←]
lemma templateParts_proceeds (hole : Parser text Unit) (tagged : Bool) (hhole : hole.Proceeds) :
    (templateParts hole tagged).Proceeds := by
  unfold templateParts
  refine .iterate fun _ => .bind .kind fun kind => ?_
  cases kind with
  | template last wellFormed =>
    refine .bind (by grind) fun _ => ?_
    split
    · grind
    · exact .bind .advance fun _ => .bind hhole fun _ => nextPart_proceeds
  | _ => exact .fail

@[grind ←]
lemma importType_proceeds : (importType run).Proceeds := by
  unfold importType
  repeat' first
    | with_reducible refine .bind (by grind) fun _ => ?_
    | with_reducible refine .ite ?_ ?_
    | split
  all_goals grind

@[grind ←]
lemma primaryType_proceeds : (primaryType run).Proceeds := by
  unfold primaryType
  refine .bind .kind fun kind => ?_
  split
  case h_6 =>
    exact .bind startsMappedType_proceeds fun _ =>
      .ite (mappedType_proceeds hrun) (objectType_proceeds hrun)
  all_goals grind

@[grind ←]
lemma postfixType_proceeds : (postfixType run).Proceeds := by
  unfold postfixType
  refine .bind (primaryType_proceeds hrun) fun _ => ?_
  grind

@[grind ←]
lemma constraint_proceeds : (constraint run).Proceeds := by
  unfold constraint
  grind

@[grind ←]
lemma branch_proceeds : (branch run).Proceeds := by
  unfold branch
  grind

@[grind ←]
lemma operatorType_proceeds : (operatorType run).Proceeds := by
  unfold operatorType
  repeat' first
    | with_reducible exact .within (postfixType_proceeds hrun)
    | with_reducible refine .bind (by grind) fun _ => ?_
    | with_reducible refine .ite ?_ ?_
  all_goals grind

omit hrun in
/-- Types that an operator joins go on if each of them does. -/
@[grind ←]
lemma joinedType_proceeds (operator : String) (operand : Parser text Unit)
    (hoperand : operand.Proceeds) :
    (joinedType operator operand).Proceeds := by
  unfold joinedType
  grind

@[grind ←]
lemma anyType_proceeds : (anyType run).Proceeds := by
  unfold anyType
  repeat' first
    | with_reducible refine .bind (joinedType_proceeds _ _
        (joinedType_proceeds _ _ (operatorType_proceeds hrun))) fun _ => ?_
    | with_reducible refine .bind (by grind) fun _ => ?_
    | with_reducible refine .ite ?_ ?_
  all_goals grind

/-! ## Patterns, functions and classes -/

/-! ### Patterns -/

@[grind ←]
lemma patternElement_proceeds : (patternElement run).Proceeds := by
  unfold patternElement
  grind

@[grind ←]
lemma restElement_proceeds (close : String) : (restElement run close).Proceeds := by
  unfold restElement
  grind

@[grind ←]
lemma arrayPattern_proceeds : (arrayPattern run).Proceeds := by
  unfold arrayPattern
  repeat' first
    | refine .iterate fun _ => ?_
    | with_reducible refine .bind (by grind) fun _ => ?_
    | with_reducible refine .ite ?_ ?_
    | split
  all_goals grind

omit hrun in
@[grind ←]
lemma startsShorthand_proceeds : (startsShorthand : Parser text Bool).Proceeds := by
  unfold startsShorthand
  grind

@[grind ←]
lemma patternProperty_proceeds : (patternProperty run).Proceeds := by
  unfold patternProperty
  grind

@[grind ←]
lemma objectPattern_proceeds : (objectPattern run).Proceeds := by
  unfold objectPattern
  grind

@[grind ←]
lemma bindingPattern_proceeds : (bindingPattern run).Proceeds :=
  .bind (atPunct_proceeds _) fun _ => .ite (arrayPattern_proceeds hrun) <|
    .bind (atPunct_proceeds _) fun _ => .ite (objectPattern_proceeds hrun) <|
      .bind bindingName_proceeds fun _ => .pure _

/-! ### Decorators and modifiers -/

@[grind ←]
lemma decorators_proceeds : (decorators run).Proceeds := by
  unfold decorators
  grind

omit hrun in
@[grind ←]
lemma atModifier_proceeds (words : List String) :
    (atModifier words : Parser text Bool).Proceeds := by
  unfold atModifier
  grind

omit hrun in
@[grind ←]
lemma modifiers_proceeds (words : List String) :
    (modifiers words : Parser text (List String)).Proceeds := by
  unfold modifiers
  grind

/-! ### Parameters -/

@[grind ←]
lemma parameter_proceeds : (parameter run).Proceeds := by
  unfold parameter
  repeat' first
    | with_reducible refine .bind (by grind) fun _ => ?_
    | with_reducible refine .ite ?_ ?_
    | split
    | dsimp only
  all_goals grind

@[grind ←]
lemma formalParameters_proceeds : (formalParameters run).Proceeds :=
  .bind (expectPunct_proceeds _) fun _ => closedList_proceeds _ _ (parameter_proceeds hrun)

/-! ### Functions -/

@[grind ←]
lemma functionBody_proceeds : (functionBody run).Proceeds := by
  unfold functionBody
  grind

@[grind ←]
lemma functionRest_proceeds (async generator : Bool) :
    (functionRest run async generator).Proceeds := by
  unfold functionRest
  grind

omit hrun in
@[grind ←]
lemma startsFunction_proceeds : (startsFunction : Parser text Bool).Proceeds := by
  unfold startsFunction
  grind

omit hrun in
@[grind ←]
lemma functionHead_proceeds : (functionHead : Parser text (Bool × Bool)).Proceeds := by
  unfold functionHead
  grind

@[grind ←]
lemma functionExpression_proceeds : (functionExpression run).Proceeds := by
  unfold functionExpression
  grind

@[grind ←]
lemma functionDeclaration_proceeds (optionalName : Bool) :
    (functionDeclaration run optionalName).Proceeds := by
  unfold functionDeclaration
  grind

/-! ### Classes -/

@[grind ←]
lemma staticBlock_proceeds : (staticBlock run).Proceeds := by
  unfold staticBlock
  grind

@[grind ←]
lemma method_proceeds (async generator : Bool) : (method run async generator).Proceeds := by
  unfold method
  grind

@[grind ←]
lemma field_proceeds : (field run).Proceeds := by
  unfold field
  grind

omit hrun in
@[grind ←]
lemma atModifierLike_proceeds (words : List String) :
    (classMember.atModifierLike words : Parser text Bool).Proceeds := by
  unfold classMember.atModifierLike
  grind

@[grind ←]
lemma classMember_proceeds : (classMember run).Proceeds := by
  unfold classMember
  repeat' first
    | with_reducible refine .bind (by grind) fun _ => ?_
    | with_reducible refine .ite ?_ ?_
    | split
  all_goals grind

@[grind ←]
lemma classBody_proceeds : (classBody run).Proceeds := 
  .bind (expectPunct_proceeds _) fun _ => .iterate fun _ => .bind (eatPunct_proceeds _) fun _ =>
    .ite (.pure _) <| .bind (eatPunct_proceeds _) fun _ => .ite (.pure _) <|
      .bind (classMember_proceeds hrun) fun _ => .pure _

@[grind ←]
lemma heritage_proceeds : (heritage run).Proceeds := by
  unfold heritage
  repeat' first
    | refine .iterate fun _ => ?_
    | with_reducible refine .bind (by grind) fun _ => ?_
    | with_reducible refine .ite ?_ ?_
    | split
  all_goals grind

@[grind ←]
lemma classRest_proceeds : (classRest run).Proceeds := by
  unfold classRest
  repeat' first
    | with_reducible refine .bind (by grind) fun _ => ?_
    | with_reducible refine .ite ?_ ?_
    | split
  all_goals grind

/-! ## Expressions -/

/-! ### Literals -/

@[grind ←]
lemma spreadable_proceeds : (spreadable run).Proceeds := by
  unfold spreadable
  grind

@[grind ←]
lemma arrayLiteral_proceeds : (arrayLiteral run).Proceeds := by
  unfold arrayLiteral
  grind

@[grind ←]
lemma objectKey_proceeds : (objectProperty.objectKey run).Proceeds := by
  unfold objectProperty.objectKey
  grind

@[grind ←]
lemma objectProperty_proceeds (acc : Literal) : (objectProperty run acc).Proceeds := by
  unfold objectProperty
  repeat' first
    | with_reducible refine .bind (by grind) fun _ => ?_
    | with_reducible refine .ite ?_ ?_
    | split
    | dsimp only
  all_goals grind

@[grind ←]
lemma objectLiteral_proceeds : (objectLiteral run).Proceeds := by
  refine .bind (expectPunct_proceeds _) fun _ => .iterate fun acc =>
    .bind (eatPunct_proceeds _) fun _ => .ite (.pure _) ?_
  refine .bind (objectProperty_proceeds hrun acc) fun _ => ?_
  grind

@[grind ←]
lemma templateLiteral_proceeds (tagged : Bool) : (templateLiteral run tagged).Proceeds := by
  unfold templateLiteral
  grind

@[grind ←]
lemma parenthesized_proceeds : (parenthesized run).Proceeds := by
  unfold parenthesized
  grind

omit hrun in
@[grind ←]
lemma rereadRegex_proceeds :
    (reread fun s => (Lexer.regexLength? false false 1 s.tail).map fun n => (.regex, n) :
      Parser text Unit).Proceeds := by
  refine .reread fun s kind n h => ?_
  obtain ⟨_, -, heq⟩ := Option.map_eq_some_iff.mp h
  cases heq
  exact nofun

omit hrun in
@[grind ←]
lemma regexLiteral_proceeds : (regexLiteral : Parser text Unit).Proceeds :=
  .bind rereadRegex_proceeds fun _ => .advance

/-! ### Calls -/

/-- The edit that an argument stands for if it is the only one. -/
def argumentEdits : Shape × Bool × Span text → List Edit
  | (.string value, false, span) => [editOf span (.requireArgument value)]
  | _ => []

/-- A string literal that is an argument is one token. -/
lemma spreadable_literal {value : String} {ctx : Context} {s s' : State text}
    (hs : s.start.offset ≤ s.stop.offset)
    (h : spreadable run ctx s = some ((.string value, false), s')) :
    s.start.offset ≤ s'.previous.offset ∧ s'.sites = s.sites := by
  obtain ⟨spread, s₁, heat, hrest⟩ := bind_eq_some.mp h
  cases spread with
  | true =>
    obtain ⟨_, s₂, -, hpure⟩ := bind_eq_some.mp hrest
    cases hpure
  | false =>
    obtain ⟨_, s₂, hread, hpure⟩ := bind_eq_some.mp hrest
    cases hpure
    have hstill := eatPunct_false heat
    have hliteral : IsLiteral run.assignmentIn := .within (hrun.literal.assignment true)
    obtain ⟨hle, hsites⟩ := hliteral (hstill.start_le hs) hread rfl
    rw [hstill.start] at hle
    exact ⟨hle, hsites.trans hstill.sites⟩

/-- An argument with its range. -/
lemma argument_yields :
    (do
      let start ← here
      let (shape, spread) ← spreadable run
      let span ← spanFrom start
      pure (shape, spread, span)).Yields argumentEdits := by
  intro ctx s a s' hs h
  obtain ⟨start, _, ⟨⟩, hrest⟩ := bind_eq_some.mp h
  obtain ⟨⟨shape, spread⟩, s₁, hread, hrest⟩ := bind_eq_some.mp hrest
  obtain ⟨span, _, ⟨⟩, ⟨⟩⟩ := bind_eq_some.mp hrest
  have hspans := spreadable_proceeds hrun hs hread
  unfold argumentEdits
  split
  · rename_i value span heq
    cases heq
    obtain ⟨hle, hsites⟩ := spreadable_literal hrun hs.start_le hread
    obtain ⟨hstart, hstop⟩ := Place.spanTo_of_le hle
    refine ⟨hspans.ordered, hspans.previous_le, hspans.start_le, [], hsites, ?_⟩
    refine Fits.nil.cons ?_ fun _ h => absurd h List.not_mem_nil
    simp only [editOf, hstart, hstop]
    exact ⟨Nat.le_refl _, hle, Nat.le_refl _⟩
  · exact hspans

/-- The arguments of a call: the only one has a range if it is a string literal. -/
lemma callArguments_yields :
    (callArguments run).Yields fun r => (r.map fun (value, span) =>
      editOf span (.requireArgument value)).toList := by
  intro ctx s r s' hs h
  obtain ⟨_, s₁, hopen, hrest⟩ := bind_eq_some.mp h
  obtain ⟨⟨args, comma⟩, s₂, hargs, hrest⟩ := bind_eq_some.mp hrest
  obtain ⟨_, s₃, hclose, hrest⟩ := bind_eq_some.mp hrest
  have hopen := expectPunct_proceeds "(" hs hopen
  have hargs := hopen.trans (commaList_yields (argument_yields hrun) ")" hopen.ordered hargs)
  have hclose := hargs.trans (expectPunct_proceeds ")" hargs.ordered hclose)
  rw [List.nil_append, List.append_nil] at hclose
  split at hrest
  · cases hrest
    exact hclose
  · cases hrest
    exact hclose.sublist (List.nil_sublist _)

@[grind ←]
lemma callArguments_proceeds : (callArguments run).Proceeds := (callArguments_yields hrun).proceeds

/-- A call of `require` notes the range of its argument. -/
@[grind ←]
lemma call_proceeds (callee : Shape) : (call run callee).Proceeds := by
  intro ctx s _ s' hs h
  obtain ⟨r, s₁, hargs, hrest⟩ := bind_eq_some.mp h
  have hspans := callArguments_yields hrun hs hargs
  rcases r with _ | ⟨value, span⟩
  · cases hrest
    exact hspans
  · simp only at hrest
    split at hrest
    · cases hrest
      exact hspans.note
    · cases hrest
      exact hspans.sublist (List.nil_sublist _)

omit hrun in
/-- Noting a dynamic import: its range is all that was read since its keyword. -/
lemma noteImport_completes (s₀ : State text) (source : Shape) :
    Parser.Completes s₀ (fun _ => []) (do
      match source with
      | .string value => found (.dynamicImport (← spanFrom s₀.start) value)
      | _ => pure ()
      pure Shape.importCall) := by
  cases source with
  | string value =>
    rintro ctx s shape s' hs ⟨⟩
    exact ⟨(hs.whole (.dynamicImport value)).note, hs.start_le⟩
  | _ => exact .pure rfl

lemma importCall_completes (s₀ : State text) :
    (importCall run s₀.start).Completes s₀ fun _ => [] := by
  unfold importCall
  refine .bind (by grind) fun _ => .bind (by grind) fun source => .bind (by grind) fun comma => ?_
  dsimp only
  split
  · refine .bind (by grind) fun close => ?_
    split
    · exact .bind (by grind) fun _ => .bind (by grind) fun _ => .bind (by grind) fun _ =>
        noteImport_completes s₀ source
    · exact .bind (by grind) fun _ => noteImport_completes s₀ source
  · exact .bind (by grind) fun _ => noteImport_completes s₀ source

/-- A dynamic import or `import.meta`: it has at least its keyword. -/
lemma importExpression_spans {ctx : Context} {s s' : State text} {shape : Shape} (hs : s.Ordered)
    (h : importExpression run ctx s = some (shape, s')) :
    Spans s [] s' ∧ s.start.offset ≤ s'.previous.offset := by
  obtain ⟨_, _, ⟨⟩, hrest⟩ := bind_eq_some.mp h
  obtain ⟨_, s₁, hword, hrest⟩ := bind_eq_some.mp hrest
  revert hrest
  suffices hcompletes : Parser.Completes s (fun _ => []) (do
      if ← eatPunct "." then
        if ← eatWord "meta" then pure Shape.other
        else
          ensure (← atAnyWord ["source", "defer"])
          advance
          importCall run s.start
      else importCall run s.start) from hcompletes (expectWord_opened hs hword)
  refine .bind (by grind) fun dot => .ite ?_ (importCall_completes hrun s)
  refine .bind (by grind) fun isMeta => .ite (.pure rfl) ?_
  exact .bind (by grind) fun _ => .bind (by grind) fun _ => .bind (by grind) fun _ =>
    importCall_completes hrun s

@[grind ←]
lemma importExpression_proceeds : (importExpression run).Proceeds :=
  fun _ _ _ _ hs h => (importExpression_spans hrun hs h).1

omit hrun in
@[grind ←]
lemma superExpression_proceeds : (superExpression : Parser text Shape).Proceeds := by
  unfold superExpression
  grind

@[grind ←]
lemma classExpression_proceeds : (classExpression run).Proceeds := by
  unfold classExpression
  grind

omit hrun in
@[grind ←]
lemma startsExpression_proceeds : (startsExpression : Parser text Bool).Proceeds := by
  unfold startsExpression
  grind

omit hrun in
@[grind ←]
lemma joinAngles_proceeds : (joinAngles : Parser text Unit).Proceeds := by
  unfold joinAngles
  grind

omit hrun in
@[grind ←]
lemma operator?_proceeds : (operator? : Parser text (Option String)).Proceeds := by
  unfold operator?
  grind

omit hrun in
@[grind ←]
lemma joiningOperator?_proceeds :
    (joiningOperator? : Parser text (Option (String × Nat))).Proceeds := by
  unfold joiningOperator?
  grind

@[grind ←]
lemma expressionTypeArguments_proceeds : (expressionTypeArguments run).Proceeds := by
  unfold expressionTypeArguments
  repeat' first
    | with_reducible refine .bind (by grind) fun _ => ?_
    | with_reducible refine .ite ?_ ?_
    | split
  all_goals grind

/-- A primary expression goes on if a construction with `new` does. -/
@[grind ←]
lemma primary_proceeds (construction : Parser text Shape) (hconstruction : construction.Proceeds) :
    (primary run construction).Proceeds := by
  unfold primary
  refine .bind .kind fun kind => ?_
  split
  case h_6 => exact objectLiteral_proceeds hrun
  all_goals grind

/-! ### Accesses -/

omit hrun in
@[grind ←]
lemma accessName_proceeds : (accessName : Parser text Unit).Proceeds := by
  unfold accessName
  grind

@[grind ←]
lemma computedAccess_proceeds : (computedAccess run).Proceeds := by
  unfold computedAccess
  grind

@[grind ←]
lemma access?_proceeds (chain : Chain) : (access? run chain).Proceeds := by
  unfold access?
  repeat' first
    | with_reducible refine .bind (by grind) fun _ => ?_
    | with_reducible refine .ite ?_ ?_
    | split
  all_goals grind

@[grind ←]
lemma accesses_proceeds (chain : Chain) : (accesses run chain).Proceeds := by
  refine .iterate fun chain => .bind (access?_proceeds hrun chain) fun result => ?_
  cases result with
  | none => exact .pure _
  | some chain => exact .pure _

@[grind ←]
lemma call?_proceeds (chain : Chain) : (call? run chain).Proceeds := by
  unfold call?
  repeat' first
    | with_reducible refine .bind (by grind) fun _ => ?_
    | with_reducible refine .ite ?_ ?_
    | split
  all_goals grind

@[grind ←]
lemma construction_proceeds (n : Nat) : (construction run n).Proceeds := by
  induction n with
  | zero => exact .fail
  | succ n ih =>
    unfold construction
    repeat' first
      | with_reducible refine .bind (primary_proceeds hrun _ ih) fun _ => ?_
      | with_reducible refine .bind (accesses_proceeds hrun _) fun _ => ?_
      | with_reducible refine .bind (by grind) fun _ => ?_
      | with_reducible refine .ite ?_ ?_
    all_goals grind

@[grind ←]
lemma leftHandSide_proceeds : (leftHandSide run).Proceeds := by
  unfold leftHandSide
  refine .bind .context fun ctx =>
    .bind (primary_proceeds hrun _ (construction_proceeds hrun _)) fun value => ?_
  refine .bind (.iterate fun chain => .bind (accesses_proceeds hrun chain) fun chain => ?_)
    fun chain => .pure _
  grind

/-! ### Operators -/

omit hrun in
@[grind ←]
lemma isOperatorWord_proceeds (word : String) (known : Bool) :
    (isOperatorWord word known : Parser text Bool).Proceeds := by
  unfold isOperatorWord
  grind

@[grind ←]
lemma unaryExpression_proceeds : (unaryExpression run).Proceeds := by
  unfold unaryExpression
  repeat' first
    | with_reducible refine .bind (leftHandSide_proceeds hrun) fun _ => ?_
    | with_reducible refine .bind (by grind) fun _ => ?_
    | with_reducible refine .ite ?_ ?_
    | split
  all_goals grind

@[grind ←]
lemma joined_proceeds (op : String) (level : Nat) (left : Shape) :
    (joined run op level left).Proceeds := by
  unfold joined
  grind

@[grind ←]
lemma firstOperand_proceeds (level : Nat) : (firstOperand run level).Proceeds := by
  unfold firstOperand
  grind

@[grind ←]
lemma binaryExpression_proceeds (level : Nat) : (binaryExpression run level).Proceeds := by
  unfold binaryExpression
  grind

@[grind ←]
lemma conditionalRest_proceeds (arrowTypes : Bool) (condition : Shape) :
    (conditionalRest run arrowTypes condition).Proceeds := by
  unfold conditionalRest
  grind

/-! ### Arrow functions -/

omit hrun in
@[grind ←]
lemma arrowVerdict_proceeds : (arrowVerdict : Parser text Verdict).Proceeds := by
  unfold arrowVerdict
  grind

@[grind ←]
lemma arrowBody_proceeds (async arrowTypes : Bool) : (arrowBody run async arrowTypes).Proceeds := by
  unfold arrowBody
  grind

omit hrun in
@[grind ←]
lemma arrow_proceeds : (arrow : Parser text Unit).Proceeds := by
  unfold arrow
  grind

@[grind ←]
lemma arrowFunction_proceeds (arrowTypes : Bool) : (arrowFunction run arrowTypes).Proceeds := by
  unfold arrowFunction
  repeat' first
    | with_reducible refine .bind (by grind) fun _ => ?_
    | with_reducible refine .ite ?_ ?_
    | split
  all_goals grind

@[grind ←]
lemma bareArrowFunction_proceeds (async arrowTypes : Bool) :
    (bareArrowFunction run async arrowTypes).Proceeds := by
  unfold bareArrowFunction
  grind

omit hrun in
@[grind ←]
lemma startsBareAsyncArrow_proceeds : (startsBareAsyncArrow : Parser text Bool).Proceeds := by
  unfold startsBareAsyncArrow
  grind

/-! ### Assignments -/

@[grind ←]
lemma yieldExpression_proceeds : (yieldExpression run).Proceeds := by
  unfold yieldExpression
  repeat' first
    | with_reducible refine .bind (by grind) fun _ => ?_
    | with_reducible refine .ite ?_ ?_
    | split
  all_goals grind

@[grind ←]
lemma rest_proceeds (arrowTypes : Bool) (op : Option String) (left : Shape) :
    (plainAssignment.rest run arrowTypes op left).Proceeds := by
  unfold plainAssignment.rest
  repeat' first
    | with_reducible refine .bind (by grind) fun _ => ?_
    | with_reducible refine .ite ?_ ?_
    | split
  all_goals grind

@[grind ←]
lemma plainAssignment_proceeds (arrowTypes : Bool) : (plainAssignment run arrowTypes).Proceeds := by
  unfold plainAssignment
  repeat' first
    | with_reducible refine .bind (by grind) fun _ => ?_
    | with_reducible refine .ite ?_ ?_
    | split
  all_goals grind

@[grind ←]
lemma otherAssignment_proceeds (arrowTypes : Bool) :
    (assignmentExpression.other run arrowTypes).Proceeds := by
  unfold assignmentExpression.other
  grind

@[grind ←]
lemma assignmentExpression_proceeds (arrowTypes : Bool) :
    (assignmentExpression run arrowTypes).Proceeds := by
  unfold assignmentExpression
  repeat' first
    | with_reducible refine .bind (by grind) fun _ => ?_
    | with_reducible refine .ite ?_ ?_
    | split
  all_goals grind

@[grind ←]
lemma commaExpression_proceeds : (commaExpression run).Proceeds := by
  unfold commaExpression
  grind

/-! ## Statements and declarations -/

/-! ### Variables -/

@[grind ←]
lemma declarator_proceeds : (declarator run).Proceeds := by
  unfold declarator
  grind

@[grind ←]
lemma declarators_proceeds : (declarators run).Proceeds := by
  unfold declarators
  grind

omit hrun in
@[grind ←]
lemma checkValues_proceeds (kind : VariableKind) (ds : List (Pattern × Bool)) :
    (checkValues kind ds : Parser text Unit).Proceeds := by
  unfold checkValues
  grind

@[grind ←]
lemma variableStatement_proceeds (kind : VariableKind) : (variableStatement run kind).Proceeds := by
  unfold variableStatement
  grind

omit hrun in
@[grind ←]
lemma nameFollows_proceeds : (nameFollows : Parser text Bool).Proceeds := by
  unfold nameFollows
  grind

omit hrun in
@[grind ←]
lemma startsUsing_proceeds : (startsUsing : Parser text Bool).Proceeds := by
  unfold startsUsing
  grind

omit hrun in
@[grind ←]
lemma takeUsing_proceeds : (takeUsing : Parser text Unit).Proceeds := by
  unfold takeUsing
  grind

/-! ### Declarations of types -/

@[grind ←]
lemma interfaceDeclaration_proceeds : (interfaceDeclaration run).Proceeds := by
  unfold interfaceDeclaration
  repeat' first
    | refine .iterate fun _ => ?_
    | with_reducible refine .bind (by grind) fun _ => ?_
    | with_reducible refine .ite ?_ ?_
    | split
  all_goals grind

@[grind ←]
lemma typeAlias_proceeds : (typeAlias run).Proceeds := by
  unfold typeAlias
  grind

@[grind ←]
lemma enumMember_proceeds : (enumMember run).Proceeds := by
  unfold enumMember
  grind

@[grind ←]
lemma enumDeclaration_proceeds : (enumDeclaration run).Proceeds := by
  unfold enumDeclaration
  grind

@[grind ←]
lemma namespaceBody_proceeds : (namespaceBody run).Proceeds := by
  unfold namespaceBody
  grind

@[grind ←]
lemma namespaceDeclaration_proceeds : (namespaceDeclaration run).Proceeds := by
  unfold namespaceDeclaration
  grind

omit hrun in
@[grind ←]
lemma startsTypedDeclaration_proceeds : (startsTypedDeclaration : Parser text Bool).Proceeds := by
  unfold startsTypedDeclaration
  grind

@[grind ←]
lemma classDeclaration_proceeds (optionalName : Bool) :
    (classDeclaration run optionalName).Proceeds := by
  unfold classDeclaration
  grind

@[grind ←]
lemma declaration_proceeds : (declaration run).Proceeds := by
  unfold declaration
  repeat' first
    | with_reducible refine .bind (by grind) fun _ => ?_
    | with_reducible refine .ite ?_ ?_
    | split
  all_goals grind

@[grind ←]
lemma describedDeclaration_proceeds : (describedDeclaration run).Proceeds := by
  unfold describedDeclaration
  repeat' first
    | with_reducible refine .bind (declaration_proceeds hrun) fun _ => ?_
    | with_reducible refine .bind (.within (declaration_proceeds hrun)) fun _ => ?_
    | with_reducible refine .bind (by grind) fun _ => ?_
    | with_reducible refine .ite ?_ ?_
  all_goals grind

/-! ### Control -/

@[grind ←]
lemma condition_proceeds : (condition run).Proceeds := by
  unfold condition
  grind

@[grind ←]
lemma ifStatement_proceeds : (ifStatement run).Proceeds := by
  unfold ifStatement
  grind

@[grind ←]
lemma doStatement_proceeds : (doStatement run).Proceeds := by
  unfold doStatement
  grind

@[grind ←]
lemma forParts_proceeds : (forParts run).Proceeds := by
  unfold forParts
  grind

@[grind ←]
lemma forOver_proceeds (await : Bool) : (forOver run await).Proceeds := by
  unfold forOver
  grind

omit hrun in
@[grind ←]
lemma forDeclarationKind_proceeds :
    (forDeclarationKind : Parser text (Option VariableKind)).Proceeds := by
  unfold forDeclarationKind
  repeat' first
    | with_reducible refine .bind (by grind) fun _ => ?_
    | with_reducible refine .ite ?_ ?_
    | split
  all_goals grind

omit hrun in
@[grind ←]
lemma startsAsyncOf_proceeds : (startsAsyncOf : Parser text Bool).Proceeds := by
  unfold startsAsyncOf
  grind

@[grind ←]
lemma forStatement_proceeds : (forStatement run).Proceeds := by
  unfold forStatement
  repeat' first
    | with_reducible refine .bind (by grind) fun _ => ?_
    | with_reducible refine .ite ?_ ?_
    | split
  all_goals grind

omit hrun in
@[grind ←]
lemma jumpStatement_proceeds : (jumpStatement : Parser text Unit).Proceeds := by
  unfold jumpStatement
  grind

@[grind ←]
lemma returnStatement_proceeds : (returnStatement run).Proceeds := by
  unfold returnStatement
  grind

@[grind ←]
lemma caseBody_proceeds : (caseBody run).Proceeds := by
  unfold caseBody
  grind

@[grind ←]
lemma switchStatement_proceeds : (switchStatement run).Proceeds := by
  unfold switchStatement
  repeat' first
    | refine .iterate fun _ => ?_
    | with_reducible refine .bind (by grind) fun _ => ?_
    | with_reducible refine .ite ?_ ?_
    | split
  all_goals grind

@[grind ←]
lemma throwStatement_proceeds : (throwStatement run).Proceeds := by
  unfold throwStatement
  grind

@[grind ←]
lemma tryStatement_proceeds : (tryStatement run).Proceeds := by
  unfold tryStatement
  repeat' first
    | refine .bind (by grind) fun _ => ?_
    | with_reducible refine .ite ?_ ?_
    | split
  all_goals grind

@[grind ←]
lemma withStatement_proceeds : (withStatement run).Proceeds := by
  unfold withStatement
  grind

omit hrun in
@[grind ←]
lemma startsLabel_proceeds : (startsLabel : Parser text Bool).Proceeds := by
  unfold startsLabel
  grind

@[grind ←]
lemma expressionStatement_proceeds : (expressionStatement run).Proceeds := by
  unfold expressionStatement
  grind

omit hrun in
@[grind ←]
lemma letDeclares_proceeds (single : Bool) : (letDeclares single : Parser text Bool).Proceeds := by
  unfold letDeclares
  grind

@[grind ←]
lemma blockStatement_proceeds : (blockStatement run).Proceeds := by
  unfold blockStatement
  grind

@[grind ←]
lemma keywordStatement_proceeds (single : Bool) (w : String) :
    (keywordStatement run single w).Proceeds := by
  unfold keywordStatement
  grind

end LiveBundle.Script
