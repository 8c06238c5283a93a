import LiveBundle.Proofs.Script.Progress

/-!
# Where the edits of a script lie

Every edit of a statement has the range of the whole statement, the range up to what it declares, or
the empty range behind it. Whatever was found inside of the statement lies behind its first token,
so the edits of statements and sites are apart or nested, at any depth of nesting.

* `importStatement_completes`, `exportStatement_completes`: the statements that give edits;
* `anyStatement_yields`: a statement of any kind;
* `Program.nests_of_parse`: the edits of a script that is read, all of them.
-/

namespace LiveBundle.Script

open LiveBundle.Script.Parser
open ModuleSyntax (siteEdit itemEdits editOf)

variable {text : List Char}

/-! ## Parts of module statements -/

/-- A name in a module statement is a word or a string, and is taken. -/
@[grind ←]
lemma moduleName_proceeds : (moduleName : Parser text String).Proceeds := by
  unfold moduleName
  grind

@[grind ←]
lemma atModuleName_proceeds : (atModuleName : Parser text Bool).Proceeds := by
  unfold atModuleName
  grind

@[grind ←]
lemma stringLiteral_proceeds : (stringLiteral : Parser text String).Proceeds := by
  unfold stringLiteral
  grind

/-- The attributes behind a module's name are taken with their braces. -/
@[grind ←]
lemma attributes_proceeds : (attributes : Parser text Unit).Proceeds := by
  unfold attributes
  refine .bind (by grind) fun _ => .bind (by grind) fun _ => .bind (by grind) fun _ => ?_
  split
  · exact .bind (by grind) fun _ => .bind (by grind) fun _ => closedList_proceeds _ _ (by grind)
  · grind

/-- The clause that names a module is taken with its attributes. -/
@[grind ←]
lemma fromClause_proceeds : (fromClause : Parser text String).Proceeds := by
  unfold fromClause
  grind

@[grind ←]
lemma atAnyWordKind_proceeds : (atAnyWordKind : Parser text Bool).Proceeds := by
  unfold atAnyWordKind
  grind

/-- A name in braces is taken with its alias. -/
@[grind ←]
lemma withAlias_proceeds (front : String) (typeOnly frontIsWord : Bool) :
    (bracedName.withAlias front typeOnly frontIsWord : Parser text BracedName).Proceeds := by
  unfold bracedName.withAlias
  grind

/-- A name in braces is taken, with `type` in front or as the name. -/
@[grind ←]
lemma bracedName_proceeds : (bracedName : Parser text BracedName).Proceeds := by
  unfold bracedName
  repeat' first
    | with_reducible refine .bind (by grind) fun _ => ?_
    | with_reducible refine .ite ?_ ?_
    | split
    | dsimp only
  all_goals grind

/-! ### Parts of imports -/

@[grind ←]
lemma importName_proceeds : (importName : Parser text ImportName).Proceeds := by
  unfold importName
  grind

/-- The names in braces are taken, one after the other. -/
@[grind ←]
lemma namedImports_proceeds : (namedImports : Parser text (List ImportName)).Proceeds := by
  unfold namedImports
  grind

@[grind ←]
lemma namespaceImport_proceeds : (namespaceImport : Parser text String).Proceeds := by
  unfold namespaceImport
  grind

@[grind ←]
lemma importRest_proceeds (default : Option String) :
    (importRest default : Parser text ImportClause).Proceeds := by
  unfold importRest
  grind

/-- What an import binds is taken, in any of its forms. -/
@[grind ←]
lemma importClause_proceeds (default : Option String) :
    (importClause default : Parser text ImportClause).Proceeds := by
  unfold importClause
  grind

/-- Whether an import is one of types is told by the tokens behind `type`. -/
@[grind ←]
lemma startsTypeImport_proceeds : (startsTypeImport : Parser text Bool).Proceeds := by
  unfold startsTypeImport
  repeat' first
    | with_reducible refine .bind (by grind) fun _ => ?_
    | with_reducible refine .ite ?_ ?_
    | split
  all_goals grind

@[grind ←]
lemma startsPhase_proceeds : (startsPhase : Parser text Bool).Proceeds := by
  unfold startsPhase
  grind

/-- What an import assigns is taken to the end of the statement. -/
@[grind ←]
lemma importAssignment_proceeds : (importAssignment : Parser text Unit).Proceeds := by
  unfold importAssignment
  grind

/-! ## Statements with edits -/

/-- A statement that starts with a keyword at its first place. -/
lemma Opened.of_keyword {s₀ s' : State text} {f : Place text → Unit → Parser text (Item text)}
    {ctx : Context} {item : Item text} (hs : s₀.Ordered) (hsolid : s₀.token.kind.isSolid = true)
    (hf : (f s₀.start ()).Completes s₀ itemEdits)
    (hrun : (do let start ← here; let u ← takeKeyword; f start u) ctx s₀ = some (item, s')) :
    Spans s₀ (itemEdits item) s' := by
  obtain ⟨_, _, ⟨⟩, hrest⟩ := bind_eq_some.mp hrun
  obtain ⟨_, s₁, htake, hrest⟩ := bind_eq_some.mp hrest
  exact (hf (takeKeyword_opened hs hsolid htake) hrest).1

/-- The edit of an import is as long as the import. -/
lemma importStatement_spans {s s' : State text} {ctx : Context} {item : Item text} (hs : s.Ordered)
    (hsolid : s.token.kind.isSolid = true) (hrun : importStatement ctx s = some (item, s')) :
    Spans s (itemEdits item) s' := by
  refine Opened.of_keyword hs hsolid (.bind (by grind) fun kind => ?_) hrun
  split
  · exact .bind (by grind) fun _ => .bind (by grind) fun _ => .bind (by grind) fun _ =>
      .spanFrom (fun _ => rfl) fun _ => rfl
  · -- An import that is an assignment gives no edit; any other one has a range of its own.
    refine .bind (by grind) fun typeOnly => ?_
    cases typeOnly <;> repeat' first
      | with_reducible refine .ite ?_ ?_
      | exact .spanFrom (fun _ => rfl) fun _ => rfl
      | exact .pure rfl
      | refine .bind (by grind) fun _ => ?_

/-- The edit of an export of names is as long as the export. -/
lemma exportNames_completes (s₀ : State text) (typeOnly : Bool) :
    (exportNames s₀.start typeOnly).Completes s₀ itemEdits := by
  refine .bind (by grind) fun _ => .bind (by grind) fun names => .bind (by grind) fun _ =>
    .bind (by grind) fun source => .ite (.bind (by grind) fun specifier => ?_) ?_
  · cases typeOnly <;> exact .spanFrom (fun _ => rfl) fun _ => rfl
  · refine .bind (by grind) fun _ => .bind (by grind) fun _ => .bind (by grind) fun _ => ?_
    cases typeOnly <;> exact .spanFrom (fun _ => rfl) fun _ => rfl

/-- The edit of an export of all names is as long as the export. -/
lemma exportAll_completes (s₀ : State text) (typeOnly : Bool) :
    (exportAll s₀.start typeOnly).Completes s₀ itemEdits := by
  have hend (exported : Option String) : Parser.Completes s₀ itemEdits (do
      let specifier ← fromClause
      let span ← spanFrom s₀.start
      pure (if typeOnly then .typeOnly span else .exportAll span specifier exported)) := by
    refine .bind (by grind) fun specifier => ?_
    cases typeOnly <;> cases exported <;> exact .spanFrom (fun _ => rfl) fun _ => rfl
  refine .bind (by grind) fun _ => .bind (by grind) fun renamed => .ite ?_ ?_
  · exact .bind (by grind) fun exported => hend exported
  · exact .bind (by grind) fun exported => hend exported

/-! ### Exports with a declaration -/

/-- Reading behind the head of a statement, which ends at `s₁`. Where `taken` holds, a token was
taken since. -/
def Parser.Heads (s₀ s₁ : State text) (taken : Prop) (p : Parser text (Item text)) : Prop :=
  ∀ ⦃ctx s item s'⦄, Opened s₀ s₁ → Spans s₁ [] s →
    (taken → s₁.start.offset ≤ s.previous.offset) → p ctx s = some (item, s') →
    Spans s₀ (itemEdits item) s' ∧ s₀.start.offset ≤ s'.previous.offset

namespace Parser.Heads

variable {s₀ s₁ : State text} {taken : Prop} {α : Type}

/-- What goes on may come in front. -/
lemma bind {p : Parser text α} {f : α → Parser text (Item text)} (hp : p.Proceeds)
    (hf : ∀ a, (f a).Heads s₀ s₁ taken) : (p >>= f).Heads s₀ s₁ taken := by
  intro ctx s item s' hopened hspans htaken hrun
  obtain ⟨a, s₂, hrun₁, hrun₂⟩ := bind_eq_some.mp hrun
  have hnext := hp hspans.ordered hrun₁
  exact hf a hopened (hspans.trans hnext)
    (fun h => Nat.le_trans (htaken h) hnext.previous_le) hrun₂

/-- A token is taken. -/
lemma take {p : Parser text α} {f : α → Parser text (Item text)} (hp : p.Takes)
    (hf : ∀ a, (f a).Heads s₀ s₁ True) : (p >>= f).Heads s₀ s₁ taken := by
  intro ctx s item s' hopened hspans _ hrun
  obtain ⟨a, s₂, hrun₁, hrun₂⟩ := bind_eq_some.mp hrun
  exact hf a hopened (hspans.trans (hp.proceeds hspans.ordered hrun₁))
    (fun _ => Nat.le_trans hspans.start_le (hp.start_le hspans.ordered hrun₁)) hrun₂

/-- On both ways the head ends where it should. -/
lemma ite {c : Prop} [Decidable c] {p q : Parser text (Item text)} (hp : p.Heads s₀ s₁ taken)
    (hq : q.Heads s₀ s₁ taken) : (if c then p else q).Heads s₀ s₁ taken := by
  split
  · exact hp
  · exact hq

/-- A statement that has a range of its own. -/
lemma of_completes {p : Parser text (Item text)} (hp : p.Completes s₀ itemEdits) :
    p.Heads s₀ s₁ taken := fun _ _ _ _ hopened hspans _ hrun => hp (hopened.spans hspans) hrun

/-- The head is the only edit. -/
lemma pure {item : Item text} {r : Replacement}
    (h : itemEdits item = [editOf (s₀.start.spanTo s₁.start) r]) :
    (Pure.pure item : Parser text (Item text)).Heads s₀ s₁ True := by
  rintro ctx s _ s' hopened hspans htaken ⟨⟩
  rw [h]
  exact ⟨hopened.head hspans (htaken trivial) r, (hopened.spans hspans).start_le⟩

end Parser.Heads

/-- A statement whose head ends at the present token. -/
lemma Parser.Completes.of_heads {s₀ : State text} {f : Place text → Parser text (Item text)}
    (hf : ∀ s₁ : State text, (f s₁.start).Heads s₀ s₁ False) :
    (here >>= f).Completes s₀ itemEdits := by
  intro ctx s item s' hopened hrun
  obtain ⟨_, _, ⟨⟩, hrest⟩ := bind_eq_some.mp hrun
  exact hf s hopened (.refl hopened.ordered) False.elim hrest

/-- A default export of a class or function. -/
lemma exportDefaultDeclared_heads (s₀ s₁ : State text) (name : Option String) :
    (exportDefaultDeclared s₀.start s₁.start name).Heads s₀ s₁ True := by
  cases name with
  | some name => exact .pure rfl
  | none =>
    rintro ctx s _ s' hopened hspans htaken ⟨⟩
    have hend := (hopened.spans hspans).start_le
    exact ⟨(hopened.head hspans (htaken trivial) .defaultExpression).tail hend .terminate, hend⟩

section

variable {run : Runner text} (hrun : run.Takes)
include hrun

/-- The edits of a default export are its head and its end, or all of it. -/
lemma exportDefault_completes (s₀ : State text) :
    (exportDefault run s₀.start).Completes s₀ itemEdits := by
  have hproceeds := hrun.proceeds
  refine .bind (by grind) fun _ => .bind (by grind) fun ctx => .of_heads fun s₁ => ?_
  refine .bind (by grind) fun class_ => .bind (by grind) fun decorated => .bind (by grind) fun _ =>
    .bind (by grind) fun abstract => .ite ?_ ?_
  · exact .bind (by grind) fun _ => .take (classDeclaration_takes hrun true) fun name =>
      exportDefaultDeclared_heads s₀ s₁ name
  · refine .bind (by grind) fun interface => .bind (by grind) fun named => .ite ?_ ?_
    · exact .bind (by grind) fun _ => .of_completes (.spanFrom (fun _ => rfl) fun _ => rfl)
    · refine .bind (by grind) fun function => .ite ?_ ?_
      · exact .take (functionDeclaration_takes hrun true) fun name =>
          exportDefaultDeclared_heads s₀ s₁ name
      · exact .take (.within (hrun.assignment true)) fun _ => .bind (by grind) fun _ => .pure rfl

/-- The edit of an exported declaration is the word in front of it. -/
lemma exportDeclaration_completes (s₀ : State text) :
    (exportDeclaration run s₀.start).Completes s₀ itemEdits := by
  refine .of_heads fun s₁ =>
    .take (describedDeclaration_takes hrun) fun (declaration, described) => ?_
  cases described with
  | true => exact .of_completes (.spanFrom (fun _ => rfl) fun _ => rfl)
  | false =>
    cases hnames : declaration.names? with
    | some names =>
      exact .bind (by grind) fun span =>
        .pure (r := .exportDeclaration names) (by simp [itemEdits, hnames])
    | none =>
      exact .of_completes (.spanFrom (r := .remove) (fun _ => rfl) fun span => by
        simp [itemEdits, hnames])

/-- An export behind its keyword. -/
lemma exportStatement_spans {s₀ s s' : State text} {ctx : Context} {item : Item text}
    (htake : ∀ ⦃u s₁⦄, takeKeyword ctx s = some (u, s₁) → Opened s₀ s₁)
    (h : exportStatement run s₀.start ctx s = some (item, s')) : Spans s₀ (itemEdits item) s' := by
  have hproceeds := hrun.proceeds
  obtain ⟨_, s₁, hkeyword, hrest⟩ := bind_eq_some.mp h
  revert hrest
  suffices hcompletes : Parser.Completes s₀ itemEdits _ from
    fun h => (hcompletes (htake hkeyword) h).1
  refine .bind (by grind) fun ctx => .bind (by grind) fun _ =>
    .ite (exportDefault_completes hrun s₀) ?_
  refine .bind (by grind) fun _ => .ite (exportAll_completes s₀ false) ?_
  refine .bind (by grind) fun _ => .ite (exportNames_completes s₀ false) ?_
  refine .bind (by grind) fun _ => .ite ?_ ?_
  · -- `export import a = b` declares nothing that the runtime knows.
    exact .bind (by grind) fun _ => .bind (by grind) fun _ => .bind (by grind) fun inner =>
      .bind (by grind) fun _ => .bind (by grind) fun _ => .spanFrom (fun _ => rfl) fun _ => rfl
  refine .bind (by grind) fun _ => .ite ?_ ?_
  · exact .bind (by grind) fun _ => .bind (by grind) fun _ => .bind (by grind) fun _ =>
      .bind (by grind) fun _ => .pure rfl
  refine .bind (by grind) fun _ => .ite ?_ ?_
  · exact .bind (by grind) fun _ => .bind (by grind) fun _ => .bind (by grind) fun _ =>
      .bind (by grind) fun _ => .bind (by grind) fun _ => .pure rfl
  refine .bind (by grind) fun _ => .bind (by grind) fun _ => .ite ?_ ?_
  · exact .bind (by grind) fun _ => exportNames_completes s₀ true
  refine .bind (by grind) fun _ => .bind (by grind) fun _ => .ite ?_ ?_
  · exact .bind (by grind) fun _ => exportAll_completes s₀ true
  · exact exportDeclaration_completes hrun s₀

/-! ## All statements -/

omit hrun in
/-- A punctuator that is there is eaten. -/
lemma eatPunct_eq {p : String} {s s' : State text} {ctx : Context} {eaten : Bool}
    (hat : s.token.kind = .punct p) (h : eatPunct p ctx s = some (eaten, s')) : eaten = true := by
  obtain ⟨there, s₁, hthere, hrest⟩ := bind_eq_some.mp h
  obtain ⟨kind, s₂, hkind, hpure⟩ := bind_eq_some.mp hthere
  cases hkind
  rw [hat] at hpure
  cases hpure
  rw [beq_self_eq_true, if_pos rfl] at hrest
  obtain ⟨_, s₃, -, hpure⟩ := bind_eq_some.mp hrest
  cases hpure
  rfl

/-- Decorators, where the first one starts. -/
lemma decorators_opened {s s' : State text} {ctx : Context} {any : Bool} (hs : s.Ordered)
    (hat : s.token.kind = .punct "@") (h : decorators run ctx s = some (any, s')) :
    Opened s s' := by
  have hproceeds := hrun.proceeds
  obtain ⟨_, _, ⟨⟩, hloop⟩ := bind_eq_some.mp h
  clear h
  generalize ctx.limit = n at hloop
  cases n with
  | zero => cases hloop
  | succ n =>
    obtain ⟨result, s₁, hround, hrest⟩ := bind_eq_some.mp hloop
    obtain ⟨eaten, s₂, heat, hread⟩ := bind_eq_some.mp hround
    have heaten : eaten = true := eatPunct_eq hat heat
    subst heaten
    have hopened := eatPunct_opened hs heat
    have hround := (show Parser.Proceeds _ by grind) hopened.ordered hread
    have hopened := hopened.spans hround
    refine hopened.spans ((show Parser.Proceeds _ from ?_) hopened.ordered hrest)
    cases result with
    | inl any => exact .repeatFor (fun _ => by grind) n any
    | inr any => exact .pure any

/-- The edits of a decorated export start with its decorators. -/
lemma decoratedStatement_spans {s s' : State text} {ctx : Context} {item : Item text}
    (hs : s.Ordered) (hat : s.token.kind = .punct "@")
    (h : decoratedStatement run ctx s = some (item, s')) : Spans s (itemEdits item) s' := by
  have hproceeds := hrun.proceeds
  obtain ⟨_, _, ⟨⟩, hrest⟩ := bind_eq_some.mp h
  obtain ⟨any, s₁, hdecorators, hrest⟩ := bind_eq_some.mp hrest
  have hopened := decorators_opened hrun hs hat hdecorators
  obtain ⟨isExport, s₂, hexport, hrest⟩ := bind_eq_some.mp hrest
  have hopened := hopened.spans (atWord_proceeds _ hopened.ordered hexport)
  split at hrest
  · refine exportStatement_spans hrun (fun u s₃ htake => ?_) hrest
    exact hopened.spans (takeKeyword_proceeds hopened.ordered htake)
  · obtain ⟨name, s₃, hclass, hpure⟩ := bind_eq_some.mp hrest
    cases hpure
    have hclass := (classDeclaration_takes hrun false).proceeds hopened.ordered hclass
    exact (hopened.spans hclass).forget

omit hrun in
/-- Looking ahead leaves the state as it is. -/
lemma looksLike_state {p : Parser text Bool} {ctx : Context} {s s' : State text} {there : Bool}
    (h : looksLike p ctx s = some (there, s')) : s' = s := by
  unfold looksLike at h
  split at h <;> cases h <;> rfl

omit hrun in
/-- A statement without edits. -/
lemma Parser.Yields.other {p : Parser text Unit} (hp : p.Proceeds) :
    Parser.Yields itemEdits (do p; pure (Item.other : Item text)) := by
  intro ctx s item s' hs h
  obtain ⟨_, s₁, hrun₁, hpure⟩ := bind_eq_some.mp h
  cases hpure
  exact hp hs hrun₁

/-- A statement of any kind, with its edits. -/
lemma anyStatement_yields (single : Bool) : (anyStatement run single).Yields itemEdits := by
  have hproceeds := hrun.proceeds
  intro ctx s item s' hs h
  obtain ⟨_, _, ⟨⟩, hrest⟩ := bind_eq_some.mp h
  generalize hat : s.token.kind = kind at hrest
  split at hrest
  · exact Parser.Yields.other hproceeds.block hs hrest
  · exact Parser.Yields.other .advance hs hrest
  · exact decoratedStatement_spans hrun hs hat hrest
  · rename_i w escaped
    have hsolid : s.token.kind.isSolid = true := by
      rw [hat]
      rfl
    by_cases hexport : w = "export"
    · rw [if_pos hexport] at hrest
      obtain ⟨_, _, ⟨⟩, hrest⟩ := bind_eq_some.mp hrest
      exact exportStatement_spans hrun (fun _ _ h => takeKeyword_opened hs hsolid h) hrest
    · rw [if_neg hexport] at hrest
      obtain ⟨expression, s₁, hlook, hread⟩ := bind_eq_some.mp hrest
      obtain rfl := looksLike_state hlook
      split at hread
      · exact importStatement_spans hs hsolid hread
      · exact Parser.Yields.other (by grind) hs hread
  · exact Parser.Yields.other (by grind) hs hrest

end

/-! ## Goals -/

/-- What takes a token at one depth of nesting takes one at the next depth. -/
lemma Runner.Takes.step {run : Runner text} (hrun : run.Takes) : run.step.Takes := by
  have hproceeds := hrun.proceeds
  refine ⟨.of_goals (fun g => ?_) hproceeds.literal.step, unaryExpression_takes hrun,
    binaryExpression_takes hrun, assignmentExpression_takes hrun, blockStatement_takes hrun,
    classRest_takes hrun⟩
  cases g with
  | expression => exact commaExpression_proceeds hproceeds
  | assignment arrowTypes => exact assignmentExpression_proceeds hproceeds arrowTypes
  | binary level => exact binaryExpression_proceeds hproceeds level
  | unary => exact unaryExpression_proceeds hproceeds
  | leftHandSide => exact leftHandSide_proceeds hproceeds
  | statement single => exact (anyStatement_yields hrun single).proceeds
  | block => exact blockStatement_proceeds hproceeds
  | pattern => exact bindingPattern_proceeds hproceeds
  | parameters => exact formalParameters_proceeds hproceeds
  | classDefinition => exact classRest_proceeds hproceeds
  | type => exact anyType_proceeds hproceeds

/-- Reading goals goes on, at any depth of nesting. -/
lemma Runner.takes_upTo (depth : Nat) : (Runner.upTo text depth).Takes := by
  induction depth with
  | zero =>
    exact ⟨.of_goals (fun _ => .fail) (Runner.literal_upTo text 0), .fail, fun _ => .fail,
      fun _ => .fail, .fail, .fail⟩
  | succ depth ih => exact ih.step

/-- The edits of a statement fit between its first and its last token. -/
lemma Runner.statement_yields (depth : Nat) (single : Bool) :
    Parser.Yields (α := Item text) itemEdits (Runner.upTo text depth (.statement single)) := by
  cases depth with
  | zero => exact fun _ _ _ _ _ h => nomatch h
  | succ depth => exact anyStatement_yields (Runner.takes_upTo depth) single

/-! ## Scripts -/

/-- The places of the first state are in order. -/
lemma Program.initial_ordered (text : List Char) : (Program.initial text).Ordered := by
  refine ⟨le_tokenAt _, Place.le_skip _ _, fun h => ?_⟩
  obtain ⟨hlength, hrest⟩ := tokenAt_solid _ h
  exact Place.lt_skip hlength hrest

/-- The statements of the top level, with their edits. -/
lemma Program.statements_yields (depth : Nat) :
    (Program.statements (Runner.upTo text depth)).Yields fun items => items.flatMap itemEdits := by
  intro ctx s items s' hs h
  have hstart : Spans s (([] : List (Item text)).reverse.flatMap itemEdits) s := .refl hs
  refine Spans.iterate (fun acc : List (Item text) => acc.reverse.flatMap itemEdits) _
    (fun s₀ ctx acc s₁ r s₂ hspans hround => ?_) hstart h
  obtain ⟨atEnd, s₃, hend, hrest⟩ := bind_eq_some.mp hround
  have hlook := hspans.trans (atEnd_proceeds hspans.ordered hend)
  rw [List.append_nil] at hlook
  split at hrest
  · cases hrest
    exact hlook
  · obtain ⟨item, s₄, hitem, hpure⟩ := bind_eq_some.mp hrest
    cases hpure
    have hnext := hlook.trans (Runner.statement_yields depth false hlook.ordered hitem)
    have hround (item : Item text)
        (h : Spans s₀ (acc.reverse.flatMap itemEdits ++ itemEdits item) s₂) :
        Spans s₀ ((item :: acc).reverse.flatMap itemEdits) s₂ := by
      rwa [List.reverse_cons, List.flatMap_append, List.flatMap_singleton]
    exact hround item hnext

/-- The edits of a script that is read are apart or nested. -/
theorem Program.nests_of_parse {typescript : Bool} {program : Program text}
    (h : Program.parse typescript text = some program) :
    ∃ lo hi, Fits lo hi (program.items.flatMap itemEdits ++ program.sites.map siteEdit) := by
  unfold Program.parse at h
  simp only [Option.bind_eq_bind, Option.bind_eq_some_iff] at h
  obtain ⟨⟨items, s⟩, hstatements, hrest⟩ := h
  split at hrest
  · cases hrest
  · cases hrest
    have hspans := Program.statements_yields _ (Program.initial_ordered text) hstatements
    obtain ⟨found, hfound, hfits⟩ := hspans.found
    rw [show (Program.initial text).sites = [] from rfl, List.append_nil] at hfound
    subst hfound
    refine ⟨_, _, hfits.perm (.append_left _ (.map _ s.sites.reverse_perm.symm))⟩

end LiveBundle.Script
