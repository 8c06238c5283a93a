import LiveBundle.Proofs.Script.Literals

/-!
# Scripts without types

A script without types is read by productions that know about types and do not use them. Nothing in
its statements is meant for types only.

* `Parser.Plainly`: what holds of all results where types are no part of the language.
* `anyStatement_plainly`: a statement of any kind.
* `Program.untyped_of_parse`: the statements of a script that is read.
-/

namespace LiveBundle.Script

open LiveBundle.Script.Parser

variable {text : List Char} {α β σ : Type}

/-! ## Statements without types -/

/-- Nothing in a statement is meant for types only. -/
def Item.Untyped : Item text → Prop
  | .typeOnly _ | .exportDefaultErased _ | .unsupported _ => False
  | .exportFrom _ _ names | .exportList _ names => ∀ n ∈ names, n.typeOnly = false
  | .exportDeclaration _ _ declaration => declaration.names? ≠ none
  | _ => True

/-! ## Parsers without types -/

namespace Parser

/-- All results have a property, where types are no part of the language. -/
def Plainly (P : α → Prop) (p : Parser text α) : Prop :=
  ∀ ⦃ctx s a s'⦄, ctx.typescript = false → p ctx s = some (a, s') → P a

namespace Plainly

variable {P : α → Prop}

/-- What holds of all results holds of those without types. -/
lemma of_gives {p : Parser text α} (h : p.Gives P) : p.Plainly P := fun _ _ _ _ _ hrun => h hrun

lemma pure {a : α} (h : P a) : (Pure.pure a : Parser text α).Plainly P := .of_gives (.pure h)

lemma fail : (Parser.fail : Parser text α).Plainly P := .of_gives .fail

/-- It is enough that the last step has results with the property. -/
lemma bind {p : Parser text β} {f : β → Parser text α} (hf : ∀ b, (f b).Plainly P) :
    (p >>= f).Plainly P := by
  intro ctx s a s' hplain hrun
  obtain ⟨b, s₁, -, hrest⟩ := bind_eq_some.mp hrun
  exact hf b hplain hrest

/-- What is known of the first result may be used. -/
lemma bind_of {Q : β → Prop} {p : Parser text β} {f : β → Parser text α} (hp : p.Plainly Q)
    (hf : ∀ b, Q b → (f b).Plainly P) : (p >>= f).Plainly P := by
  intro ctx s a s' hplain hrun
  obtain ⟨b, s₁, hfirst, hrest⟩ := bind_eq_some.mp hrun
  exact hf b (hp hplain hfirst) hplain hrest

/-- The surroundings know no types. -/
lemma bind_context {f : Context → Parser text α}
    (hf : ∀ ctx, ctx.typescript = false → (f ctx).Plainly P) :
    (Parser.context >>= f).Plainly P := by
  intro ctx s a s' hplain hrun
  obtain ⟨_, _, ⟨⟩, hrest⟩ := bind_eq_some.mp hrun
  exact hf ctx hplain hplain hrest

/-- On both ways the property holds. -/
lemma ite {c : Prop} [Decidable c] {p q : Parser text α} (hp : p.Plainly P) (hq : q.Plainly P) :
    (if c then p else q).Plainly P := by
  split
  · exact hp
  · exact hq

/-- What only types have is not read. -/
lemma otherwise {c : Prop} [Decidable c] {p q : Parser text α} (hc : ¬c) (hq : q.Plainly P) :
    (if c then p else q).Plainly P := by
  rw [if_neg hc]
  exact hq

/-- A loop, with what is known of its value between the rounds. -/
lemma iterate {I : σ → Prop} {start : σ} {step : σ → Parser text (σ ⊕ α)} (hstart : I start)
    (hstep : ∀ acc, I acc → (step acc).Plainly (Sum.elim I P)) :
    (Parser.iterate start step).Plainly P := by
  refine .bind fun ctx => ?_
  generalize ctx.limit = n
  induction n generalizing start with
  | zero => exact fail
  | succ n ih =>
    refine .bind_of (hstep start hstart) fun result hresult => ?_
    cases result with
    | inl acc => exact ih hresult
    | inr a => exact .pure hresult

/-- A list in which each element has a property. -/
lemma commaList {item : Parser text α} (close : String) (hitem : item.Plainly P) :
    (Parser.commaList close item).Plainly fun r => ∀ a ∈ r.1, P a := by
  refine .iterate (I := fun acc => ∀ a ∈ acc.1, P a) (fun _ h => absurd h List.not_mem_nil)
    fun (acc, comma) hacc => ?_
  have hreverse {as : List α} (h : ∀ a ∈ as, P a) : ∀ a ∈ as.reverse, P a :=
    fun a ha => h a (List.mem_reverse.mp ha)
  refine .bind fun there => .ite (.pure (hreverse hacc)) (.bind_of hitem fun a ha => ?_)
  have hcons : ∀ x ∈ a :: acc, P x := by
    rintro x (_ | ⟨_, hx⟩)
    exacts [ha, hacc x hx]
  exact .bind fun eaten => .ite (.pure hcons) (.bind fun _ => .bind fun _ => .pure (hreverse hcons))

end Plainly

end Parser

/-! ## Module statements -/

/-- In braces, `type` is a name. -/
lemma bracedName_plainly :
    (bracedName : Parser text BracedName).Plainly fun n => n.typeOnly = false := by
  have halias (front : String) (frontIsWord : Bool) :
      (bracedName.withAlias front false frontIsWord : Parser text BracedName).Plainly
        fun n => n.typeOnly = false :=
    .bind fun _ => .ite (.bind fun _ => .bind fun _ => .pure rfl) (.pure rfl)
  refine .bind fun frontIsWord => .bind_context fun ctx hctx => .bind fun typed => ?_
  rw [hctx, Bool.false_and]
  exact .bind fun front => .bind fun _ => .bind fun _ => halias front frontIsWord

/-- Without types there is no import of types. -/
lemma startsTypeImport_plainly :
    (startsTypeImport : Parser text Bool).Plainly fun typeOnly => typeOnly = false :=
  .bind_context fun _ hctx => .bind fun _ => .otherwise (by simp [hctx]) (.pure rfl)

/-- Without types an import binds values. -/
lemma importStatement_plainly :
    (importStatement : Parser text (Item text)).Plainly Item.Untyped := by
  refine .bind fun start => .bind fun _ => .bind fun kind => ?_
  split
  · exact .bind fun _ => .bind fun _ => .bind fun _ => .bind fun _ => .pure trivial
  · refine .bind_of startsTypeImport_plainly fun typeOnly hall => ?_
    subst hall
    repeat' first
      | exact .pure trivial
      | with_reducible refine .bind_context fun _ hctx => ?_
      | with_reducible refine .bind fun _ => ?_
      | split
    -- An import that is an assignment is read with types only.
    all_goals simp_all

/-- Without types an export of names is one of values. -/
lemma exportNames_plainly (start : Place text) :
    (exportNames start false).Plainly Item.Untyped := by
  refine .bind fun _ => .bind_of (.commaList "\x7d" bracedName_plainly) fun (names, comma) hnames =>
    .bind fun _ => .bind fun source => ?_
  have hall : ∀ n ∈ names.map fun n => (⟨n.front, n.back.getD n.front, n.typeOnly⟩ : ExportName),
      n.typeOnly = false := by
    intro n hn
    obtain ⟨braced, hbraced, rfl⟩ := List.mem_map.mp hn
    exact hnames braced hbraced
  refine .ite (.bind fun specifier => .bind fun span => .pure hall) ?_
  exact .bind fun _ => .bind fun _ => .bind fun _ => .bind fun span => .pure hall

lemma exportAll_plainly (start : Place text) : (exportAll start false).Plainly Item.Untyped :=
  .bind fun _ => .bind fun _ => .ite
    (.bind fun _ => .bind fun _ => .bind fun _ => .pure trivial)
    (.bind fun _ => .bind fun _ => .bind fun _ => .pure trivial)

/-! ### Exports with a declaration -/

lemma exportDefaultDeclared_plainly (start inner : Place text) (name : Option String) :
    (exportDefaultDeclared start inner name).Plainly Item.Untyped := by
  cases name with
  | some name => exact .pure trivial
  | none => exact .bind fun _ => .pure trivial

variable (run : Runner text)

/-- Without types a default export is no interface. -/
lemma exportDefault_plainly (start : Place text) :
    (exportDefault run start).Plainly Item.Untyped := by
  have hdeclared (inner : Place text) (name : Option String) :=
    exportDefaultDeclared_plainly start inner name
  refine .bind fun _ => .bind_context fun ctx hctx => .bind fun inner => .bind fun class_ =>
    .bind fun decorated => .bind fun abstract => .bind fun next => .ite ?_ ?_
  · exact .bind fun _ => .bind fun name => hdeclared inner name
  · refine .bind fun interface => .bind fun named => .otherwise (by simp [hctx]) ?_
    refine .bind fun function => .ite (.bind fun name => hdeclared inner name) ?_
    exact .bind fun _ => .bind fun _ => .pure trivial

/-- Without types every declaration binds names. -/
lemma declaration_plainly :
    (declaration run).Plainly fun declaration => declaration.names? ≠ none := by
  refine .bind_context fun ctx hctx => .bind fun function => .ite (.bind fun name => ?_) ?_
  · cases name with
    | none => exact .fail
    | some name => exact .pure nofun
  refine .bind fun class_ => .bind fun decorated => .bind fun abstract => .bind fun next =>
    .ite (.bind fun _ => .bind fun name => ?_) ?_
  · cases name with
    | none => exact .fail
    | some name => exact .pure nofun
  have hvariables (kind : VariableKind) :
      (variableStatement run kind).Plainly fun declaration => declaration.names? ≠ none :=
    .bind fun ds => .bind fun _ => .bind fun _ => .pure nofun
  refine .bind fun const => .bind fun enum => .otherwise (by simp [hctx]) (.bind fun declares =>
    .ite (.bind fun var => .bind fun let_ => .ite ?_ (.ite ?_ ?_))
      (.otherwise (by simp [hctx]) .fail))
  all_goals exact .bind fun kind => .bind fun _ => hvariables kind

/-- Without types nothing is only described. -/
lemma describedDeclaration_plainly :
    (describedDeclaration run).Plainly fun r => r.1.names? ≠ none ∧ r.2 = false :=
  .bind_context fun _ hctx => .bind fun _ => .bind fun _ => .otherwise (by simp [hctx])
    (.bind_of (declaration_plainly run) fun _ hnames => .pure ⟨hnames, rfl⟩)

lemma exportDeclaration_plainly (start : Place text) :
    (exportDeclaration run start).Plainly Item.Untyped := by
  refine .bind fun inner => .bind_of (describedDeclaration_plainly run)
    fun (declaration, described) ⟨hnames, hdescribed⟩ => .bind fun span => .pure ?_
  cases hdescribed
  exact hnames

/-- Without types every export is one of values. -/
lemma exportStatement_plainly (start : Place text) :
    (exportStatement run start).Plainly Item.Untyped := by
  refine .bind fun _ => .bind_context fun ctx hctx => .bind fun default =>
    .ite (exportDefault_plainly run start) ?_
  refine .bind fun star => .ite (exportAll_plainly start) ?_
  refine .bind fun brace => .ite (exportNames_plainly start) ?_
  refine .bind fun import_ => .otherwise (by simp [hctx]) ?_
  refine .bind fun assign => .otherwise (by simp [hctx]) ?_
  refine .bind fun as_ => .otherwise (by simp [hctx]) ?_
  refine .bind fun type => .bind fun brace => .otherwise (by simp [hctx]) ?_
  refine .bind fun type => .bind fun star => .otherwise (by simp [hctx]) ?_
  exact exportDeclaration_plainly run start

/-! ## All statements -/

/-- Decorators stand in front of an export or a class. -/
lemma decoratedStatement_plainly : (decoratedStatement run).Plainly Item.Untyped :=
  .bind fun start => .bind fun _ => .bind fun _ => .ite (exportStatement_plainly run start)
    (.bind fun _ => .pure trivial)

/-- No statement is one of types. -/
lemma anyStatement_plainly (single : Bool) : (anyStatement run single).Plainly Item.Untyped := by
  have hother {p : Parser text Unit} : Plainly Item.Untyped (do
      p
      pure (Item.other : Item text)) := .bind fun _ => .pure trivial
  refine .bind fun kind => ?_
  split
  · exact hother
  · exact hother
  · exact decoratedStatement_plainly run
  · exact .ite (.bind fun start => exportStatement_plainly run start)
      (.bind fun _ => .ite importStatement_plainly hother)
  · exact hother

/-- No statement is one of types, however deep it could nest. -/
lemma Runner.statement_plainly (depth : Nat) (single : Bool) :
    Parser.Plainly (α := Item text) Item.Untyped (Runner.upTo text depth (.statement single)) := by
  cases depth with
  | zero => exact .fail
  | succ depth => exact anyStatement_plainly (Runner.upTo text depth) single

/-! ## Scripts -/

/-- The statements of the top level, without types. -/
lemma Program.statements_plainly (depth : Nat) :
    (statements (Runner.upTo text depth)).Plainly fun items => ∀ item ∈ items, item.Untyped := by
  refine .iterate (I := fun items => ∀ item ∈ items, item.Untyped)
    (fun _ h => absurd h List.not_mem_nil) fun acc hacc => .bind fun atEnd => .ite (.pure ?_) ?_
  · exact fun item hitem => hacc item (List.mem_reverse.mp hitem)
  · refine .bind_of (Runner.statement_plainly depth false) fun item hitem => .pure ?_
    rintro x (_ | ⟨_, hx⟩)
    exacts [hitem, hacc x hx]

/-- Without types, nothing in the statements of a script is meant for types only. -/
lemma Program.untyped_of_parse {program : Program text}
    (h : Program.parse false text = some program) : ∀ item ∈ program.items, item.Untyped := by
  unfold Program.parse at h
  simp only [Option.bind_eq_bind, Option.bind_eq_some_iff] at h
  obtain ⟨⟨items, s⟩, hstatements, hrest⟩ := h
  split at hrest
  · cases hrest
  · cases hrest
    exact Program.statements_plainly _ rfl hstatements

end LiveBundle.Script
