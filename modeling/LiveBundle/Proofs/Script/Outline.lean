import LiveBundle.Proofs.Script.ModuleStatements
import LiveBundle.Proofs.Script.Sorts

/-!
# The statements of a script, one after the other

Each statement of the top level has a range of its own. Its edits start at the start of the range,
or end the statement; no other edit of the script, whether of a statement or of a site, reaches over
that place. What becomes of the statement as a whole depends on its sort.

* `Statement` is a statement with its sort and range, `Program.outline?` reads them.
* `Statement.Told` says what the sort tells: which statements are dropped, and which refused.
* `Item.Matches` says the same of a statement that is read from one place to another;
  `Sorting.statement_matches` holds for all of them.
* `Program.outline_of_parse`: the statements of a script that is read.
-/

namespace LiveBundle

open ModuleSyntax (siteEdit itemEdits editOf)

/-- An edit does not start behind the start of another one and in its range. -/
def Edit.StartsOutside (a b : Edit) : Prop := a.start ≤ b.start ∨ b.stop ≤ a.start

instance (a b : Edit) : Decidable (a.StartsOutside b) := inferInstanceAs (Decidable (_ ∨ _))

/-- Whether an edit drops its range. -/
def Edit.isRemoval (e : Edit) : Bool := e.replacement = .remove

namespace Script

open LiveBundle.Script.Parser

variable {text : List Char} {α β σ : Type}

/-- A statement of the top level, with its sort and the range from its first to its last token. -/
structure Statement (text : List Char) where
  item : Item text
  sort : StatementSort
  range : Span text

/-- Where a statement for which a module is refused starts. -/
def Item.refusedAt? : Item text → Option Nat
  | .unsupported span => some span.start
  | _ => none

/-- What the sort of a statement tells: whether it is dropped, as a whole, and whether the module is
refused for it, at its start. -/
structure Statement.Told (st : Statement text) : Prop where
  removed : (itemEdits st.item).filter Edit.isRemoval =
    if st.sort.isDropped then [editOf st.range .remove] else []
  refused : st.item.refusedAt? = if st.sort.isRefused then some st.range.start else none

/-- The sort of a statement that stands between two places. -/
structure Item.Matches (start stop : Place text) (sort : StatementSort) (item : Item text) :
    Prop where
  edges : ∀ e ∈ itemEdits item, e.start = start.offset ∨ stop.offset ≤ e.start
  told : Statement.Told ⟨item, sort, start.spanTo stop⟩

/-- A span starts at its first place, wherever the second one is. -/
lemma Place.start_spanTo (a b : Place text) : (a.spanTo b).start = a.offset := by
  unfold Place.spanTo
  split <;> rfl

/-! ## Statements between two places -/

namespace Item.Matches

variable {start stop : Place text} {sort : StatementSort} {item : Item text}

/-- A statement that is none of a module has no edits and stays. -/
lemma other (start stop : Place text) : (Item.other : Item text).Matches start stop .other :=
  ⟨fun _ h => absurd h List.not_mem_nil, ⟨rfl, rfl⟩⟩

/-- A statement that is refused. -/
lemma refused (start stop : Place text) (hsort : sort.isRefused = true)
    (hstays : sort.isDropped = false) :
    (Item.unsupported (start.spanTo stop)).Matches start stop sort := by
  refine ⟨fun _ h => absurd h List.not_mem_nil, ⟨?_, ?_⟩⟩
  · rw [hstays]
    rfl
  · rw [hsort]
    rfl

/-- A statement that is dropped. -/
lemma removed (hedits : itemEdits item = [editOf (start.spanTo stop) .remove])
    (hitem : item.refusedAt? = none) (hsort : sort.isRefused = false)
    (hdropped : sort.isDropped = true) : item.Matches start stop sort := by
  refine ⟨fun e he => .inl ?_, ⟨?_, ?_⟩⟩
  · rw [hedits] at he
    cases List.mem_singleton.mp he
    exact Place.start_spanTo start stop
  · rw [hedits, hdropped]
    rfl
  · rw [hitem, hsort]
    rfl

/-- A statement that stays, with edits of its own. -/
lemma stays (hedges : ∀ e ∈ itemEdits item, e.start = start.offset ∨ stop.offset ≤ e.start)
    (hedits : ∀ e ∈ itemEdits item, e.isRemoval = false) (hitem : item.refusedAt? = none)
    (hsort : sort.isRefused = false) (hstays : sort.isDropped = false) :
    item.Matches start stop sort := by
  refine ⟨hedges, ⟨?_, ?_⟩⟩
  · rw [hstays, List.filter_eq_nil_iff.mpr fun e he => by rw [hedits e he]; exact nofun]
    rfl
  · rw [hitem, hsort]
    rfl

/-- A statement that stays, with one edit. -/
lemma stays_of_edit {span : Span text} {r : Replacement} (hstart : span.start = start.offset)
    (hedits : itemEdits item = [editOf span r]) (hr : r ≠ .remove) (hitem : item.refusedAt? = none)
    (hsort : sort.isRefused = false) (hstays : sort.isDropped = false) :
    item.Matches start stop sort := by
  refine .stays (fun e he => .inl ?_) (fun e he => ?_) hitem hsort hstays
  all_goals
    rw [hedits] at he
    cases List.mem_singleton.mp he
  · exact hstart
  · exact decide_eq_false hr

end Item.Matches

/-! ## Parsers that end at a place -/

namespace Parser

/-- All results fit to the place where reading ends. -/
def Ends (P : Place text → α → Prop) (p : Parser text α) : Prop :=
  ∀ ⦃ctx s a s'⦄, p ctx s = some (a, s') → P s'.previous a

namespace Ends

variable {P : Place text → α → Prop}

/-- What is given fits wherever reading ends. -/
lemma pure {a : α} (h : ∀ stop, P stop a) : (Pure.pure a : Parser text α).Ends P := by
  rintro ctx s _ s' ⟨⟩
  exact h s.previous

/-- It is enough that the results of the last step fit. -/
lemma bind {p : Parser text β} {f : β → Parser text α} (hf : ∀ b, (f b).Ends P) :
    (p >>= f).Ends P := by
  intro ctx s a s' hrun
  obtain ⟨b, s₁, -, hrest⟩ := bind_eq_some.mp hrun
  exact hf b hrest

/-- What is known of the first result may be used. -/
lemma bind_of {Q : β → Prop} {p : Parser text β} {f : β → Parser text α} (hp : p.Gives Q)
    (hf : ∀ b, Q b → (f b).Ends P) : (p >>= f).Ends P := by
  intro ctx s a s' hrun
  obtain ⟨b, s₁, hfirst, hrest⟩ := bind_eq_some.mp hrun
  exact hf b (hp hfirst) hrest

/-- On both ways the results fit. -/
lemma ite {c : Prop} [Decidable c] {p q : Parser text α} (hp : p.Ends P) (hq : q.Ends P) :
    (if c then p else q).Ends P := by
  split
  · exact hp
  · exact hq

/-- The result depends on the range of all that was read. -/
lemma spanFrom {start : Place text} {f : Span text → Parser text α} {a : Span text → α}
    (hf : ∀ span, f span = Pure.pure (a span)) (h : ∀ stop, P stop (a (start.spanTo stop))) :
    (Parser.spanFrom start >>= f).Ends P := by
  intro ctx s b s' hrun
  obtain ⟨span, s₁, hspan, hrest⟩ := bind_eq_some.mp hrun
  cases hspan
  rw [hf] at hrest
  cases hrest
  exact h s.previous

end Ends

/-- A statement that is read matches its sort. -/
abbrev Sorts (start : Place text) (p : Parser text (Item text × StatementSort)) : Prop :=
  p.Ends fun stop r => r.1.Matches start stop r.2

end Parser

namespace Sorting

/-! ## Module statements -/

/-- A statement that fits to a sort may be given with it. -/
lemma tag_sorts {start : Place text} {sort : StatementSort} {p : Parser text (Item text)}
    (h : p.Ends fun stop item => item.Matches start stop sort) : (tag sort p).Sorts start := by
  intro ctx s r s' hrun
  obtain ⟨item, s₁, hitem, hpure⟩ := bind_eq_some.mp hrun
  cases hpure
  exact h hitem

/-- An import that is read fits to its sort. -/
lemma importStatement_sorts {ctx : Context} {s s' : State text}
    {r : Item text × StatementSort} (hrun : importStatement ctx s = some (r, s')) :
    r.1.Matches s.start s'.previous r.2 := by
  obtain ⟨_, _, ⟨⟩, hrest⟩ := bind_eq_some.mp hrun
  revert hrest
  suffices hsorts : Parser.Sorts s.start _ from fun h => hsorts h
  refine .bind fun _ => .bind fun kind => ?_
  have himport (typeOnly : Bool) (default : Option String) : Parser.Sorts s.start (do
      let clause ← importClause default
      let specifier ← fromClause
      let span ← spanFrom s.start
      pure (if typeOnly then Item.typeOnly span else .importing span specifier clause,
        StatementSort.imports typeOnly) : Parser text _) := by
    refine .bind fun clause => .bind fun specifier => .spanFrom (fun _ => rfl) fun stop => ?_
    cases typeOnly
    · exact .stays_of_edit (Place.start_spanTo _ _) rfl nofun rfl rfl rfl
    · exact .removed rfl rfl rfl rfl
  split
  · exact .bind fun _ => .bind fun _ => .bind fun _ => .spanFrom (fun _ => rfl) fun stop =>
      .stays_of_edit (Place.start_spanTo _ _) rfl nofun rfl rfl rfl
  · repeat' first
      | with_reducible exact himport _ _
      | exact .spanFrom (fun _ => rfl) fun stop => .refused _ _ rfl rfl
      | with_reducible refine .bind fun _ => ?_
      | with_reducible refine .ite ?_ ?_

/-- An export of names is dropped if it is one of types, and rewritten as a whole otherwise. -/
lemma exportNames_ends (start : Place text) (typeOnly : Bool) :
    (exportNames start typeOnly).Ends fun stop item =>
      item.Matches start stop (.exports typeOnly) := by
  refine .bind fun _ => .bind fun names => .bind fun _ => .bind fun source =>
    .ite (.bind fun specifier => ?_) (.bind fun _ => .bind fun _ => .bind fun _ => ?_)
  all_goals
    refine .spanFrom (fun _ => rfl) fun stop => ?_
    cases typeOnly
    · exact .stays_of_edit (Place.start_spanTo _ _) rfl nofun rfl rfl rfl
    · exact .removed rfl rfl rfl rfl

/-- An export of all names is dropped or rewritten as a whole. -/
lemma exportAll_ends (start : Place text) (typeOnly : Bool) :
    (exportAll start typeOnly).Ends fun stop item =>
      item.Matches start stop (.exports typeOnly) := by
  have hend (exported : Option String) : Parser.Ends
      (fun stop item => item.Matches start stop (.exports typeOnly)) (do
        let specifier ← fromClause
        let span ← spanFrom start
        pure (if typeOnly then Item.typeOnly span else .exportAll span specifier exported) :
          Parser text (Item text)) := by
    refine .bind fun specifier => .spanFrom (fun _ => rfl) fun stop => ?_
    cases typeOnly
    · cases exported <;> exact .stays_of_edit (Place.start_spanTo _ _) rfl nofun rfl rfl rfl
    · exact .removed rfl rfl rfl rfl
  exact .bind fun _ => .bind fun renamed => .ite (.bind fun _ => hend _) (.bind fun _ => hend _)

/-! ### Exports with a declaration -/

/-- A default declaration stays, without the words in front. -/
lemma exportDefaultDeclared_ends (start inner : Place text) (name : Option String) :
    (exportDefaultDeclared start inner name).Ends fun stop item =>
      item.Matches start stop (.exportDefault false) := by
  cases name with
  | some name =>
    exact .pure fun stop => .stays_of_edit (Place.start_spanTo _ _) rfl nofun rfl rfl rfl
  | none =>
    -- The second edit stands where reading ends.
    intro ctx s item s' hrun
    obtain ⟨_, _, ⟨⟩, ⟨⟩⟩ := bind_eq_some.mp hrun
    refine .stays (fun e he => ?_) (fun e he => ?_) rfl rfl rfl
    · rcases List.mem_cons.mp he with rfl | he
      · exact .inl (Place.start_spanTo _ _)
      · cases List.mem_singleton.mp he
        exact .inr (Nat.le_of_eq (Place.start_spanTo _ _).symm)
    · rcases List.mem_cons.mp he with rfl | he
      · rfl
      · cases List.mem_singleton.mp he
        rfl

variable (run : Runner text)

/-- A default export fits to its sort. -/
lemma exportDefault_sorts (start : Place text) : (exportDefault run start).Sorts start := by
  have hdeclared (inner : Place text) (name : Option String) :=
    tag_sorts (exportDefaultDeclared_ends start inner name)
  refine .bind fun _ => .bind fun ctx => .bind fun inner => .bind fun class_ =>
    .bind fun decorated => .bind fun abstract => .bind fun next => .ite ?_ ?_
  · exact .bind fun _ => .bind fun name => hdeclared inner name
  refine .bind fun interface => .bind fun named => .ite ?_ (.bind fun function => .ite ?_ ?_)
  · exact .bind fun _ => .spanFrom (fun _ => rfl) fun stop => .removed rfl rfl rfl rfl
  · exact .bind fun name => hdeclared inner name
  · exact .bind fun _ => .bind fun _ => .pure fun stop =>
      .stays_of_edit (Place.start_spanTo _ _) rfl nofun rfl rfl rfl

/-- A declaration binds names if it is one of values. -/
lemma declaration_gives :
    (declaration run).Gives fun r => r.1.names? = none ↔ r.2 ≠ .value := by
  have hnamed {d : Declaration} (h : d.names? ≠ none) :
      d.names? = none ↔ DeclarationSort.value ≠ .value :=
    iff_of_false h fun hne => hne rfl
  have hvariables (kind : VariableKind) : (tag DeclarationSort.value
      (variableStatement run kind)).Gives fun r => r.1.names? = none ↔ r.2 ≠ .value :=
    .bind_of (Q := fun d => d.names? ≠ none)
      (.bind fun ds => .bind fun _ => .bind fun _ => .pure nofun) fun d hd => .pure (hnamed hd)
  refine .bind fun ctx => ?_
  repeat' first
    | with_reducible exact .fail
    | with_reducible exact hvariables _
    | exact .pure (hnamed nofun)
    | exact .pure (iff_of_true rfl nofun)
    | with_reducible refine .bind fun _ => ?_
    | split

/-- A declaration without names is one that has no value of its own. -/
lemma describedDeclaration_gives :
    (describedDeclaration run).Gives fun r => r.1.1.names? = none ↔ r.2 ≠ .value := by
  have hdeclaration := declaration_gives run
  refine .bind fun ctx => .bind fun _ => .bind fun _ => ?_
  split
  · exact .bind fun _ => .bind_of (fun _ _ _ _ h => hdeclaration h) fun r hr => .pure hr
  · exact .bind_of hdeclaration fun r hr => .pure hr

/-- An exported declaration fits to the sort of what is declared. -/
lemma exportDeclaration_sorts (start : Place text) :
    (exportDeclaration run start).Sorts start := by
  refine .bind fun inner => .bind_of (describedDeclaration_gives run) ?_
  rintro ⟨⟨declaration, described⟩, sort⟩ hnames
  refine .spanFrom (fun _ => rfl) fun stop => ?_
  cases described with
  | true => exact .removed rfl rfl rfl rfl
  | false =>
    simp only [Bool.false_eq_true, if_false]
    cases hdeclared : declaration.names? with
    | none =>
      refine .removed (by simp only [itemEdits, hdeclared]) rfl rfl ?_
      cases sort with
      | value => exact absurd rfl (hnames.mp hdeclared)
      | _ => rfl
    | some names =>
      have hvalue : sort = .value := by
        by_contra hne
        rw [hnames.mpr hne] at hdeclared
        cases hdeclared
      subst hvalue
      have hedits : itemEdits (.exportDeclaration (start.spanTo stop) (start.spanTo inner)
          declaration) = [editOf (start.spanTo inner) (.exportDeclaration names)] := by
        simp only [itemEdits, hdeclared]
      have hkept : Replacement.exportDeclaration names ≠ .remove := Replacement.noConfusion
      exact .stays_of_edit (Place.start_spanTo _ _) hedits hkept rfl rfl rfl

/-- Every export fits to its sort. -/
lemma exportStatement_sorts (start : Place text) : (exportStatement run start).Sorts start := by
  refine .bind fun _ => .bind fun ctx => .bind fun _ => .ite (exportDefault_sorts run start) ?_
  refine .bind fun _ => .ite (tag_sorts (exportAll_ends start false)) ?_
  refine .bind fun _ => .ite (tag_sorts (exportNames_ends start false)) ?_
  refine .bind fun _ => .ite ?_ ?_
  · refine .bind fun _ => .bind fun typeOnly => .bind fun inner => .bind fun _ =>
      .bind fun required => .spanFrom (fun _ => rfl) fun stop => ?_
    cases typeOnly <;> exact .removed rfl rfl rfl rfl
  refine .bind fun _ => .ite ?_ ?_
  · exact .bind fun _ => .bind fun _ => .bind fun _ => .spanFrom (fun _ => rfl) fun stop =>
      .refused _ _ rfl rfl
  refine .bind fun _ => .ite ?_ ?_
  · exact .bind fun _ => .bind fun _ => .bind fun _ => .bind fun _ => .spanFrom (fun _ => rfl)
      fun stop => .refused _ _ rfl rfl
  refine .bind fun _ => .bind fun _ => .ite
    (.bind fun _ => tag_sorts (exportNames_ends start true)) ?_
  refine .bind fun _ => .bind fun _ => .ite
    (.bind fun _ => tag_sorts (exportAll_ends start true)) ?_
  exact exportDeclaration_sorts run start

/-! ## All statements -/

/-- A statement behind decorators fits to its sort, with the decorators in its range. -/
lemma decoratedStatement_sorts {ctx : Context} {s s' : State text}
    {r : Item text × StatementSort} (hrun : decoratedStatement run ctx s = some (r, s')) :
    r.1.Matches s.start s'.previous r.2 := by
  obtain ⟨_, _, ⟨⟩, hrest⟩ := bind_eq_some.mp hrun
  revert hrest
  suffices hsorts : Parser.Sorts s.start _ from fun h => hsorts h
  exact .bind fun _ => .bind fun _ => .ite (exportStatement_sorts run s.start)
    (.bind fun _ => .pure fun stop => .other _ _)

/-- Every statement fits to its sort. -/
lemma anyStatement_sorts {single : Bool} {ctx : Context} {s s' : State text}
    {r : Item text × StatementSort} (hrun : anyStatement run single ctx s = some (r, s')) :
    r.1.Matches s.start s'.previous r.2 := by
  have hother {p : Parser text Unit} : Parser.Sorts s.start (do
      p
      pure (Item.other, StatementSort.other)) := .bind fun _ => .pure fun stop => .other _ _
  obtain ⟨_, _, ⟨⟩, hrest⟩ := bind_eq_some.mp hrun
  generalize s.token.kind = kind at hrest
  split at hrest
  · exact hother hrest
  · exact hother hrest
  · exact decoratedStatement_sorts run hrest
  · rename_i w _
    by_cases hexport : w = "export"
    · rw [if_pos hexport] at hrest
      obtain ⟨_, _, ⟨⟩, hrest⟩ := bind_eq_some.mp hrest
      exact exportStatement_sorts run s.start hrest
    · rw [if_neg hexport] at hrest
      obtain ⟨expression, s₁, hlook, hread⟩ := bind_eq_some.mp hrest
      obtain rfl := looksLike_state hlook
      split at hread
      · exact importStatement_sorts hread
      · exact hother hread
  · exact hother hrest

/-- A statement that is read has its sort. -/
lemma statement_matches {depth : Nat} {ctx : Context} {s s' : State text}
    {r : Item text × StatementSort} (hrun : statement depth ctx s = some (r, s')) :
    r.1.Matches s.start s'.previous r.2 := by
  cases depth with
  | zero => cases hrun
  | succ depth => exact anyStatement_sorts (Runner.upTo text depth) hrun

end Sorting

/-! ## Scripts -/

namespace Program

/-- The statements of the top level, the parts of which nest at most `depth` deep. -/
def outlineFrom (depth : Nat) : Parser text (List (Statement text)) :=
  Parser.iterate [] fun acc => do
    if ← Parser.atEnd then pure (.inr acc.reverse)
    else
      let start ← here
      let (item, sort) ← Sorting.statement depth
      let range ← spanFrom start
      pure (.inl (⟨item, sort, range⟩ :: acc))

/-- Reads the statements of a script, with their sorts and ranges. -/
def outline? (typescript : Bool) (text : List Char) : Option (List (Statement text)) :=
  let limit := text.length + 2
  (outlineFrom (depthPerCharacter * limit) (topLevel typescript limit) (initial text)).map (·.1)

/-- Statements with what is known of them: what their sorts tell, and that the ranges follow each
other. The edits of a statement lie in its range, and no edit that was found reaches over the place
where one of them starts. -/
structure Outlined (outline : List (Statement text)) (sites : List (Site text)) : Prop where
  told : ∀ st ∈ outline, st.Told
  within : ∀ st ∈ outline, ∀ e ∈ itemEdits st.item,
    st.range.start ≤ e.start ∧ e.stop ≤ st.range.stop
  apart : outline.Pairwise fun a b => a.range.stop ≤ b.range.start
  starts : ∀ e ∈ (outline.map (·.item)).flatMap itemEdits,
    ∀ a ∈ (outline.map (·.item)).flatMap itemEdits ++ sites.map siteEdit, e.StartsOutside a

end Program

/-- A span between two places ends at none behind them. -/
lemma Place.stop_spanTo_le {a b : Place text} {n : Nat} (ha : a.offset ≤ n) (hb : b.offset ≤ n) :
    (a.spanTo b).stop ≤ n := by
  unfold Place.spanTo
  split
  · exact hb
  · exact ha

namespace Program

/-- The statements that were read from the first state on. -/
structure Reached (outline : List (Statement text)) (s : State text) : Prop where
  spans : Spans (initial text) ((outline.map (·.item)).flatMap itemEdits) s
  outlined : Outlined outline s.sites
  behind : ∀ st ∈ outline, st.range.stop ≤ s.start.offset

/-- Before the first statement nothing is read. -/
lemma Reached.nil : Reached [] (initial text) :=
  ⟨.refl (initial_ordered text), ⟨fun _ h => absurd h List.not_mem_nil,
    fun _ h => absurd h List.not_mem_nil, .nil, fun _ h => absurd h List.not_mem_nil⟩,
    fun _ h => absurd h List.not_mem_nil⟩

/-- Edits of a statement that is read next, which start where it starts or ends. No edit reaches over
these places, and none of the new edits reaches over the start of one before. -/
lemma startsOutside_append {edits edits' : List Edit} {s s' : State text}
    (hspans : Spans (initial text) edits s) (hspans' : Spans s edits' s')
    (hstarts : ∀ e ∈ edits, ∀ a ∈ edits ++ s.sites.map siteEdit, e.StartsOutside a)
    (hedges : ∀ e ∈ edits', e.start = s.start.offset ∨ s'.previous.offset ≤ e.start) :
    ∀ e ∈ edits ++ edits', ∀ a ∈ edits ++ edits' ++ s'.sites.map siteEdit, e.StartsOutside a := by
  obtain ⟨found, hfound, hfits⟩ := hspans.found
  obtain ⟨found', hfound', hfits'⟩ := hspans'.found
  have hinitial : (initial text).sites = [] := rfl
  rw [hinitial, List.append_nil] at hfound
  have hprevious := hspans.ordered.previous_le
  have hbefore : ∀ a ∈ edits ++ found.map siteEdit, a.stop ≤ s.start.offset :=
    fun a ha => Nat.le_trans (hfits.bounds a ha).2.2 hprevious
  have hcases {a : Edit} (ha : a ∈ edits ++ edits' ++ s'.sites.map siteEdit) :
      a ∈ edits ++ found.map siteEdit ∨ a ∈ edits' ++ found'.map siteEdit := by
    rw [hfound', hfound, List.map_append] at ha
    simp only [List.mem_append] at ha ⊢
    grind
  intro e he a ha
  rcases List.mem_append.mp he with he | he
  · rcases hcases ha with ha | ha
    · exact hstarts e he a (hfound ▸ ha)
    · have hstart := (hfits.bounds e (List.mem_append_left _ he)).2.1
      have hstop := hbefore e (List.mem_append_left _ he)
      have hbehind := (hfits'.bounds a ha).1
      exact .inl (by omega)
  · have hbehind := (hfits'.bounds e (List.mem_append_left _ he)).1
    rcases hcases ha with ha | ha
    · exact .inr (Nat.le_trans (hbefore a ha) hbehind)
    · have hbounds := hfits'.bounds a ha
      rcases hedges e he with hstart | hstop
      · exact .inl (hstart ▸ hbounds.1)
      · exact .inr (Nat.le_trans hbounds.2.2 hstop)

/-- One more statement. -/
lemma Reached.append {outline : List (Statement text)} {s s' : State text} {st : Statement text}
    (h : Reached outline s) (hspans : Spans s (itemEdits st.item) s')
    (hrange : st.range = s.start.spanTo s'.previous)
    (hmatches : st.item.Matches s.start s'.previous st.sort) : Reached (outline ++ [st]) s' := by
  have hedits : ((outline ++ [st]).map (·.item)).flatMap itemEdits =
      (outline.map (·.item)).flatMap itemEdits ++ itemEdits st.item := by simp
  have hall {P : Statement text → Prop} (hbefore : ∀ x ∈ outline, P x) (hlast : P st) :
      ∀ x ∈ outline ++ [st], P x := by
    simpa [or_imp, forall_and] using ⟨hbefore, hlast⟩
  obtain ⟨found, -, hfits⟩ := hspans.found
  refine ⟨hedits ▸ h.spans.trans hspans, ⟨hall h.outlined.told ?_, hall h.outlined.within ?_, ?_, ?_⟩,
    hall (fun x hx => Nat.le_trans (h.behind x hx) hspans.start_le) ?_⟩
  · have htold := hmatches.told
    rwa [← hrange] at htold
  · intro e he
    have hbounds := hfits.bounds e (List.mem_append_left _ he)
    obtain ⟨hstart, hstop⟩ := Place.spanTo_of_le (a := s.start) (b := s'.previous) (by omega)
    rw [hrange, hstart, hstop]
    exact ⟨hbounds.1, hbounds.2.2⟩
  · refine List.pairwise_append.mpr ⟨h.outlined.apart, List.pairwise_singleton _ _, ?_⟩
    intro a ha b hb
    cases List.mem_singleton.mp hb
    rw [hrange, Place.start_spanTo]
    exact h.behind a ha
  · rw [hedits]
    exact startsOutside_append h.spans hspans h.outlined.starts hmatches.edges
  · rw [hrange]
    exact Place.stop_spanTo_le hspans.start_le hspans.ordered.previous_le

/-- From one statement to the next the outline keeps its order. -/
lemma outlineFrom_reached {depth : Nat} {ctx : Context} {outline : List (Statement text)}
    {s : State text} (hrun : outlineFrom depth ctx (initial text) = some (outline, s)) :
    Reached outline s := by
  refine iterate_invariant (I := fun acc s => Reached acc.reverse s) (Q := Reached)
    (fun acc s r s' hacc hround => ?_) Reached.nil hrun
  obtain ⟨atEnd, _, hend, hrest⟩ := bind_eq_some.mp hround
  obtain ⟨_, _, ⟨⟩, ⟨⟩⟩ := bind_eq_some.mp hend
  split at hrest
  · cases hrest
    exact hacc
  · obtain ⟨_, _, ⟨⟩, hrest⟩ := bind_eq_some.mp hrest
    obtain ⟨⟨item, sort⟩, s₁, hstatement, hrest⟩ := bind_eq_some.mp hrest
    obtain ⟨_, _, ⟨⟩, ⟨⟩⟩ := bind_eq_some.mp hrest
    have hmatches := Sorting.statement_matches hstatement
    have hplain : Runner.upTo text depth (.statement false) ctx s = some (item, s') := by
      rw [Sorting.statement_maps depth ctx s, hstatement]
      rfl
    have hspans := Runner.statement_yields depth false hacc.spans.ordered hplain
    have hround (st : Statement text) (h : Reached (acc.reverse ++ [st]) s') :
        Reached (st :: acc).reverse s' := by
      rwa [List.reverse_cons]
    exact hround _ (hacc.append hspans rfl hmatches)

/-- The outline has the statements that the grammar reads. -/
lemma outlineFrom_maps (depth : Nat) :
    (outlineFrom depth : Parser text _).Maps (List.map (·.item))
      (statements (Runner.upTo text depth)) := by
  have hstart : (([] : List (Statement text)).map (·.item)) = [] := rfl
  rw [statements, ← hstart]
  refine .iterate (g := List.map (·.item)) fun acc => .bind (.refl _) fun atEnd =>
    .ite (.pure ?_) ?_
  · exact congrArg Sum.inr List.map_reverse.symm
  · intro ctx s
    simp only [Bind.bind, Sorting.statement_maps depth ctx s, here, spanFrom]
    rcases Sorting.statement depth ctx s with _ | ⟨⟨item, sort⟩, s₁⟩ <;> rfl

/-- The statements of a script that is read, with their sorts and ranges. -/
theorem outline_of_parse {typescript : Bool} {program : Program text}
    (h : parse typescript text = some program) :
    ∃ outline, outline? typescript text = some outline ∧
      outline.map (·.item) = program.items ∧ Outlined outline program.sites := by
  unfold parse at h
  simp only [Option.bind_eq_bind, Option.bind_eq_some_iff] at h
  obtain ⟨⟨items, s⟩, hstatements, hrest⟩ := h
  rw [outlineFrom_maps] at hstatements
  obtain ⟨⟨outline, s'⟩, houtline, heq⟩ := Option.map_eq_some_iff.mp hstatements
  cases heq
  have hreached := (outlineFrom_reached houtline).outlined
  split at hrest
  · cases hrest
  · cases hrest
    refine ⟨outline, by rw [outline?, houtline]; rfl, rfl,
      ⟨hreached.told, hreached.within, hreached.apart, fun e he a ha => ?_⟩⟩
    refine hreached.starts e he a ?_
    simpa using ha

end Program

end Script

end LiveBundle
