import LiveBundle.Bundle.Link
import LiveBundle.Proofs.ModuleSyntax
import LiveBundle.Proofs.Script.ModuleStatements
import LiveBundle.Proofs.Text.Basic

/-!
# What is left of a module's text

The body of a factory is made of stretches of the module's text and of what stands in place of its
edits. Edits are apart or nested, so one that is left out lies in the range of another one that is
not, and no stretch that is copied meets the range of any edit.

* `sortEdits_perm`, `sortEdits_sorted`: the edits of a module are those of its statements and sites,
  in the order of the text.
* `within_keptEdits`: each edit lies in the range of one that is rendered.
* `Module.body_eq_pieces`: the body as a list of pieces.
* `statements_replaced` puts these together.
-/

namespace LiveBundle

open Script (Program IsBoundary)
open ModuleSyntax (itemEdits siteEdit editOf sortEdits editsOf isTyped ofProgram)

/-! ## Edits in order -/

/-- An edit comes before another one or has the same range. -/
def Edit.Leads (a b : Edit) : Prop := a.start < b.start ∨ a.start = b.start ∧ a.stop ≤ b.stop

/-- The range of an edit lies in that of another one. -/
def Edit.Within (a b : Edit) : Prop := b.start ≤ a.start ∧ a.stop ≤ b.stop

lemma Edit.Within.refl (a : Edit) : a.Within a := ⟨Nat.le_refl _, Nat.le_refl _⟩

lemma Edit.Inside.within {a b : Edit} (h : a.Inside b) : a.Within b := ⟨Nat.le_of_lt h.1, h.2⟩

lemma Edit.Leads.trans {a b c : Edit} (hab : a.Leads b) (hbc : b.Leads c) : a.Leads c := by
  unfold Edit.Leads at *
  omega

lemma leads_of_before {a b : Edit} (h : ModuleSyntax.Edit.before a b = true) : a.Leads b := by
  simp only [ModuleSyntax.Edit.before, Bool.or_eq_true, Bool.and_eq_true, decide_eq_true_eq,
    beq_iff_eq] at h
  unfold Edit.Leads
  omega

lemma leads_of_not_before {a b : Edit} (h : ModuleSyntax.Edit.before a b = false) : b.Leads a := by
  simp only [← Bool.not_eq_true, ModuleSyntax.Edit.before, Bool.or_eq_true, Bool.and_eq_true,
    decide_eq_true_eq, beq_iff_eq] at h
  unfold Edit.Leads
  omega

lemma decides_before : Decides ModuleSyntax.Edit.before Edit.Leads :=
  ⟨fun _ _ => leads_of_before, fun _ _ => leads_of_not_before, fun _ _ _ => Edit.Leads.trans⟩

lemma sortEdits_perm (edits : List Edit) : (sortEdits edits).Perm edits := sortBy_perm edits

lemma sortEdits_sorted (edits : List Edit) : (sortEdits edits).Pairwise Edit.Leads :=
  sortBy_pairwise decides_before edits

/-! ## Edits that are kept -/

/-- An edit that starts in front of the end of one before it lies inside of it. -/
lemma Edit.Nests.inside {a b : Edit} (h : a.Nests b) (hlead : a.Leads b) (hb : b.start ≤ b.stop)
    (hlt : b.start < a.stop) : b.Inside a := by
  unfold Edit.Leads at hlead
  rcases h with h | h | h | h
  · omega
  · omega
  · have hstart := h.1
    omega
  · exact h

lemma keptEdits_sublist (size position : Nat) (es : List Edit) :
    (keptEdits size position es).Sublist es := by
  induction es generalizing position with
  | nil => exact .slnil
  | cons e es ih =>
    unfold keptEdits
    split
    · exact (ih position).cons e
    · exact (ih e.stop).cons_cons e

/-- Edits that are kept follow each other. -/
lemma keptEdits_apart (size position : Nat) {es : List Edit} (hle : ∀ e ∈ es, e.start ≤ e.stop) :
    (∀ e ∈ keptEdits size position es, position ≤ e.start) ∧
      (keptEdits size position es).Pairwise fun a b => a.stop ≤ b.start := by
  induction es generalizing position with
  | nil => exact ⟨fun _ h => absurd h List.not_mem_nil, .nil⟩
  | cons e es ih =>
    have hes := fun x hx => hle x (List.mem_cons_of_mem _ hx)
    unfold keptEdits
    split
    · exact ih position hes
    · rename_i hkept
      obtain ⟨hstarts, hapart⟩ := ih e.stop hes
      refine ⟨fun x hx => ?_, .cons hstarts hapart⟩
      rcases List.mem_cons.mp hx with rfl | hx
      · omega
      · have hstart := hstarts x hx
        have he := hle e List.mem_cons_self
        omega

/-- Behind an edit that is kept, each edit lies inside of it or in the range of another one. -/
lemma within_keptEdits_behind {size : Nat} {k : Edit} {es : List Edit}
    (hsorted : (k :: es).Pairwise Edit.Leads) (hnests : (k :: es).Pairwise Edit.Nests)
    (hle : ∀ e ∈ es, e.start ≤ e.stop ∧ e.stop ≤ size) :
    ∀ e ∈ es, e.Within k ∨ ∃ k' ∈ keptEdits size k.stop es, e.Within k' := by
  induction es generalizing k with
  | nil => exact fun _ h => absurd h List.not_mem_nil
  | cons x xs ih =>
    obtain ⟨hk, hxs⟩ := List.pairwise_cons.mp hsorted
    obtain ⟨hknests, hxsnests⟩ := List.pairwise_cons.mp hnests
    have hbounds := hle x List.mem_cons_self
    have hle := fun e he => hle e (List.mem_cons_of_mem _ he)
    unfold keptEdits
    by_cases hlt : x.start < k.stop
    · rw [if_pos (.inl hlt)]
      intro e he
      rcases List.mem_cons.mp he with rfl | he
      · exact .inl ((hknests e List.mem_cons_self).inside (hk e List.mem_cons_self) hbounds.1
          hlt).within
      · have hsub : (k :: xs).Sublist (k :: x :: xs) := (List.sublist_cons_self x xs).cons_cons k
        exact ih (hsorted.sublist hsub) (hnests.sublist hsub) hle e he
    · rw [if_neg (by omega)]
      intro e he
      refine .inr ?_
      rcases List.mem_cons.mp he with rfl | he
      · exact ⟨e, List.mem_cons_self, .refl e⟩
      · rcases ih hxs hxsnests hle e he with h | ⟨k', hk', h⟩
        · exact ⟨x, List.mem_cons_self, h⟩
        · exact ⟨k', List.mem_cons_of_mem _ hk', h⟩

/-- Each edit lies in the range of one that is kept. -/
lemma within_keptEdits {size : Nat} {es : List Edit} (hsorted : es.Pairwise Edit.Leads)
    (hnests : es.Pairwise Edit.Nests) (hle : ∀ e ∈ es, e.start ≤ e.stop ∧ e.stop ≤ size) :
    ∀ e ∈ es, ∃ k ∈ keptEdits size 0 es, e.Within k := by
  cases es with
  | nil => exact fun _ h => absurd h List.not_mem_nil
  | cons x xs =>
    have hbounds := hle x List.mem_cons_self
    unfold keptEdits
    rw [if_neg (by omega)]
    intro e he
    rcases List.mem_cons.mp he with rfl | he
    · exact ⟨e, List.mem_cons_self, .refl e⟩
    · have hle := fun e he => hle e (List.mem_cons_of_mem _ he)
      rcases within_keptEdits_behind hsorted hnests hle e he with h | ⟨k, hk, h⟩
      · exact ⟨x, List.mem_cons_self, h⟩
      · exact ⟨k, List.mem_cons_of_mem _ hk, h⟩

/-! ## Cutting texts -/

/-- Cutting off in two steps, the first of them between characters. -/
lemma bytesDrop_bytesDrop {text : List Char} {a b : Nat} (ha : IsBoundary text a)
    (hb : IsBoundary text b) (hab : a ≤ b) :
    Text.bytesDrop (b - a) (Text.bytesDrop a text) = Text.bytesDrop b text := by
  obtain ⟨before, after, htext, rfl⟩ := ha
  obtain ⟨before', after', htext', rfl⟩ := hb
  rw [htext, Text.bytesDrop_append]
  -- The shorter front is a part of the longer one.
  obtain ⟨middle, rfl⟩ : before <+: before' := by
    rcases List.prefix_or_prefix_of_prefix (htext ▸ List.prefix_append before after)
      (htext' ▸ List.prefix_append before' after') with h | ⟨middle, rfl⟩
    · exact h
    · rw [Text.byteSize_append] at hab
      cases middle with
      | nil => simp
      | cons c cs =>
        have hsize : 0 < c.utf8Size := Char.utf8Size_pos c
        simp only [Text.byteSize] at hab
        omega
  have hafter : after = middle ++ after' := by
    rw [htext, List.append_assoc] at htext'
    exact List.append_cancel_left htext'
  rw [hafter, Text.byteSize_append, Nat.add_sub_cancel_left, Text.bytesDrop_append,
    ← List.append_assoc, ← Text.byteSize_append, Text.bytesDrop_append]

lemma byteSize_bytesDrop {text : List Char} {a : Nat} (ha : IsBoundary text a) :
    Text.byteSize (Text.bytesDrop a text) = Text.byteSize text - a := by
  obtain ⟨before, after, rfl, rfl⟩ := ha
  rw [Text.bytesDrop_append, Text.byteSize_append, Nat.add_sub_cancel_left]

/-! ## Pieces -/

/-- A part of the body of a factory. -/
inductive Piece where
  /-- Bytes of the module's text. -/
  | copied (start stop : Nat)
  /-- What stands in place of an edit, with what was collected before it. -/
  | rendered (e : Edit) (s : Splice)

/-- The text of a piece. -/
def Piece.text (resolved : Dict String) (code : List Char) : Piece → List Char
  | .copied start stop => Text.bytesTake (stop - start) (Text.bytesDrop start code)
  | .rendered e s => (renderReplacement resolved s e.replacement).1.toList

/-- The pieces from byte `position` on, up to byte `size`. -/
def piecesFrom (resolved : Dict String) (size : Nat) : Nat → Splice → List Edit → List Piece
  | position, _, [] => [.copied position size]
  | position, s, e :: es =>
    .copied position e.start :: .rendered e s ::
      piecesFrom resolved size e.stop (renderReplacement resolved s e.replacement).2 es

/-- The pieces of a module's body, behind the line that registers its exports. -/
def Module.pieces (m : Module) : List Piece :=
  let size := Text.byteSize m.code.toList
  piecesFrom m.resolved size 0 {} (keptEdits size 0 m.syntax_.edits)

/-- The names that a module exports, with the expressions that give them. -/
def Module.getters (m : Module) : List (String × String) :=
  (spliceFrom m.resolved 0 m.code.toList {}
    (keptEdits (Text.byteSize m.code.toList) 0 m.syntax_.edits)).2.getters

/-- An edit starts and ends between characters of a text. -/
structure Edit.Cuts (text : List Char) (e : Edit) : Prop where
  start_le : e.start ≤ e.stop
  start : IsBoundary text e.start
  stop : IsBoundary text e.stop

lemma cuts_editOf {text : List Char} (span : Script.Span text) (r : Replacement) :
    (editOf span r).Cuts text := ⟨span.ordered, span.start_boundary, span.stop_boundary⟩

lemma Edit.Cuts.stop_le {text : List Char} {e : Edit} (h : e.Cuts text) :
    e.stop ≤ Text.byteSize text := by
  obtain ⟨before, after, rfl, hstop⟩ := h.stop
  rw [Text.byteSize_append]
  omega

lemma cuts_of_mem_itemEdits {text : List Char} {item : Script.Item text} {e : Edit}
    (h : e ∈ itemEdits item) : e.Cuts text := by
  unfold itemEdits at h
  split at h
  case h_7 => split at h <;> cases List.mem_singleton.mp h <;> exact cuts_editOf _ _
  case h_9 =>
    rcases List.mem_pair.mp h with rfl | rfl <;> exact cuts_editOf _ _
  all_goals first
    | exact absurd h List.not_mem_nil
    | (cases List.mem_singleton.mp h; exact cuts_editOf _ _)

lemma cuts_siteEdit {text : List Char} (site : Script.Site text) :
    (siteEdit site).Cuts text := by
  cases site <;> exact cuts_editOf _ _

/-- Splicing puts the pieces together. -/
lemma spliceFrom_eq_pieces (resolved : Dict String) {text : List Char} {position : Nat}
    {s : Splice} {es : List Edit} (hposition : IsBoundary text position)
    (hcuts : ∀ e ∈ es, e.Cuts text) (hstart : ∀ e ∈ es, position ≤ e.start)
    (hapart : es.Pairwise fun a b => a.stop ≤ b.start) :
    (spliceFrom resolved position (Text.bytesDrop position text) s es).1 =
      (piecesFrom resolved (Text.byteSize text) position s es).flatMap
        (Piece.text resolved text) := by
  induction es generalizing position s with
  | nil =>
    simp only [spliceFrom, piecesFrom, List.flatMap_cons, List.flatMap_nil, List.append_nil,
      Piece.text]
    rw [← byteSize_bytesDrop hposition, Text.bytesTake_byteSize]
  | cons e es ih =>
    obtain ⟨hlater, hapart⟩ := List.pairwise_cons.mp hapart
    have he := hcuts e List.mem_cons_self
    have hbehind : position ≤ e.stop := Nat.le_trans (hstart e List.mem_cons_self) he.start_le
    have hrest := ih (s := (renderReplacement resolved s e.replacement).2) he.stop
      (fun x hx => hcuts x (List.mem_cons_of_mem _ hx)) hlater hapart
    simp only [spliceFrom, piecesFrom, List.flatMap_cons, Piece.text]
    rw [bytesDrop_bytesDrop hposition he.stop hbehind, hrest, List.append_assoc]

/-- What is copied lies apart from all edits that are rendered. -/
lemma copied_apart {resolved : Dict String} {size position : Nat} {s : Splice} {es : List Edit}
    (hle : ∀ e ∈ es, e.start ≤ e.stop) (hstart : ∀ e ∈ es, position ≤ e.start)
    (hapart : es.Pairwise fun a b => a.stop ≤ b.start) {start stop : Nat}
    (h : .copied start stop ∈ piecesFrom resolved size position s es) :
    position ≤ start ∧ ∀ e ∈ es, e.stop ≤ start ∨ stop ≤ e.start := by
  induction es generalizing position s with
  | nil =>
    cases List.mem_singleton.mp h
    exact ⟨Nat.le_refl _, fun _ h => absurd h List.not_mem_nil⟩
  | cons e es ih =>
    obtain ⟨hlater, hapart⟩ := List.pairwise_cons.mp hapart
    have he := hle e List.mem_cons_self
    have hposition := hstart e List.mem_cons_self
    rcases List.mem_cons.mp h with hfirst | h
    · cases hfirst
      refine ⟨Nat.le_refl _, fun x hx => .inr ?_⟩
      rcases List.mem_cons.mp hx with rfl | hx
      · exact Nat.le_refl _
      · exact Nat.le_trans he (hlater x hx)
    · have hrest : .copied start stop ∈ piecesFrom resolved size e.stop _ es :=
        (List.mem_cons.mp h).resolve_left nofun
      obtain ⟨hstop, hall⟩ := ih (fun x hx => hle x (List.mem_cons_of_mem _ hx)) hlater hapart hrest
      refine ⟨by omega, fun x hx => ?_⟩
      rcases List.mem_cons.mp hx with rfl | hx
      · exact .inl hstop
      · exact hall x hx

/-- Each edit is rendered. -/
lemma exists_rendered (resolved : Dict String) (size position : Nat) {s : Splice} {es : List Edit}
    {e : Edit} (h : e ∈ es) : ∃ s', .rendered e s' ∈ piecesFrom resolved size position s es := by
  induction es generalizing position s with
  | nil => cases h
  | cons x es ih =>
    rcases List.mem_cons.mp h with rfl | h
    · exact ⟨s, List.mem_cons_of_mem _ List.mem_cons_self⟩
    · obtain ⟨s', hs'⟩ := ih _ h
      exact ⟨s', List.mem_cons_of_mem _ (List.mem_cons_of_mem _ hs')⟩

/-! ## Modules -/

/-- The edits of a module that is read: of statements and sites, in order, apart or nested. -/
lemma edits_of_parse {id code : String} {syntax_ : ModuleSyntax}
    (h : ModuleSyntax.parse id code = .ok syntax_) :
    ∃ program, Program.parse (isTyped id) code.toList = some program ∧
      syntax_.edits.Perm (program.items.flatMap itemEdits ++ program.sites.map siteEdit) ∧
      syntax_.edits.Pairwise Edit.Leads ∧ syntax_.edits.Pairwise Edit.Nests ∧
      ∀ e ∈ syntax_.edits, e.Cuts code.toList := by
  obtain ⟨program, hprogram, rfl⟩ := ModuleSyntax.exists_program_of_parse h
  obtain ⟨lo, hi, hfits⟩ := Program.nests_of_parse hprogram
  have hperm := sortEdits_perm (program.items.flatMap itemEdits ++ program.sites.map siteEdit)
  refine ⟨program, hprogram, hperm, sortEdits_sorted _, (hfits.perm hperm.symm).nests,
    fun e he => ?_⟩
  rcases List.mem_append.mp (hperm.mem_iff.mp he) with hitem | hsite
  · obtain ⟨item, -, hitem⟩ := List.mem_flatMap.mp hitem
    exact cuts_of_mem_itemEdits hitem
  · obtain ⟨site, -, rfl⟩ := List.mem_map.mp hsite
    exact cuts_siteEdit site

lemma Module.body_eq_pieces {m : Module} (h : ModuleSyntax.parse m.id m.code = .ok m.syntax_) :
    m.body.toList =
      (exportHeader m.getters).toList ++
        m.pieces.flatMap (Piece.text m.resolved m.code.toList) := by
  obtain ⟨program, -, -, -, -, hcuts⟩ := edits_of_parse h
  have hsub := (keptEdits_sublist (Text.byteSize m.code.toList) 0 m.syntax_.edits).subset
  obtain ⟨hstart, hapart⟩ := keptEdits_apart (Text.byteSize m.code.toList) 0
    fun e he => (hcuts e he).start_le
  have hfirst : IsBoundary m.code.toList 0 := ⟨[], m.code.toList, rfl, rfl⟩
  have hsplice := spliceFrom_eq_pieces m.resolved (s := {}) hfirst
    (fun e he => hcuts e (hsub he)) hstart hapart
  have hdrop : Text.bytesDrop 0 m.code.toList = m.code.toList := Text.bytesDrop_append [] _
  rw [hdrop] at hsplice
  rw [Module.pieces, ← hsplice, Module.body, Module.getters, String.toList_append,
    String.toList_ofList]

/-- Each import and export at the top level, and each dynamic import at any depth, is replaced as a
whole or lies in a statement that is; no byte of it is copied. -/
theorem statements_replaced (m : Module) (h : ModuleSyntax.parse m.id m.code = .ok m.syntax_) :
    ∃ program, Program.parse (isTyped m.id) m.code.toList = some program ∧
      m.body.toList =
        (exportHeader m.getters).toList ++
          m.pieces.flatMap (Piece.text m.resolved m.code.toList) ∧
      ∀ e ∈ program.items.flatMap itemEdits ++ program.sites.map siteEdit,
        (∃ k s, .rendered k s ∈ m.pieces ∧ e.Within k) ∧
          ∀ start stop, .copied start stop ∈ m.pieces → e.stop ≤ start ∨ stop ≤ e.start := by
  obtain ⟨program, hprogram, hperm, hsorted, hnests, hcuts⟩ := edits_of_parse h
  refine ⟨program, hprogram, m.body_eq_pieces h, fun e he => ?_⟩
  obtain ⟨k, hk, hwithin⟩ := within_keptEdits hsorted hnests
    (fun e he => ⟨(hcuts e he).start_le, (hcuts e he).stop_le⟩) e (hperm.mem_iff.mpr he)
  obtain ⟨s, hs⟩ := exists_rendered m.resolved (Text.byteSize m.code.toList) 0 hk
  refine ⟨⟨k, s, hs, hwithin⟩, fun start stop hcopied => ?_⟩
  have hsub := (keptEdits_sublist (Text.byteSize m.code.toList) 0 m.syntax_.edits).subset
  obtain ⟨hstart, hapart⟩ := keptEdits_apart (Text.byteSize m.code.toList) 0
    fun e he => (hcuts e he).start_le
  have hall := copied_apart (fun e he => (hcuts e (hsub he)).start_le) hstart hapart hcopied
  rcases hall.2 k hk with h | h
  · exact .inl (Nat.le_trans hwithin.2 h)
  · exact .inr (Nat.le_trans h hwithin.1)

/-- A module whose specifiers stand for themselves. -/
def Module.alone (id code : String) (syntax_ : ModuleSyntax) : Module :=
  ⟨id, code, syntax_, false, .empty⟩

lemma parse_of_toOption {id code : String} {syntax_ : ModuleSyntax}
    (h : (ModuleSyntax.parse id code).toOption = some syntax_) :
    ModuleSyntax.parse id code = .ok syntax_ := by
  cases hparse : ModuleSyntax.parse id code with
  | error d =>
    rw [hparse] at h
    cases h
  | ok read =>
    rw [hparse] at h
    cases h
    rfl

/-- The dynamic import in the options of another one goes with it. -/
theorem statements_replaced_nested_import :
    let code := "import('./x.js', import('./y.js'));\n"
    let inner : Edit := ⟨17, 33, .dynamicImport "./y.js"⟩
    let m := Module.alone "virtual:file/a.js" code
      ⟨["./x.js", "./y.js"], [⟨0, 34, .dynamicImport "./x.js"⟩, inner]⟩
    ModuleSyntax.parse m.id m.code = .ok m.syntax_ ∧
      m.body = "Promise.resolve().then(function () \x7b return require(\"./x.js\"); \x7d);\n" ∧
      (∃ k s, .rendered k s ∈ m.pieces ∧ inner.Within k) ∧
      ∀ start stop, .copied start stop ∈ m.pieces → 33 ≤ start ∨ stop ≤ 17 := by
  intro code inner m
  have hparse : ModuleSyntax.parse m.id m.code = .ok m.syntax_ :=
    parse_of_toOption (by decide +kernel)
  obtain ⟨program, hprogram, -, hedits⟩ := statements_replaced m hparse
  have hinner : inner ∈ program.items.flatMap itemEdits ++ program.sites.map siteEdit := by
    have hread : (Program.parse (isTyped m.id) m.code.toList).map (fun program =>
        decide (inner ∈ program.items.flatMap itemEdits ++ program.sites.map siteEdit)) =
          some true := by decide +kernel
    rw [hprogram] at hread
    simpa using hread
  exact ⟨hparse, by decide +kernel, hedits inner hinner⟩

namespace Remains

/-- An import in a block. -/
def nested : String := "\x7b import './x.js'; \x7d"

/-- An export list between a name and a regular expression. -/
def joining : String := "let y = a\nexport \x7b y \x7d\n/import('x')/g"

/-- What linking makes of `joining`. -/
def joined : String :=
  "__pg_export(exports, \x7b \"y\": function () \x7b return y; \x7d \x7d);\nlet y = a\n\n/import('x')/g"

/-- The statement behind the brace of `nested`. -/
def innerStatement : Option (Script.Item nested.toList) :=
  (((Script.Parser.expectPunct "\x7b") >>= fun _ =>
    Script.Runner.upTo nested.toList 8 (.statement false)) (Program.topLevel false 22)
      (Program.initial nested.toList)).map (·.1)

end Remains

/-- Two texts with module syntax that stays. A statement in a block is read as an import, and not
replaced. Where an export list is dropped in front of a regular expression, the declaration before
it goes on as a division, and what stood in the regular expression is a dynamic import. -/
theorem module_syntax_survives :
    ((ModuleSyntax.parse "virtual:file/a.js" Remains.nested).toOption = some ⟨[], []⟩ ∧
      (Module.alone "virtual:file/a.js" Remains.nested ⟨[], []⟩).body = Remains.nested ∧
      Remains.innerStatement.map itemEdits = some [⟨2, 18, .importing "./x.js" {}⟩]) ∧
    (ModuleSyntax.parse "virtual:file/a.js" Remains.joining).toOption =
        some ⟨[], [⟨10, 22, .exportList [("y", "y")]⟩]⟩ ∧
      (Module.alone "virtual:file/a.js" Remains.joining
        ⟨[], [⟨10, 22, .exportList [("y", "y")]⟩]⟩).body = Remains.joined ∧
      (ModuleSyntax.parse "virtual:file/a.js" Remains.joined).toOption =
        some ⟨["x"], [⟨70, 81, .dynamicImport "x"⟩]⟩ := by
  refine ⟨⟨?_, ?_, ?_⟩, ?_, ?_, ?_⟩
  all_goals decide +kernel

end LiveBundle
