import LiveBundle.Proofs.Splice

/-!
# The body of a factory as a splice

The body of a factory is the text of the module with some ranges replaced. `Spliced` walks along
the text and the edits at once and says for each edit whether its range is replaced or the edit is
left out, and for each stretch of the text where it is copied to. It leaves no choice: an edit is
left out only where its start lies in a range that was replaced before, and is replaced only behind
all of these.

* `spliced_keptEdits`: splicing the kept edits is this walk.
* `Spliced.unique`: the walk leaves no choice.
* `Module.body_of_no_edits`: without edits the text is the body.
* `body_spliced` puts these together for the modules that are read.
-/

namespace LiveBundle

open Script (Program Item IsBoundary)
open ModuleSyntax (itemEdits siteEdit isTyped)

/-- Walking along a text from byte `position` on, with the edits that are still to come and those
that were replaced so far, gives another text and what rendering has collected by its end. -/
inductive Spliced (resolved : Dict String) :
    List Edit → Nat → Splice → List Edit → List Char → List Char → Splice → Prop
  /-- Behind the last edit, the text is copied. -/
  | copied {done : List Edit} {position : Nat} {s : Splice} (rest : List Char) :
      Spliced resolved done position s [] rest rest s
  /-- The text in front of an edit is copied, and its rendering stands in place of its range. -/
  | replaced {done es : List Edit} {position : Nat} {s s' : Splice} {e : Edit}
      {before range rest out : List Char} (hstart : e.start = position + Text.byteSize before)
      (hstop : e.stop = e.start + Text.byteSize range)
      (hrest : Spliced resolved (e :: done) e.stop (renderReplacement resolved s e.replacement).2 es
        rest out s') :
      Spliced resolved done position s (e :: es) (before ++ range ++ rest)
        (before ++ (renderReplacement resolved s e.replacement).1.toList ++ out) s'
  /-- An edit that starts in a range that was replaced is left out. -/
  | dropped {done es : List Edit} {position : Nat} {s s' : Splice} {e k : Edit}
      {rest out : List Char} (hk : k ∈ done) (hstart : k.start ≤ e.start) (hstop : e.start < k.stop)
      (hrest : Spliced resolved done position s es rest out s') :
      Spliced resolved done position s (e :: es) rest out s'

/-! ## Stretches of a text -/

/-- A text between two places has as many bytes as lie between them. -/
lemma byteSize_bytesTake {text : List Char} {a b : Nat} (ha : IsBoundary text a)
    (hb : IsBoundary text b) (hab : a ≤ b) :
    Text.byteSize (Text.bytesTake (b - a) (Text.bytesDrop a text)) = b - a := by
  have hsplit := congrArg Text.byteSize
    (Text.bytesTake_append_bytesDrop (b - a) (Text.bytesDrop a text))
  rw [Text.byteSize_append, bytesDrop_bytesDrop ha hb hab, byteSize_bytesDrop ha,
    byteSize_bytesDrop hb] at hsplit
  have hle : b ≤ Text.byteSize text := by
    obtain ⟨before, after, rfl, rfl⟩ := hb
    rw [Text.byteSize_append]
    exact Nat.le_add_right _ _
  omega

/-- The text behind a place, cut at two places further on. -/
lemma exists_cut {text : List Char} {a b c : Nat} (ha : IsBoundary text a) (hb : IsBoundary text b)
    (hc : IsBoundary text c) (hab : a ≤ b) (hbc : b ≤ c) :
    ∃ before range, Text.bytesTake (b - a) (Text.bytesDrop a text) = before ∧
      Text.bytesDrop a text = before ++ range ++ Text.bytesDrop c text ∧
      b = a + Text.byteSize before ∧ c = b + Text.byteSize range := by
  refine ⟨_, Text.bytesTake (c - b) (Text.bytesDrop b text), rfl, ?_, ?_, ?_⟩
  · rw [List.append_assoc, ← bytesDrop_bytesDrop hb hc hbc, Text.bytesTake_append_bytesDrop,
      ← bytesDrop_bytesDrop ha hb hab, Text.bytesTake_append_bytesDrop]
  · rw [byteSize_bytesTake ha hb hab, Nat.add_sub_cancel' hab]
  · rw [byteSize_bytesTake hb hc hbc, Nat.add_sub_cancel' hbc]

/-! ## The walk -/

/-- Splicing the edits that are kept is the walk along the text. -/
lemma spliced_keptEdits (resolved : Dict String) {text : List Char} (done : List Edit)
    {es : List Edit} {position : Nat} (s : Splice) (hposition : IsBoundary text position)
    (hcuts : ∀ e ∈ es, e.Cuts text) (hsorted : es.Pairwise Edit.Leads)
    (hdone : ∀ e ∈ es, e.start < position → ∃ k ∈ done, k.start ≤ e.start ∧ e.start < k.stop) :
    let spliced := spliceFrom resolved position (Text.bytesDrop position text) s
      (keptEdits (Text.byteSize text) position es)
    Spliced resolved done position s es (Text.bytesDrop position text) spliced.1 spliced.2 := by
  induction es generalizing done position s with
  | nil => exact .copied _
  | cons e es ih =>
    obtain ⟨hleads, hsorted⟩ := List.pairwise_cons.mp hsorted
    have he := hcuts e List.mem_cons_self
    have hcuts := fun x hx => hcuts x (List.mem_cons_of_mem e hx)
    have hsize := he.stop_le
    by_cases hlt : e.start < position
    · obtain ⟨k, hk, hstart, hstop⟩ := hdone e List.mem_cons_self hlt
      have hdone := fun x hx => hdone x (List.mem_cons_of_mem e hx)
      simp only [keptEdits, if_pos (Or.inl hlt)]
      exact .dropped hk hstart hstop (ih done s hposition hcuts hsorted hdone)
    · have hle : position ≤ e.start := Nat.le_of_not_lt hlt
      -- Of the edits behind this one, those that start before its end start in its range.
      have hdone : ∀ x ∈ es, x.start < e.stop →
          ∃ k ∈ e :: done, k.start ≤ x.start ∧ x.start < k.stop := by
        intro x hx hxstop
        have hlead := hleads x hx
        unfold Edit.Leads at hlead
        exact ⟨e, List.mem_cons_self, by omega, hxstop⟩
      have hrest := ih (e :: done) (renderReplacement resolved s e.replacement).2 he.stop hcuts
        hsorted hdone
      have hkeep : ¬(e.start < position ∨ Text.byteSize text < e.stop) := by omega
      simp only [keptEdits, if_neg hkeep, spliceFrom]
      rw [bytesDrop_bytesDrop hposition he.stop (Nat.le_trans hle he.start_le)]
      obtain ⟨before, range, htake, htext, hbefore, hrange⟩ :=
        exists_cut hposition he.start he.stop hle he.start_le
      rw [htake, htext]
      exact .replaced hbefore hrange hrest

/-- Two texts that are equal have equal fronts of one size. -/
lemma append_inj_of_byteSize {as bs as' bs' : List Char} (h : as ++ bs = as' ++ bs')
    (hsize : Text.byteSize as = Text.byteSize as') : as = as' ∧ bs = bs' := by
  have hbs : bs = bs' := by
    rw [← Text.bytesDrop_append as bs, h, hsize, Text.bytesDrop_append]
  subst hbs
  exact ⟨List.append_cancel_right h, rfl⟩

/-- The walk leaves no choice. -/
lemma Spliced.unique {resolved : Dict String} {done es : List Edit} {position : Nat}
    {s s₁ s₂ : Splice} {text out₁ out₂ : List Char}
    (h₁ : Spliced resolved done position s es text out₁ s₁)
    (h₂ : Spliced resolved done position s es text out₂ s₂)
    (hdone : ∀ k ∈ done, k.stop ≤ position) : out₁ = out₂ ∧ s₁ = s₂ := by
  induction h₁ generalizing out₂ s₂ with
  | copied rest =>
    cases h₂
    exact ⟨rfl, rfl⟩
  | @replaced done _ position _ _ e before range rest _ hstart hstop _ ih =>
    generalize htext : before ++ range ++ rest = text at h₂
    cases h₂ with
    | replaced hstart' hstop' hrest' =>
      rw [List.append_assoc, List.append_assoc] at htext
      obtain ⟨rfl, hbehind⟩ := append_inj_of_byteSize htext (by omega)
      obtain ⟨-, rfl⟩ := append_inj_of_byteSize hbehind (by omega)
      have hdone : ∀ k ∈ e :: done, k.stop ≤ e.stop := by
        intro k hk
        rcases List.mem_cons.mp hk with rfl | hk
        · exact Nat.le_refl _
        · have hk := hdone k hk
          omega
      obtain ⟨rfl, rfl⟩ := ih hrest' hdone
      exact ⟨rfl, rfl⟩
    | dropped hk' _ hstop' _ =>
      have hk' := hdone _ hk'
      omega
  | dropped hk _ hstop _ ih =>
    cases h₂ with
    | replaced hstart' _ _ =>
      have hk := hdone _ hk
      omega
    | dropped _ _ _ hrest' => exact ih hrest' hdone

/-! ## Modules -/

/-- Without edits, the text of a module is the body of its factory. -/
lemma Module.body_of_no_edits {m : Module} (h : m.syntax_.edits = []) : m.body = m.code := by
  rw [Module.body, h]
  simp [keptEdits, spliceFrom, exportHeader]

/-- The body of a factory is the line that registers the exports, if there is one, and behind it the
text of the module spliced with its edits, all of which lie in the text. A module that imports and
exports nothing and asks for nothing is its own body. -/
theorem body_spliced (m : Module) (h : ModuleSyntax.parse m.id m.code = .ok m.syntax_) :
    (∀ e ∈ m.syntax_.edits, e.start ≤ e.stop ∧ e.stop ≤ Text.byteSize m.code.toList) ∧
    (∃ out s, Spliced m.resolved [] 0 {} m.syntax_.edits m.code.toList out s) ∧
    (∀ out s, Spliced m.resolved [] 0 {} m.syntax_.edits m.code.toList out s →
      m.body = exportHeader s.getters ++ String.ofList out) ∧
    ∃ program, Program.parse (isTyped m.id) m.code.toList = some program ∧
      (program.items.flatMap itemEdits = [] → program.sites = [] → m.body = m.code) := by
  obtain ⟨program, hprogram, hperm, hsorted, -, hcuts⟩ := edits_of_parse h
  have hfirst : IsBoundary m.code.toList 0 := ⟨[], m.code.toList, rfl, rfl⟩
  have hwalk := spliced_keptEdits m.resolved [] {} hfirst hcuts hsorted
    fun _ _ hlt => absurd hlt (Nat.not_lt_zero _)
  have hdrop : Text.bytesDrop 0 m.code.toList = m.code.toList := Text.bytesDrop_append [] _
  rw [hdrop] at hwalk
  refine ⟨fun e he => ⟨(hcuts e he).start_le, (hcuts e he).stop_le⟩, ⟨_, _, hwalk⟩, ?_, program,
    hprogram, ?_⟩
  · intro out s hspliced
    obtain ⟨rfl, rfl⟩ := hwalk.unique hspliced fun _ h => absurd h List.not_mem_nil
    rfl
  · intro hitems hsites
    rw [hitems, hsites] at hperm
    exact Module.body_of_no_edits hperm.eq_nil

/-- A module with an exported name, a statement that is ended by an edit without a range, and an
edit inside of the range of another one. -/
theorem body_spliced_ended :
    let m := Module.alone "virtual:file/a.js"
      "export default function () \x7b return 1; \x7df(import('./x.js', import('./y.js')));\n"
      ⟨["./x.js", "./y.js"], [⟨0, 15, .defaultExpression⟩, ⟨40, 40, .terminate⟩,
        ⟨42, 76, .dynamicImport "./x.js"⟩, ⟨59, 75, .dynamicImport "./y.js"⟩]⟩
    ModuleSyntax.parse m.id m.code = .ok m.syntax_ ∧
      (∀ e ∈ m.syntax_.edits, e.start ≤ e.stop ∧ e.stop ≤ Text.byteSize m.code.toList) ∧
      (∃ out s, Spliced m.resolved [] 0 {} m.syntax_.edits m.code.toList out s) ∧
      (∀ out s, Spliced m.resolved [] 0 {} m.syntax_.edits m.code.toList out s →
        m.body = exportHeader s.getters ++ String.ofList out) ∧
      m.body =
        "__pg_export(exports, \x7b \"default\": function () \x7b return __default__; \x7d \x7d);\n" ++
          "const __default__ = function () \x7b return 1; \x7d;" ++
          "f(Promise.resolve().then(function () \x7b return require(\"./x.js\"); \x7d));\n" := by
  intro m
  have hparse : ModuleSyntax.parse m.id m.code = .ok m.syntax_ :=
    parse_of_toOption (by decide +kernel)
  obtain ⟨hbounds, hexists, hbody, -⟩ := body_spliced m hparse
  exact ⟨hparse, hbounds, hexists, hbody, by decide +kernel⟩

end LiveBundle
