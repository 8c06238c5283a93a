import LiveBundle.Proofs.FactoryNames
import LiveBundle.Proofs.Link
import LiveBundle.Proofs.Script.Outline

/-!
# Which edits are applied

The edits of a module are apart or nested, and of two that are nested the outer one is applied. The
edits of statements start in the range of no other one, so that only a site is ever left out: one
that stands inside of another dynamic import or in a statement that is dropped. Such a site still
makes its module a dependency.

* `mem_keptEdits_of_startsOutside`, `startsOutside_of_mem_keptEdits`: an edit is kept if and only if
  it starts in the range of no other one.
* `Module.mem_kept_of_item`: the edits of statements are kept.
* `keptEdits_eq_self`: all edits are kept if and only if no two ranges overlap.
* `dependency_required_iff` puts these together.
-/

namespace LiveBundle

open Script (Program)
open ModuleSyntax (itemEdits siteEdit requested? isTyped)

/-! ## Edits that are kept -/

/-- The ranges of two edits do not overlap. -/
def Edit.Apart (a b : Edit) : Prop := a.stop ≤ b.start ∨ b.stop ≤ a.start

instance : Std.Symm Edit.Apart := ⟨fun _ _ => Or.symm⟩

instance : Std.Symm Edit.Nests := ⟨fun _ _ => Edit.Nests.symm⟩

/-- An edit that starts in the range of no other one is kept. -/
lemma mem_keptEdits_of_startsOutside {size position : Nat} {e : Edit} {es : List Edit}
    (he : e ∈ es) (hposition : position ≤ e.start) (hsorted : es.Pairwise Edit.Leads)
    (hnests : es.Pairwise Edit.Nests) (hle : ∀ a ∈ es, a.start ≤ a.stop ∧ a.stop ≤ size)
    (hstarts : ∀ a ∈ es, e.StartsOutside a) : e ∈ keptEdits size position es := by
  induction es generalizing position with
  | nil => cases he
  | cons x xs ih =>
    obtain ⟨hleads, hsorted⟩ := List.pairwise_cons.mp hsorted
    obtain ⟨hfirst, hnests⟩ := List.pairwise_cons.mp hnests
    have hx := hle x List.mem_cons_self
    have hrest (position : Nat) (he : e ∈ xs) (hposition : position ≤ e.start) :
        e ∈ keptEdits size position xs :=
      ih he hposition hsorted hnests (fun a ha => hle a (List.mem_cons_of_mem _ ha))
        fun a ha => hstarts a (List.mem_cons_of_mem _ ha)
    unfold keptEdits
    rcases List.mem_cons.mp he with rfl | he
    · rw [if_neg (by omega)]
      exact List.mem_cons_self
    · split
      · exact hrest position he hposition
      · refine List.mem_cons_of_mem _ (hrest x.stop he ?_)
        have hlead := hleads e he
        have houtside := hstarts x List.mem_cons_self
        have hbounds := hle e (List.mem_cons_of_mem _ he)
        rcases hfirst e he with h | h | ⟨h, -⟩ | ⟨h, -⟩ <;>
          unfold Edit.Leads at hlead <;> unfold Edit.StartsOutside at houtside <;> omega

/-- An edit that is kept starts in the range of no other one. -/
lemma startsOutside_of_mem_keptEdits {size : Nat} {e : Edit} {es : List Edit}
    (he : e ∈ keptEdits size 0 es) (hsorted : es.Pairwise Edit.Leads)
    (hnests : es.Pairwise Edit.Nests) (hle : ∀ a ∈ es, a.start ≤ a.stop ∧ a.stop ≤ size) :
    ∀ a ∈ es, e.StartsOutside a := by
  intro a ha
  obtain ⟨k, hk, hstart, hstop⟩ := within_keptEdits hsorted hnests hle a ha
  have hapart : (keptEdits size 0 es).Pairwise Edit.Apart :=
    (keptEdits_apart size 0 fun a ha => (hle a ha).1).2.imp .inl
  have hbounds := hle e ((keptEdits_sublist size 0 es).subset he)
  by_cases heq : e = k
  · exact .inl (heq ▸ hstart)
  · rcases hapart.forall he hk heq with h | h
    · exact .inl (by omega)
    · exact .inr (by omega)

/-- All edits are kept if and only if each of them ends where the next one starts, or before. -/
lemma keptEdits_eq_self {size : Nat} {es : List Edit}
    (hle : ∀ e ∈ es, e.start ≤ e.stop ∧ e.stop ≤ size) :
    keptEdits size 0 es = es ↔ es.Pairwise fun a b => a.stop ≤ b.start := by
  constructor
  · intro h
    rw [← h]
    exact (keptEdits_apart size 0 fun e he => (hle e he).1).2
  · intro h
    have hall (position : Nat) (hposition : ∀ e ∈ es, position ≤ e.start) :
        keptEdits size position es = es := by
      induction es generalizing position with
      | nil => rfl
      | cons e es ih =>
        obtain ⟨hnext, h⟩ := List.pairwise_cons.mp h
        have hfirst := hposition e List.mem_cons_self
        have hstop := hle e List.mem_cons_self
        rw [keptEdits, if_neg (by omega),
          ih (fun x hx => hle x (List.mem_cons_of_mem _ hx)) h e.stop hnext]
    exact hall 0 fun _ _ => Nat.zero_le _

/-- What is rendered is one of the edits. -/
lemma mem_of_rendered {resolved : Dict String} {size position : Nat} {s s' : Splice}
    {es : List Edit} {e : Edit} (h : .rendered e s' ∈ piecesFrom resolved size position s es) :
    e ∈ es := by
  induction es generalizing position s with
  | nil => cases List.mem_singleton.mp h
  | cons x es ih =>
    rcases List.mem_cons.mp ((List.mem_cons.mp h).resolve_left nofun) with heq | h
    · cases heq
      exact List.mem_cons_self
    · exact List.mem_cons_of_mem _ (ih h)

/-! ## Modules -/

namespace Module

variable {m : Module}

lemma exists_rendered_of_mem_kept {e : Edit} (h : e ∈ m.kept) : ∃ s, .rendered e s ∈ m.pieces :=
  exists_rendered _ _ _ h

lemma mem_kept_of_rendered {e : Edit} {s : Splice} (h : .rendered e s ∈ m.pieces) : e ∈ m.kept :=
  mem_of_rendered h

/-- An edit is applied if and only if it starts in the range of no other one. -/
lemma mem_kept_iff (h : ModuleSyntax.parse m.id m.code = .ok m.syntax_) {e : Edit} :
    e ∈ m.kept ↔ e ∈ m.syntax_.edits ∧ ∀ a ∈ m.syntax_.edits, e.StartsOutside a := by
  obtain ⟨-, -, -, hsorted, hnests, hcuts⟩ := edits_of_parse h
  have hle : ∀ a ∈ m.syntax_.edits, a.start ≤ a.stop ∧ a.stop ≤ Text.byteSize m.code.toList :=
    fun a ha => ⟨(hcuts a ha).start_le, (hcuts a ha).stop_le⟩
  constructor
  · intro he
    exact ⟨(keptEdits_sublist _ _ _).subset he,
      startsOutside_of_mem_keptEdits he hsorted hnests hle⟩
  · rintro ⟨he, hstarts⟩
    exact mem_keptEdits_of_startsOutside he (Nat.zero_le _) hsorted hnests hle hstarts

/-- The edits of statements are applied. -/
lemma mem_kept_of_item {typescript : Bool} {program : Program m.code.toList}
    (h : ModuleSyntax.parse m.id m.code = .ok m.syntax_)
    (hprogram : Program.parse typescript m.code.toList = some program)
    (hperm : m.syntax_.edits.Perm (program.items.flatMap itemEdits ++ program.sites.map siteEdit))
    {e : Edit} (he : e ∈ program.items.flatMap itemEdits) : e ∈ m.kept := by
  obtain ⟨outline, -, hitems, houtlined⟩ := Program.outline_of_parse hprogram
  refine (mem_kept_iff h).mpr ⟨hperm.mem_iff.mpr (List.mem_append_left _ he), fun a ha => ?_⟩
  exact houtlined.starts e (hitems ▸ he) a (hitems ▸ hperm.mem_iff.mp ha)

/-- An edit that is left out is that of a site, and lies inside of an edit that is applied. -/
lemma inside_of_not_mem_kept {program : Program m.code.toList}
    (h : ModuleSyntax.parse m.id m.code = .ok m.syntax_)
    (hprogram : Program.parse (isTyped m.id) m.code.toList = some program)
    (hperm : m.syntax_.edits.Perm (program.items.flatMap itemEdits ++ program.sites.map siteEdit))
    {e : Edit} (he : e ∈ m.syntax_.edits) (hleft : e ∉ m.kept) :
    e ∈ program.sites.map siteEdit ∧ ∃ k ∈ m.kept, e.Inside k := by
  obtain ⟨-, -, -, hsorted, hnests, hcuts⟩ := edits_of_parse h
  have hle : ∀ a ∈ m.syntax_.edits, a.start ≤ a.stop ∧ a.stop ≤ Text.byteSize m.code.toList :=
    fun a ha => ⟨(hcuts a ha).start_le, (hcuts a ha).stop_le⟩
  have hsite : e ∈ program.sites.map siteEdit :=
    (List.mem_append.mp (hperm.mem_iff.mp he)).resolve_left fun hitem =>
      hleft (mem_kept_of_item h hprogram hperm hitem)
  -- It starts in the range of another edit, which lies in the range of one that is applied.
  obtain ⟨a, ha, hstarts⟩ : ∃ a ∈ m.syntax_.edits, ¬e.StartsOutside a := by
    by_contra hnone
    exact hleft ((mem_kept_iff h).mpr ⟨he, fun a ha => by_contra fun hne => hnone ⟨a, ha, hne⟩⟩)
  obtain ⟨k, hk, hstart, hstop⟩ := within_keptEdits hsorted hnests hle a ha
  refine ⟨hsite, k, hk, ?_⟩
  have hbounds := hle e he
  unfold Edit.StartsOutside at hstarts
  have hne : e ≠ k := by
    rintro rfl
    omega
  rcases hnests.forall he ((keptEdits_sublist _ _ _).subset hk) hne with h | h | h | h
  · omega
  · omega
  · exact h
  · have hinner := h.1
    omega

end Module

/-! ## Dependencies -/

/-- The edits of a module are in the order of the text, and any two of them apart or nested. All of
them are applied if and only if no two overlap; one that is left out is that of a site inside of an
edit that is applied. Each dependency is asked for by an edit, and the body of the factory asks for
it if and only if one of these edits starts in the range of no other one. -/
theorem dependency_required_iff (m : Module)
    (h : ModuleSyntax.parse m.id m.code = .ok m.syntax_) :
    ∃ program, Program.parse (isTyped m.id) m.code.toList = some program ∧
      m.body.toList = (exportHeader m.getters).toList ++
        m.pieces.flatMap (Piece.text m.resolved m.code.toList) ∧
      m.syntax_.edits.Pairwise Edit.Leads ∧ m.syntax_.edits.Pairwise Edit.Nests ∧
      (m.kept = m.syntax_.edits ↔ m.syntax_.edits.Pairwise fun a b => a.stop ≤ b.start) ∧
      (∀ e ∈ m.syntax_.edits, e ∉ m.kept →
        e ∈ program.sites.map siteEdit ∧ ∃ k ∈ m.kept, e.Inside k) ∧
      (∀ specifier, specifier ∈ m.syntax_.dependencies ↔
        ∃ e ∈ m.syntax_.edits, requested? e = some specifier) ∧
      ∀ specifier ∈ m.syntax_.dependencies,
        ((∃ e s, .rendered e s ∈ m.pieces ∧ requested? e = some specifier ∧
          AsksFor m.resolved specifier e.replacement
            (renderReplacement m.resolved s e.replacement).1) ↔
        ∃ e ∈ m.syntax_.edits, requested? e = some specifier ∧
          ∀ a ∈ m.syntax_.edits, e.StartsOutside a) := by
  obtain ⟨program, hprogram, hperm, hsorted, hnests, hcuts⟩ := edits_of_parse h
  have hle : ∀ e ∈ m.syntax_.edits, e.start ≤ e.stop ∧ e.stop ≤ Text.byteSize m.code.toList :=
    fun e he => ⟨(hcuts e he).start_le, (hcuts e he).stop_le⟩
  refine ⟨program, hprogram, m.body_eq_pieces h, hsorted, hnests, keptEdits_eq_self hle,
    fun e he hleft => Module.inside_of_not_mem_kept h hprogram hperm he hleft, fun specifier => ?_,
    fun specifier _ => ⟨?_, ?_⟩⟩
  · exact ModuleSyntax.mem_dependencies_iff h specifier
  · rintro ⟨e, s, hrendered, hrequested, -⟩
    obtain ⟨he, hstarts⟩ := (Module.mem_kept_iff h).mp (Module.mem_kept_of_rendered hrendered)
    exact ⟨e, he, hrequested, hstarts⟩
  · rintro ⟨e, he, hrequested, hstarts⟩
    obtain ⟨s, hs⟩ :=
      Module.exists_rendered_of_mem_kept ((Module.mem_kept_iff h).mpr ⟨he, hstarts⟩)
    exact ⟨e, s, hs, hrequested, rendered_asksFor hrequested s⟩

namespace Applied

/-- A module with an exported enumeration that asks for another module, and an import. -/
def dropping : Module :=
  .alone "virtual:file/a.ts" "export enum E \x7b A = require('./m.js') \x7d\nimport './n.js';\n"
    ⟨["./m.js", "./n.js"], [⟨0, 39, .remove⟩, ⟨28, 36, .requireArgument "./m.js"⟩,
      ⟨40, 56, .importing "./n.js" {}⟩]⟩

/-- A module with a dynamic import in the options of another one. -/
def nesting : Module :=
  .alone "virtual:file/a.js" "import('./x.js', import('./y.js'));\n"
    ⟨["./x.js", "./y.js"], [⟨0, 34, .dynamicImport "./x.js"⟩, ⟨17, 33, .dynamicImport "./y.js"⟩]⟩

end Applied

/-- What an enumeration that is dropped asks for is asked for nowhere else. -/
theorem dependency_required_iff_dropping :
    let m := Applied.dropping
    ModuleSyntax.parse m.id m.code = .ok m.syntax_ ∧
      (∃ e s, .rendered e s ∈ m.pieces ∧ requested? e = some "./n.js" ∧
        AsksFor m.resolved "./n.js" e.replacement
          (renderReplacement m.resolved s e.replacement).1) ∧
      ¬∃ e s, .rendered e s ∈ m.pieces ∧ requested? e = some "./m.js" ∧
        AsksFor m.resolved "./m.js" e.replacement
          (renderReplacement m.resolved s e.replacement).1 := by
  intro m
  have hparse : ModuleSyntax.parse m.id m.code = .ok m.syntax_ :=
    parse_of_toOption (by decide +kernel)
  obtain ⟨program, -, -, -, -, -, -, -, hrequired⟩ := dependency_required_iff m hparse
  refine ⟨hparse, (hrequired "./n.js" (by decide)).mpr (by decide), fun hm => ?_⟩
  exact absurd ((hrequired "./m.js" (by decide)).mp hm) (by decide)

/-- The second dynamic import makes its module a dependency, and is thrown away with the first. -/
theorem not_dependency_required_nesting :
    let m := Applied.nesting
    ModuleSyntax.parse m.id m.code = .ok m.syntax_ ∧
      ¬(m.syntax_.edits.Pairwise fun a b => a.stop ≤ b.start) ∧
      "./y.js" ∈ m.syntax_.dependencies ∧
      m.body = "Promise.resolve().then(function () \x7b return require(\"./x.js\"); \x7d);\n" ∧
      ¬(requireCall m.resolved "./y.js").toList <:+: m.body.toList :=
  ⟨parse_of_toOption (by decide +kernel), by decide, by decide, by decide +kernel,
    by decide +kernel⟩

end LiveBundle
