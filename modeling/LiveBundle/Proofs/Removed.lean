import LiveBundle.Proofs.Splice
import LiveBundle.Proofs.Script.Outline

/-!
# Which statements are dropped

Types have no counterpart in a bundle, so a statement that only types know about is dropped. So is
every exported declaration that linking has no form for, whether it is one of types or not: an
enumeration, a namespace and an assignment of a module go the same way, with their values. Without
`export`, the assignment of a module is refused.

* `isRemoval_iff`: the ranges that are dropped are those of the statements of these sorts.
* `unsupported_eq_find`: a module is refused for the first statement of another sort.
* `removed_iff` puts these together.
-/

namespace LiveBundle

open Script (Program Statement StatementSort)
open ModuleSyntax (itemEdits siteEdit editOf isTyped unsupported? ofProgram)

section

variable {text : List Char} {outline : List (Statement text)}

lemma isRemoval_eq_true {e : Edit} : e.isRemoval = true ↔ e.replacement = .remove :=
  decide_eq_true_iff

/-- The edits that drop something are those of the ranges of statements. -/
lemma isRemoval_iff (htold : ∀ st ∈ outline, st.Told) {e : Edit} :
    e ∈ (outline.map (·.item)).flatMap itemEdits ∧ e.isRemoval = true ↔
      ∃ st ∈ outline, st.sort.isDropped = true ∧ e = editOf st.range .remove := by
  have hstatement {st : Statement text} (hst : st ∈ outline) :
      e ∈ itemEdits st.item ∧ e.isRemoval = true ↔
        st.sort.isDropped = true ∧ e = editOf st.range .remove := by
    rw [← List.mem_filter, (htold st hst).removed]
    cases st.sort.isDropped <;> simp
  rw [List.flatMap_map]
  constructor
  · rintro ⟨he, hremoval⟩
    obtain ⟨st, hst, he⟩ := List.mem_flatMap.mp he
    exact ⟨st, hst, (hstatement hst).mp ⟨he, hremoval⟩⟩
  · rintro ⟨st, hst, hdropped⟩
    obtain ⟨he, hremoval⟩ := (hstatement hst).mpr hdropped
    exact ⟨List.mem_flatMap.mpr ⟨st, hst, he⟩, hremoval⟩

/-- A module is refused where the first statement starts that is of a refused sort. -/
lemma unsupported_eq_find (htold : ∀ st ∈ outline, st.Told) :
    unsupported? (outline.map (·.item)) =
      (outline.find? (·.sort.isRefused)).map (·.range.start) := by
  have hfind : unsupported? (outline.map (·.item)) =
      (outline.map (·.item)).findSome? Script.Item.refusedAt? := rfl
  rw [hfind]
  induction outline with
  | nil => rfl
  | cons st outline ih =>
    have hfirst := (htold st List.mem_cons_self).refused
    rw [List.map_cons, List.findSome?_cons, hfirst, List.find?_cons]
    cases st.sort.isRefused
    · exact ih (fun x hx => htold x (List.mem_cons_of_mem _ hx)) rfl
    · rfl

/-- The range of a statement lies apart from the range of another one that is dropped. -/
lemma apart_of_isDropped (hapart : outline.Pairwise fun a b => a.range.stop ≤ b.range.start)
    {st dropped : Statement text} (hst : st ∈ outline) (hdropped : dropped ∈ outline)
    (hstays : st.sort.isDropped = false) (hdrops : dropped.sort.isDropped = true) :
    dropped.range.stop ≤ st.range.start ∨ st.range.stop ≤ dropped.range.start := by
  have hsymm : Std.Symm fun a b : Statement text =>
      a.range.stop ≤ b.range.start ∨ b.range.stop ≤ a.range.start := ⟨fun _ _ => Or.symm⟩
  have hboth : outline.Pairwise fun a b =>
      a.range.stop ≤ b.range.start ∨ b.range.stop ≤ a.range.start := hapart.imp Or.inl
  refine hboth.forall hdropped hst ?_
  rintro rfl
  rw [hstays] at hdrops
  cases hdrops

end

/-- A module that is read consists of statements that follow each other, each of a sort. If one of
them is an assignment of a module without `export`, an assignment of the exports or a name for the
global scope, the module is refused, at the first such statement. Otherwise the ranges that are
dropped are those of the statements in which nothing exists at run time, and those of exported
enumerations, namespaces, additions to the global scope and assignments of modules. What any other
statement says is not dropped. -/
theorem removed_iff (id code : String) {program : Program code.toList}
    (h : Program.parse (isTyped id) code.toList = some program) :
    ∃ outline, Program.outline? (isTyped id) code.toList = some outline ∧
      outline.map (·.item) = program.items ∧
      (outline.Pairwise fun a b => a.range.stop ≤ b.range.start) ∧
      (∀ st, outline.find? (·.sort.isRefused) = some st →
        ModuleSyntax.parse id code =
          .error (Diagnostic.at "Unsupported module syntax" id code st.range.start)) ∧
      ((∀ st ∈ outline, st.sort.isRefused = false) →
        ∃ syntax_, ModuleSyntax.parse id code = .ok syntax_ ∧
          (∀ e, e ∈ syntax_.edits ∧ e.replacement = .remove ↔
            ∃ st ∈ outline, (st.sort.hasNoValue = true ∨ st.sort.isLost = true) ∧
              e = editOf st.range .remove) ∧
          ∀ st ∈ outline, st.sort.hasNoValue = false → st.sort.isLost = false →
            ∀ e ∈ syntax_.edits, e.replacement = .remove →
              e.stop ≤ st.range.start ∨ st.range.stop ≤ e.start) := by
  obtain ⟨outline, houtline, hitems, houtlined⟩ := Program.outline_of_parse h
  have hunsupported := unsupported_eq_find houtlined.told
  rw [hitems] at hunsupported
  refine ⟨outline, houtline, hitems, houtlined.apart, fun st hst => ?_, fun hall => ?_⟩
  · rw [hst, Option.map_some] at hunsupported
    simp only [ModuleSyntax.parse, h, hunsupported]
  · rw [List.find?_eq_none.mpr fun st hst => by rw [hall st hst]; exact nofun] at hunsupported
    have hperm := sortEdits_perm (program.items.flatMap itemEdits ++ program.sites.map siteEdit)
    have hdropped {st : Statement code.toList} : st.sort.isDropped = true ↔
        st.sort.hasNoValue = true ∨ st.sort.isLost = true := Bool.or_eq_true_iff
    have hremoval (e : Edit) :
        e ∈ (ofProgram program).edits ∧ e.replacement = .remove ↔
          ∃ st ∈ outline, st.sort.isDropped = true ∧ e = editOf st.range .remove := by
      rw [← isRemoval_iff houtlined.told, hitems, isRemoval_eq_true]
      refine and_congr_left fun hremove => (hperm.mem_iff.trans List.mem_append).trans ?_
      refine or_iff_left fun hsite => ?_
      obtain ⟨site, -, rfl⟩ := List.mem_map.mp hsite
      cases site <;> cases hremove
    refine ⟨ofProgram program, ModuleSyntax.parse_of_program h hunsupported, fun e => ?_, ?_⟩
    · rw [hremoval]
      simp only [hdropped]
    · intro st hst hvalue hlost e he hremove
      obtain ⟨dropped, hmem, hdrops, rfl⟩ := (hremoval e).mp ⟨he, hremove⟩
      have hstays : st.sort.isDropped = false := by
        rw [StatementSort.isDropped, hvalue, hlost]
        rfl
      exact apart_of_isDropped houtlined.apart hst hmem hstays hdrops

/-- The sorts of the statements of a module. -/
def sortsOf (id code : String) : Option (List StatementSort) :=
  (Program.outline? (isTyped id) code.toList).map (·.map (·.sort))

/-- An import of types and an interface are dropped, and a variable stays. -/
theorem removed_iff_types :
    let id := "virtual:file/a.ts"
    let code := "import type \x7b T \x7d from './t.js';\nexport interface I \x7b\x7d\nexport const a = 1;\n"
    ∃ outline syntax_, Program.outline? (isTyped id) code.toList = some outline ∧
      outline.map (·.sort) =
        [.imports true, .exportDeclaration false .interface, .exportDeclaration false .value] ∧
      ModuleSyntax.parse id code = .ok syntax_ ∧
      ∀ e, e ∈ syntax_.edits ∧ e.replacement = .remove ↔
        ∃ st ∈ outline, (st.sort.hasNoValue = true ∨ st.sort.isLost = true) ∧
          e = editOf st.range .remove := by
  intro id code
  obtain ⟨program, hprogram⟩ :
      ∃ program, Program.parse (isTyped id) code.toList = some program :=
    Option.isSome_iff_exists.mp (by decide +kernel)
  obtain ⟨outline, houtline, -, -, -, hstays⟩ := removed_iff id code hprogram
  have hsorts : sortsOf id code = some
      [.imports true, .exportDeclaration false .interface, .exportDeclaration false .value] := by
    decide +kernel
  rw [sortsOf, houtline, Option.map_some, Option.some.injEq] at hsorts
  have hrefused : ∀ sort ∈ outline.map (·.sort), sort.isRefused = false := by
    rw [hsorts]
    decide
  obtain ⟨syntax_, hparse, hremoved, -⟩ :=
    hstays fun st hst => hrefused st.sort (List.mem_map_of_mem hst)
  exact ⟨outline, syntax_, houtline, hsorts, hparse, hremoved⟩

/-- An exported enumeration and an exported assignment of a module are dropped; without `export` the
assignment is refused. -/
theorem not_removed_values :
    let id := "virtual:file/lib/index.ts"
    let enumeration := "export enum E \x7b A = 1 \x7d"
    let assignment := "export import fs = require('fs');"
    let own := "import fs = require('fs');"
    (sortsOf id enumeration = some [.exportDeclaration false .enumeration] ∧
      (ModuleSyntax.parse id enumeration).toOption = some ⟨[], [⟨0, 23, .remove⟩]⟩) ∧
    (sortsOf id assignment = some [.importAssignment true false (some "fs")] ∧
      (ModuleSyntax.parse id assignment).toOption = some ⟨[], [⟨0, 33, .remove⟩]⟩) ∧
    sortsOf id own = some [.importAssignment false false (some "fs")] ∧
      (ModuleSyntax.parse id own).toOption = none := by
  refine ⟨⟨?_, ?_⟩, ⟨?_, ?_⟩, ?_, ?_⟩
  all_goals decide +kernel

end LiveBundle
