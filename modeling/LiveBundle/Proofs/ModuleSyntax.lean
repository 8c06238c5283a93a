import LiveBundle.Bundle.ModuleSyntax
import LiveBundle.Sort
import Mathlib.Data.List.Nodup

/-!
# Dependencies and edits

What a module asks for is collected beside its edits. Both come from the same statements and sites,
so the dependencies are what the edits ask for, each once: `mem_firsts` and `firsts_nodup` describe
the selection of first occurrences, `mem_dependencies_iff` compares dependencies and edits, and
`mem_dependencies_of_requested` is the consequence that linking needs.
-/

namespace LiveBundle.ModuleSyntax

/-- The specifier that an edit asks for. -/
def requested? (e : Edit) : Option String :=
  match e.replacement with
  | .importing specifier _ | .reexportAll specifier | .reexportNamespace specifier _
  | .reexportNamed specifier _ | .dynamicImport specifier | .requireArgument specifier =>
    some specifier
  | _ => none

/-- What the selection of first occurrences keeps, behind those that were selected before. -/
lemma firsts_foldl (xs acc : List String) (hacc : acc.Nodup) :
    (xs.foldl (fun acc x => if acc.contains x then acc else acc ++ [x]) acc).Nodup ∧
      ∀ y, y ∈ xs.foldl (fun acc x => if acc.contains x then acc else acc ++ [x]) acc ↔
        y ∈ acc ∨ y ∈ xs := by
  -- What is selected before decides what is kept, so both facts are carried along together.
  induction xs generalizing acc with
  | nil => simpa using hacc
  | cons x xs ih =>
    rw [List.foldl_cons]
    by_cases hx : x ∈ acc
    · rw [if_pos (by simpa using hx)]
      refine ⟨(ih acc hacc).1, fun y => ?_⟩
      rw [(ih acc hacc).2, List.mem_cons]
      constructor
      · rintro (h | h) <;> simp [h]
      · rintro (h | rfl | h) <;> simp_all
    · rw [if_neg (by simpa using hx)]
      have hacc' : (acc ++ [x]).Nodup := by
        rw [List.nodup_append_comm]
        exact List.nodup_cons.mpr ⟨hx, hacc⟩
      refine ⟨(ih _ hacc').1, fun y => ?_⟩
      rw [(ih _ hacc').2, List.mem_append, List.mem_singleton, List.mem_cons, or_assoc]

/-- First occurrences are all elements. -/
lemma mem_firsts {xs : List String} {y : String} : y ∈ firsts xs ↔ y ∈ xs := by
  rw [firsts, (firsts_foldl xs [] List.nodup_nil).2]
  exact ⟨fun h => h.resolve_left List.not_mem_nil, Or.inr⟩

/-- An element occurs first only once. -/
lemma firsts_nodup (xs : List String) : (firsts xs).Nodup := (firsts_foldl xs [] List.nodup_nil).1

/-- A script with nothing unsupported in it gives its module syntax. -/
lemma parse_of_program {id code : String} {program : Script.Program code.toList}
    (hprogram : Script.Program.parse (isTyped id) code.toList = some program)
    (hsupported : unsupported? program.items = none) : parse id code = .ok (ofProgram program) := by
  unfold parse
  rw [hprogram]
  simp only [hsupported]

/-- The module syntax of a text is that of the script in it. -/
lemma exists_program_of_parse {id code : String} {m : ModuleSyntax} (h : parse id code = .ok m) :
    ∃ program, Script.Program.parse (isTyped id) code.toList = some program ∧
      m = ofProgram program := by
  unfold parse at h
  split at h
  · cases h
  · rename_i program hprogram
    split at h
    · cases h
    · cases h
      exact ⟨program, hprogram, rfl⟩

lemma dependencies_nodup {id code : String} {m : ModuleSyntax} (h : parse id code = .ok m) :
    m.dependencies.Nodup := by
  obtain ⟨program, -, rfl⟩ := exists_program_of_parse h
  exact firsts_nodup _

section

variable {text : List Char}

/-- The edits of a statement ask for what is collected from it. -/
lemma requested_itemEdits (item : Script.Item text) :
    (itemEdits item).filterMap requested? = (itemRequests item).map (·.2) := by
  cases item with
  | exportAll span specifier name => cases name <;> rfl
  | exportDeclaration span head declaration =>
    simp only [itemEdits]
    split <;> rfl
  | _ => rfl

lemma requested_siteEdit (site : Script.Site text) :
    requested? (siteEdit site) = some (siteRequest site).2 := by
  cases site <;> rfl

lemma requested_edits (program : Script.Program text) :
    (program.items.flatMap itemEdits ++ program.sites.map siteEdit).filterMap requested? =
      (program.items.flatMap itemRequests ++ program.sites.map siteRequest).map (·.2) := by
  have hsites : requested? ∘ siteEdit = fun site : Script.Site text => some (siteRequest site).2 :=
    funext requested_siteEdit
  rw [List.filterMap_append, List.map_append, List.filterMap_flatMap, List.map_flatMap,
    List.filterMap_map, List.map_map, hsites]
  simp only [requested_itemEdits, List.filterMap_eq_map']
  rfl

end

/-- The dependencies of a module are what its edits ask for. -/
lemma mem_dependencies_iff {id code : String} {m : ModuleSyntax} (h : parse id code = .ok m)
    (specifier : String) :
    specifier ∈ m.dependencies ↔ ∃ e ∈ m.edits, requested? e = some specifier := by
  obtain ⟨program, -, rfl⟩ := exists_program_of_parse h
  -- Neither of the two orders matters here.
  have hrequests : (requestsOf program).Perm
      (program.items.flatMap itemRequests ++ program.sites.map siteRequest) := sortBy_perm _
  have hedits : (editsOf program).Perm
      (program.items.flatMap itemEdits ++ program.sites.map siteEdit) := sortBy_perm _
  calc
    _ ↔ specifier ∈ (requestsOf program).map (·.2) := mem_firsts
    _ ↔ specifier ∈ (editsOf program).filterMap requested? := by
      rw [(hrequests.map _).mem_iff, (hedits.filterMap _).mem_iff, requested_edits]
    _ ↔ _ := List.mem_filterMap

/-- What an edit asks for is a dependency. -/
lemma mem_dependencies_of_requested {id code : String} {m : ModuleSyntax}
    (h : parse id code = .ok m) {e : Edit} (he : e ∈ m.edits) {specifier : String}
    (hreq : requested? e = some specifier) : specifier ∈ m.dependencies :=
  (mem_dependencies_iff h specifier).mpr ⟨e, he, hreq⟩

/-- What is known of the dependencies of a text that is read. -/
lemma exists_parse_of_dependencies {id code : String} {dependencies : List String}
    (h : (parse id code).toOption.map (·.dependencies) = some dependencies) :
    ∃ m, parse id code = .ok m ∧ m.dependencies = dependencies := by
  cases hparse : parse id code with
  | error d =>
    rw [hparse] at h
    cases h
  | ok m =>
    rw [hparse] at h
    exact ⟨m, rfl, Option.some.inj h⟩

end LiveBundle.ModuleSyntax
