import LiveBundle.Proofs.ModuleSyntax
import Mathlib.Data.List.Induction
import Mathlib.Order.Bounds.Defs

/-!
# The order of dependencies

A module depends on what its statements and calls ask for. These are found in two goes, statements
before calls, and what they ask for is collected beside the edits that they give. Only sorting
brings it into the order of the text; the dependencies are then the specifiers where they occur
first.

* `Replacement.Names` and `Program.Asks` say what asks for a module, the one of edits, the other of
  what stands in the text; `namedAt_editsOf` and `mem_requestsOf` say that both lists have it.
* `firsts_pairwise`: first occurrences keep the order of the list.
* `exists_first`: in a list by offsets, they are in the order of the smallest offsets.
* `dependencies_ordered` puts these together.
-/

namespace LiveBundle

open Script (Item Site Program)
open ModuleSyntax (itemEdits siteEdit editOf itemRequests siteRequest requestsOf editsOf isTyped
  ofProgram requested? firsts)

variable {specifier : String} {text : List Char}

/-! ## What asks for a module -/

/-- The replacement is that of an import, of an export from another module or of an expression that
asks for a module, and this is the specifier. -/
inductive Replacement.Names (specifier : String) : Replacement → Prop
  | importing (bindings : ImportBindings) : Names specifier (.importing specifier bindings)
  | reexportAll : Names specifier (.reexportAll specifier)
  | reexportNamespace (exported : String) : Names specifier (.reexportNamespace specifier exported)
  | reexportNamed (names : List (String × String)) :
      Names specifier (.reexportNamed specifier names)
  | dynamicImport : Names specifier (.dynamicImport specifier)
  | requireArgument : Names specifier (.requireArgument specifier)

lemma requested?_eq_some_iff (e : Edit) :
    requested? e = some specifier ↔ e.replacement.Names specifier := by
  obtain ⟨start, stop, replacement⟩ := e
  constructor
  · intro h
    cases replacement <;> cases h <;> constructor
  · intro h
    cases h <;> rfl

namespace Script

/-- A statement that starts at this offset asks for a module. -/
inductive Item.Asks (specifier : String) : Item text → Nat → Prop
  | importing (span : Span text) (clause : ImportClause) :
      Asks specifier (.importing span specifier clause) span.start
  | exportAll (span : Span text) (name : Option String) :
      Asks specifier (.exportAll span specifier name) span.start
  | exportFrom (span : Span text) (names : List ExportName) :
      Asks specifier (.exportFrom span specifier names) span.start

/-- An expression asks for a module, where its text or that of its argument starts. -/
inductive Site.Asks (specifier : String) : Site text → Nat → Prop
  | dynamicImport (span : Span text) : Asks specifier (.dynamicImport span specifier) span.start
  | requireArgument (span : Span text) : Asks specifier (.requireArgument span specifier) span.start

/-- A script asks for a module at this offset. -/
def Program.Asks (program : Program text) (specifier : String) (offset : Nat) : Prop :=
  (∃ item ∈ program.items, item.Asks specifier offset) ∨
    ∃ site ∈ program.sites, site.Asks specifier offset

/-- Whether a statement is only about types, so that nothing is left of it. -/
def Item.isErased : Item text → Bool
  | .typeOnly _ | .exportDefaultErased _ => true
  | .exportDeclaration _ _ declaration => declaration.names?.isNone
  | _ => false

/-- The script without the statements that are only about types. -/
def Program.withoutTypes (program : Program text) : Program text :=
  { program with items := program.items.filter (!·.isErased) }

end Script

/-- Among the edits there is one that names the specifier and starts at this offset. -/
def NamedAt (edits : List Edit) (specifier : String) (offset : Nat) : Prop :=
  ∃ e ∈ edits, e.replacement.Names specifier ∧ e.start = offset

lemma namedAt_append {as bs : List Edit} {offset : Nat} :
    NamedAt (as ++ bs) specifier offset ↔
      NamedAt as specifier offset ∨ NamedAt bs specifier offset := by
  simp only [NamedAt, List.mem_append, or_and_right, exists_or]

lemma namedAt_itemEdits (item : Item text) (offset : Nat) :
    NamedAt (itemEdits item) specifier offset ↔ item.Asks specifier offset := by
  constructor
  · rintro ⟨e, he, hnames, rfl⟩
    cases item with
    | importing span other clause =>
      cases List.mem_singleton.mp he
      cases hnames
      exact .importing span clause
    | exportAll span other name =>
      cases name <;>
      · cases List.mem_singleton.mp he
        cases hnames
        exact .exportAll span _
    | exportFrom span other names =>
      cases List.mem_singleton.mp he
      cases hnames
      exact .exportFrom span names
    | exportDeclaration span head declaration =>
      simp only [itemEdits] at he
      split at he <;>
      · cases List.mem_singleton.mp he
        cases hnames
    | exportDefaultAnonymous head tail =>
      rcases List.mem_pair.mp he with rfl | rfl <;> cases hnames
    | unsupported span => cases he
    | other => cases he
    | _ =>
      cases List.mem_singleton.mp he
      cases hnames
  · intro h
    cases h with
    | importing span clause => exact ⟨_, List.mem_singleton_self _, .importing _, rfl⟩
    | exportAll span name =>
      cases name with
      | none => exact ⟨_, List.mem_singleton_self _, .reexportAll, rfl⟩
      | some name => exact ⟨_, List.mem_singleton_self _, .reexportNamespace _, rfl⟩
    | exportFrom span names => exact ⟨_, List.mem_singleton_self _, .reexportNamed _, rfl⟩

lemma namedAt_siteEdit (site : Site text) (offset : Nat) :
    NamedAt [siteEdit site] specifier offset ↔ site.Asks specifier offset := by
  constructor
  · rintro ⟨e, he, hnames, rfl⟩
    cases List.mem_singleton.mp he
    cases site with
    | dynamicImport span other =>
      cases hnames
      exact .dynamicImport span
    | requireArgument span other =>
      cases hnames
      exact .requireArgument span
  · intro h
    cases h with
    | dynamicImport span => exact ⟨_, List.mem_singleton_self _, .dynamicImport, rfl⟩
    | requireArgument span => exact ⟨_, List.mem_singleton_self _, .requireArgument, rfl⟩

/-- The edits name what the statements and expressions ask for, at the same offsets. -/
lemma namedAt_editsOf (program : Program text) (offset : Nat) :
    NamedAt (editsOf program) specifier offset ↔ program.Asks specifier offset := by
  have hunsorted : NamedAt (editsOf program) specifier offset ↔
      NamedAt (program.items.flatMap itemEdits ++ program.sites.map siteEdit) specifier offset :=
    exists_congr fun e => and_congr_left fun _ => mem_sortBy
  rw [hunsorted, namedAt_append]
  refine or_congr ?_ ?_
  · simp only [← namedAt_itemEdits, NamedAt, List.mem_flatMap]
    constructor
    · rintro ⟨e, ⟨item, hitem, he⟩, hnames⟩
      exact ⟨item, hitem, e, he, hnames⟩
    · rintro ⟨item, hitem, e, he, hnames⟩
      exact ⟨e, ⟨item, hitem, he⟩, hnames⟩
  · simp only [← namedAt_siteEdit, NamedAt, List.mem_map, List.mem_singleton]
    constructor
    · rintro ⟨e, ⟨site, hsite, rfl⟩, hnames⟩
      exact ⟨site, hsite, _, rfl, hnames⟩
    · rintro ⟨site, hsite, e, rfl, hnames⟩
      exact ⟨_, ⟨site, hsite, rfl⟩, hnames⟩

lemma mem_itemRequests (item : Item text) (offset : Nat) :
    (offset, specifier) ∈ itemRequests item ↔ item.Asks specifier offset := by
  constructor
  · intro h
    cases item with
    | importing span other clause =>
      cases List.mem_singleton.mp h
      exact .importing span clause
    | exportAll span other name =>
      cases List.mem_singleton.mp h
      exact .exportAll span name
    | exportFrom span other names =>
      cases List.mem_singleton.mp h
      exact .exportFrom span names
    | _ => cases h
  · intro h
    cases h <;> exact List.mem_singleton_self _

lemma siteRequest_eq_iff (site : Site text) (offset : Nat) :
    siteRequest site = (offset, specifier) ↔ site.Asks specifier offset := by
  constructor
  · intro h
    cases site with
    | dynamicImport span other =>
      cases h
      exact .dynamicImport span
    | requireArgument span other =>
      cases h
      exact .requireArgument span
  · intro h
    cases h <;> rfl

/-- The same is collected beside the edits. -/
lemma mem_requestsOf (program : Program text) (offset : Nat) :
    (offset, specifier) ∈ requestsOf program ↔ program.Asks specifier offset := by
  rw [requestsOf, mem_sortBy, List.mem_append, List.mem_flatMap, List.mem_map]
  simp only [mem_itemRequests, siteRequest_eq_iff]
  rfl

/-! ## First occurrences -/

/-- The first occurrence of an element, with none of the other element in front of it. -/
def OccursFirst (xs : List String) (a b : String) : Prop :=
  ∃ front back, xs = front ++ a :: back ∧ b ∉ front

lemma firsts_concat (xs : List String) (x : String) :
    firsts (xs ++ [x]) = if (firsts xs).contains x then firsts xs else firsts xs ++ [x] :=
  List.foldl_append

/-- First occurrences keep the order of the list. -/
lemma firsts_pairwise (xs : List String) : (firsts xs).Pairwise (OccursFirst xs) := by
  induction xs using List.reverseRecOn with
  | nil => exact .nil
  | append_singleton xs x ih =>
    have hlonger : (firsts xs).Pairwise (OccursFirst (xs ++ [x])) :=
      ih.imp fun ⟨front, back, hxs, hfront⟩ => ⟨front, back ++ [x], by rw [hxs]; simp, hfront⟩
    rw [firsts_concat]
    split
    · exact hlonger
    · rename_i hnew
      have hx : x ∉ xs := by
        rw [List.contains_iff_mem, ModuleSyntax.mem_firsts] at hnew
        exact hnew
      refine List.pairwise_append.mpr ⟨hlonger, List.pairwise_singleton _ _, fun a ha b hb => ?_⟩
      obtain ⟨front, back, hxs⟩ := List.append_of_mem (ModuleSyntax.mem_firsts.mp ha)
      cases List.mem_singleton.mp hb
      refine ⟨front, back ++ [x], by rw [hxs]; simp, fun hfront => hx ?_⟩
      rw [hxs]
      exact List.mem_append_left _ hfront

/-- In a list by offsets, an element that occurs first has its smallest offset there, and nothing
that occurs later has a smaller one. -/
lemma exists_first {requests : List (Nat × String)} {a b : String}
    (hsorted : requests.Pairwise fun x y => x.1 ≤ y.1) (h : OccursFirst (requests.map (·.2)) a b) :
    ∃ offset, (offset, a) ∈ requests ∧ ∀ offset', (offset', b) ∈ requests → offset ≤ offset' := by
  obtain ⟨front, back, hsplit, hfront⟩ := h
  obtain ⟨before, rest, rfl, rfl, hrest⟩ := List.map_eq_append_iff.mp hsplit
  obtain ⟨⟨offset, a⟩, behind, rfl, rfl, -⟩ := List.map_eq_cons_iff.mp hrest
  refine ⟨offset, by simp, fun offset' hmem => ?_⟩
  rcases List.mem_append.mp hmem with hin | hin
  · exact absurd (List.mem_map.mpr ⟨_, hin, rfl⟩) hfront
  · rcases List.mem_cons.mp hin with heq | hin
    · exact Nat.le_of_eq (congrArg Prod.fst heq).symm
    · exact (List.pairwise_cons.mp (List.pairwise_append.mp hsorted).2.1).1 _ hin

lemma requestsOf_sorted (program : Program text) :
    (requestsOf program).Pairwise fun x y => x.1 ≤ y.1 := by
  have hdecides : Decides (fun x y : Nat × String => decide (x.1 < y.1)) fun x y => x.1 ≤ y.1 :=
    ⟨fun _ _ h => Nat.le_of_lt (of_decide_eq_true h),
      fun _ _ h => Nat.le_of_not_lt (of_decide_eq_false h), fun _ _ _ => Nat.le_trans⟩
  exact sortBy_pairwise hdecides _

/-! ## Statements about types -/

/-- A statement that is only about types is dropped, and nothing is asked for. -/
lemma edits_of_isErased {item : Item text} (h : item.isErased = true) :
    itemRequests item = [] ∧ ∃ span : Script.Span text, itemEdits item = [editOf span .remove] := by
  cases item with
  | typeOnly span => exact ⟨rfl, span, rfl⟩
  | exportDefaultErased span => exact ⟨rfl, span, rfl⟩
  | exportDeclaration span head declaration =>
    have hnames : declaration.names? = none := Option.isNone_iff_eq_none.mp h
    exact ⟨rfl, span, by simp only [itemEdits, hnames]⟩
  | _ => cases h

/-- Statements that are only about types do not count for the dependencies. -/
lemma dependencies_withoutTypes (program : Program text) :
    (ofProgram program.withoutTypes).dependencies = (ofProgram program).dependencies := by
  have hitems (items : List (Item text)) :
      (items.filter (!·.isErased)).flatMap itemRequests = items.flatMap itemRequests := by
    induction items with
    | nil => rfl
    | cons item items ih =>
      cases herased : item.isErased with
      | false =>
        rw [List.filter_cons_of_pos (by simp [herased]), List.flatMap_cons, List.flatMap_cons, ih]
      | true =>
        rw [List.filter_cons_of_neg (by simp [herased]), List.flatMap_cons,
          (edits_of_isErased herased).1, List.nil_append, ih]
  simp only [ofProgram, requestsOf, Program.withoutTypes, hitems]

/-! ## Modules -/

/-- The dependencies of a module are the specifiers of its edits, without duplicates. They are in
the order of the smallest offsets at which the statements and expressions that ask for them stand;
statements that are only about types are dropped, and the dependencies would be the same without
them. -/
theorem dependencies_ordered {id code : String} {m : ModuleSyntax}
    (h : ModuleSyntax.parse id code = .ok m) :
    ∃ program, Program.parse (isTyped id) code.toList = some program ∧
      m.dependencies.Nodup ∧
      (∀ specifier, specifier ∈ m.dependencies ↔
        ∃ e ∈ m.edits, e.replacement.Names specifier) ∧
      (∀ specifier offset, NamedAt m.edits specifier offset ↔ program.Asks specifier offset) ∧
      (∀ specifier ∈ m.dependencies,
        ∃ offset, IsLeast {n | NamedAt m.edits specifier n} offset) ∧
      (m.dependencies.Pairwise fun a b => ∀ offset offset',
        IsLeast {n | NamedAt m.edits a n} offset → IsLeast {n | NamedAt m.edits b n} offset' →
          offset ≤ offset') ∧
      (∀ item ∈ program.items, item.isErased = true →
        ∃ span : Script.Span code.toList, itemEdits item = [editOf span .remove]) ∧
      (ofProgram program.withoutTypes).dependencies = m.dependencies := by
  have hnodup := ModuleSyntax.dependencies_nodup h
  have hedits := ModuleSyntax.mem_dependencies_iff h
  obtain ⟨program, hprogram, rfl⟩ := ModuleSyntax.exists_program_of_parse h
  have hnamed (specifier : String) (offset : Nat) :
      NamedAt (editsOf program) specifier offset ↔ (offset, specifier) ∈ requestsOf program :=
    (namedAt_editsOf program offset).trans (mem_requestsOf program offset).symm
  have hfirst {a b : String} (h : OccursFirst ((requestsOf program).map (·.2)) a b) :
      ∃ offset, NamedAt (editsOf program) a offset ∧
        ∀ offset', NamedAt (editsOf program) b offset' → offset ≤ offset' := by
    simp only [hnamed]
    exact exists_first (requestsOf_sorted program) h
  refine ⟨program, hprogram, hnodup, fun specifier => ?_,
    fun _ offset => namedAt_editsOf program offset, fun specifier hspecifier => ?_, ?_,
    fun _ _ herased => (edits_of_isErased herased).2, dependencies_withoutTypes program⟩
  · simp only [hedits, requested?_eq_some_iff]
  · -- The first edit that names a specifier is found by looking for the specifier itself.
    obtain ⟨front, back, hsplit, hfront⟩ :=
      List.eq_append_cons_of_mem (ModuleSyntax.mem_firsts.mp hspecifier)
    exact hfirst ⟨front, back, hsplit, hfront⟩
  · refine (firsts_pairwise _).imp fun hfirsts offset offset' ha hb => ?_
    obtain ⟨least, hleast, hbelow⟩ := hfirst hfirsts
    exact Nat.le_trans (ha.2 hleast) (hbelow offset' hb.1)

/-- A module with a call in front of its imports, one of which is an import of types. -/
def mixedCode : String :=
  "g(require('b'), () => import('a'));\nimport type T from 't';\nimport x from 'c';\n" ++
    "export * from 'b';"

theorem dependencies_ordered_mixed :
    ∃ m, ModuleSyntax.parse "m.ts" mixedCode = .ok m ∧ m.dependencies = ["b", "a", "c"] ∧
      ∃ program, Program.parse true mixedCode.toList = some program ∧
        (ofProgram program.withoutTypes).dependencies = ["b", "a", "c"] ∧
        ∃ offset, IsLeast {n | NamedAt m.edits "b" n} offset := by
  obtain ⟨m, hm, hdependencies⟩ :
      ∃ m, ModuleSyntax.parse "m.ts" mixedCode = .ok m ∧ m.dependencies = ["b", "a", "c"] :=
    ModuleSyntax.exists_parse_of_dependencies (by decide +kernel)
  obtain ⟨program, hprogram, -, -, -, hleast, -, -, hwithout⟩ := dependencies_ordered hm
  rw [hdependencies] at hleast hwithout
  exact ⟨m, hm, hdependencies, program, hprogram, hwithout, hleast "b" List.mem_cons_self⟩

end LiveBundle
