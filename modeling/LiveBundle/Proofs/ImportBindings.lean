import LiveBundle.Proofs.ExportHeader
import LiveBundle.Proofs.Quoted
import LiveBundle.Proofs.Script.Tokens

/-!
# What an import binds

An import becomes declarations: one of a variable for the required module, and from it the names of
the import. A name may be that of the module as a whole, of a property, or the default of the
module, which is read by a function of the runtime wherever it is exported again. The declarations
have a place for one default only; any other name that is imported from `default` is read as a
property.

* `ConstDeclaration.values` are the variables of a declaration with their values,
  `ImportClause.origins` the names of an import with where their values come from.
* `patternEntry_reads`: the entry of a pattern names the property it is meant for.
* `values_bindings`, `value_mem_bindings`, `length_defaults_le_one`: which names have their value.
* `import_values_iff` puts these together.
-/

namespace LiveBundle

open Script (Program Item ImportClause ImportName Lexer.token)
open ModuleSyntax (editOf bindings isTyped)

/-! ## Names and values -/

/-- The variables of a declaration, with the expressions for their values: the entry of a pattern
takes a property. -/
def ConstDeclaration.values (d : ConstDeclaration) : List (String × String) :=
  d.value.toList.flatMap fun value =>
    match d.target with
    | .name n => [(n, value)]
    | .pattern entries => entries.map fun (i, l) => (l, memberOf value i)

/-- The names that an import binds, with the expressions for their values. -/
def ImportBindings.values (temporary : String) (b : ImportBindings) : List (String × String) :=
  b.default.toList.map (·, importedValue temporary "default") ++
    b.namespace_.toList.map (·, temporary) ++
    b.named.map fun (i, l) => (l, memberOf temporary i)

/-- The names that an import binds, each with where its value comes from; those of types left
out. -/
def Script.ImportClause.origins (clause : ImportClause) (specifier : String) :
    List (String × ExportOrigin) :=
  clause.default.toList.map (·, .member specifier "default") ++
    clause.namespace_.toList.map (·, .whole specifier) ++
    (clause.named.filter (!·.typeOnly)).map fun n => (n.localName, .member specifier n.imported)

/-- The names that are imported from `default`, those of types left out. -/
def Script.ImportClause.defaults (clause : ImportClause) : List String :=
  clause.default.toList ++
    ((clause.named.filter (!·.typeOnly)).filter (·.imported == "default")).map (·.localName)

lemma importedValue_default (temporary : String) :
    importedValue temporary "default" = "__pg_default(" ++ temporary ++ ")" := if_pos rfl

lemma importedValue_of_ne {temporary imported : String} (h : imported ≠ "default") :
    importedValue temporary imported = memberOf temporary imported := if_neg h

/-- The declarations of an import give the required module and the values of the names. -/
lemma values_importDeclarations (resolved : Dict String) (temporary specifier : String)
    (b : ImportBindings) :
    (importDeclarations resolved temporary specifier b).flatMap ConstDeclaration.values =
      (temporary, requireCall resolved specifier) :: b.values temporary := by
  unfold importDeclarations ImportBindings.values
  rw [importedValue_default]
  cases b.default <;> cases b.namespace_ <;> cases b.named <;> simp [ConstDeclaration.values]

/-! ## Entries of patterns -/

/-- The key of a property is read as the name of the property: as a word or as a string. -/
def IsKeyOf (name key : String) : Prop :=
  ∀ rest, Lexer.token (key.toList ++ ':' :: rest) = some (.word name false, key.toList.length) ∨
    Lexer.token (key.toList ++ ':' :: rest) = some (.string name, key.toList.length)

/-- The entry of a pattern is the name itself, where it is bound under the name that is imported, or
it has the key of the imported name and the name that is bound. -/
lemma patternEntry_reads (imported localName : String) :
    (imported = localName ∧ patternEntry imported localName = localName) ∨
      ∃ key, IsKeyOf imported key ∧ patternEntry imported localName = key ++ ": " ++ localName := by
  unfold patternEntry
  split
  · rename_i h
    exact .inl ⟨h, rfl⟩
  · refine .inr ?_
    split
    · rename_i hidentifier
      exact ⟨imported, fun rest =>
        .inl (Script.Lexer.token_identifier hidentifier (by decide) (by decide) rest),
        rfl⟩
    · exact ⟨Json.quote imported, fun rest => .inr (Json.token_quote imported _), rfl⟩

/-! ## Names that have their value -/

/-- One more name of an import; the first one from `default` has a place of its own. -/
def ImportBindings.add (b : ImportBindings) (n : ImportName) : ImportBindings :=
  if n.imported == "default" && b.default.isNone then { b with default := some n.localName }
  else { b with named := b.named ++ [(n.imported, n.localName)] }

lemma bindings_eq_foldl (clause : ImportClause) :
    bindings clause = (clause.named.filter (!·.typeOnly)).foldl ImportBindings.add
      { default := clause.default, namespace_ := clause.namespace_ } := rfl

section

variable {temporary : String} {b : ImportBindings}

/-- A name from `default` that comes first is read as the default. -/
lemma values_add_default {n : ImportName} (hn : n.imported = "default") (hb : b.default = none) :
    ((b.add n).values temporary).Perm
      (b.values temporary ++ [(n.localName, importedValue temporary n.imported)]) := by
  rw [ImportBindings.add, if_pos (by simp [hn, hb])]
  simp only [ImportBindings.values, hn, hb, Option.toList_some, Option.toList_none, List.map_cons,
    List.map_nil, List.nil_append, List.cons_append]
  exact (List.perm_append_singleton _ _).symm

/-- Any other name is read as a property. -/
lemma values_add_named {n : ImportName} (h : n.imported ≠ "default" ∨ b.default ≠ none) :
    (b.add n).values temporary =
      b.values temporary ++ [(n.localName, memberOf temporary n.imported)] := by
  have hcondition : ¬(n.imported == "default" && b.default.isNone) = true := by
    rcases h with h | h <;> simp [h]
  rw [ImportBindings.add, if_neg hcondition]
  simp [ImportBindings.values]

end

/-- With one name from `default` at most, each name has its value. -/
lemma values_bindings {clause : ImportClause} (temporary specifier : String)
    (hone : clause.defaults.length ≤ 1) :
    ((bindings clause).values temporary).Perm
      ((clause.origins specifier).map fun (l, origin) => (l, origin.value temporary)) := by
  have hfold (ns : List ImportName) (b : ImportBindings)
      (hone : b.default.toList.length + (ns.filter (·.imported == "default")).length ≤ 1) :
      ((ns.foldl ImportBindings.add b).values temporary).Perm
        (b.values temporary ++
          ns.map fun n => (n.localName, importedValue temporary n.imported)) := by
    induction ns generalizing b with
    | nil => simp
    | cons n ns ih =>
      rw [List.foldl_cons, List.map_cons, ← List.singleton_append, ← List.append_assoc]
      by_cases hn : n.imported = "default"
      · rw [List.filter_cons_of_pos (by simp [hn]), List.length_cons] at hone
        have hb : b.default = none := by
          cases hb : b.default with
          | none => rfl
          | some d =>
            rw [hb, Option.toList_some, List.length_singleton] at hone
            omega
        have hadd : (b.add n).default = some n.localName := by
          rw [ImportBindings.add, if_pos (by simp [hn, hb])]
        refine (ih _ ?_).trans ((values_add_default hn hb).append_right _)
        rw [hadd, Option.toList_some, List.length_singleton]
        omega
      · rw [List.filter_cons_of_neg (by simp [hn])] at hone
        have hadd : (b.add n).default = b.default := by
          rw [ImportBindings.add, if_neg (by simp [hn])]
        rw [importedValue_of_ne hn, ← values_add_named (.inl hn)]
        exact ih _ (by rwa [hadd])
  have hclause := hfold (clause.named.filter (!·.typeOnly))
    { default := clause.default, namespace_ := clause.namespace_ }
    (by simpa [ImportClause.defaults] using hone)
  rw [← bindings_eq_foldl] at hclause
  refine hclause.trans (List.Perm.of_eq ?_)
  simp [ImportBindings.values, ImportClause.origins, ExportOrigin.value, Function.comp_def]

/-- A name that is not imported from `default` always has its value. -/
lemma value_mem_bindings {clause : ImportClause} (temporary : String) {specifier : String}
    {x : String × ExportOrigin} (hx : x ∈ clause.origins specifier)
    (hdefault : x.2 ≠ .member specifier "default") :
    (x.1, x.2.value temporary) ∈ (bindings clause).values temporary := by
  -- What is there stays, and what is added is read as a property.
  have hfold (ns : List ImportName) (b : ImportBindings) {y : String × String}
      (hy : y ∈ b.values temporary ∨ ∃ n ∈ ns, n.imported ≠ "default" ∧
        y = (n.localName, memberOf temporary n.imported)) :
      y ∈ (ns.foldl ImportBindings.add b).values temporary := by
    induction ns generalizing b with
    | nil => exact hy.resolve_right (by simp)
    | cons n ns ih =>
      refine ih _ ?_
      by_cases hn : n.imported = "default" ∧ b.default = none
      · rcases hy with hy | ⟨n', hn', hne, rfl⟩
        · exact .inl ((values_add_default hn.1 hn.2).mem_iff.mpr (List.mem_append_left _ hy))
        · rcases List.mem_cons.mp hn' with rfl | hn'
          · exact absurd hn.1 hne
          · exact .inr ⟨n', hn', hne, rfl⟩
      · rw [values_add_named (by tauto), List.mem_append, List.mem_singleton]
        rcases hy with hy | ⟨n', hn', hne, rfl⟩
        · exact .inl (.inl hy)
        · rcases List.mem_cons.mp hn' with rfl | hn'
          · exact .inl (.inr rfl)
          · exact .inr ⟨n', hn', hne, rfl⟩
  rw [bindings_eq_foldl]
  refine hfold _ _ ?_
  simp only [ImportClause.origins, List.mem_append, List.mem_map, Option.mem_toList] at hx
  rcases hx with (⟨d, -, rfl⟩ | ⟨n, hn, rfl⟩) | ⟨n, hn, rfl⟩
  · exact absurd rfl hdefault
  · exact .inl (by simp [ImportBindings.values, ExportOrigin.value, hn])
  · have hne : n.imported ≠ "default" := fun heq => hdefault (by rw [heq])
    exact .inr ⟨n, hn, hne, by rw [ExportOrigin.value, importedValue_of_ne hne]⟩

/-! ## Values of defaults -/

lemma temporaryName_ne_default (k : Nat) :
    temporaryName k ≠ importedValue (temporaryName k) "default" := by
  rw [importedValue_default]
  intro h
  have hlists := congrArg String.toList h
  simp [toList_temporaryName] at hlists

/-- No property is read in the way of a default. -/
lemma memberOf_ne_default (k : Nat) (i : String) :
    memberOf (temporaryName k) i ≠ importedValue (temporaryName k) "default" := by
  rw [importedValue_default]
  unfold memberOf
  split <;> intro h <;> have hlists := congrArg String.toList h <;>
    simp [toList_temporaryName] at hlists

lemma importedValue_eq_default {k : Nat} {i : String} :
    importedValue (temporaryName k) i = importedValue (temporaryName k) "default" ↔
      i = "default" := by
  refine ⟨fun h => by_contra fun hne => ?_, fun h => by rw [h]⟩
  rw [importedValue_of_ne hne] at h
  exact memberOf_ne_default k i h

/-- One name at most is read as the default. -/
lemma countP_values_le_one (k : Nat) (b : ImportBindings) :
    (b.values (temporaryName k)).countP
      (fun x => x.2 == importedValue (temporaryName k) "default") ≤ 1 := by
  have hnamespace : (b.namespace_.toList.map (·, temporaryName k)).countP
      (fun x => x.2 == importedValue (temporaryName k) "default") = 0 := by
    rw [List.countP_eq_zero]
    intro x hx
    obtain ⟨n, -, rfl⟩ := List.mem_map.mp hx
    simpa using temporaryName_ne_default k
  have hnamed : (b.named.map fun (i, l) => (l, memberOf (temporaryName k) i)).countP
      (fun x => x.2 == importedValue (temporaryName k) "default") = 0 := by
    rw [List.countP_eq_zero]
    intro x hx
    obtain ⟨n, -, rfl⟩ := List.mem_map.mp hx
    simpa using memberOf_ne_default k n.1
  rw [ImportBindings.values, List.countP_append, List.countP_append, hnamespace, hnamed]
  refine Nat.le_trans List.countP_le_length ?_
  cases b.default <;> simp

/-- The names from `default` are to be read as the default, and no others. -/
lemma countP_origins (k : Nat) (clause : ImportClause) (specifier : String) :
    ((clause.origins specifier).map fun (l, origin) => (l, origin.value (temporaryName k))).countP
      (fun x => x.2 == importedValue (temporaryName k) "default") = clause.defaults.length := by
  have hnamed (n : ImportName) : (importedValue (temporaryName k) n.imported ==
      importedValue (temporaryName k) "default") = (n.imported == "default") := by
    rw [Bool.eq_iff_iff, beq_iff_eq, beq_iff_eq, importedValue_eq_default]
  have hnamespace : (temporaryName k == importedValue (temporaryName k) "default") = false :=
    beq_eq_false_iff_ne.mpr (temporaryName_ne_default k)
  simp only [ImportClause.origins, List.map_append, List.map_map, List.countP_append,
    List.countP_map, Function.comp_def, ExportOrigin.value, hnamed, hnamespace, beq_self_eq_true,
    List.countP_true, List.countP_false, Function.const_apply, Nat.add_zero]
  rw [ImportClause.defaults, List.length_append, List.length_map, List.countP_eq_length_filter]

/-- Where each name has its value, at most one is imported from `default`. -/
lemma length_defaults_le_one {clause : ImportClause} {k : Nat} {specifier : String}
    (h : ((bindings clause).values (temporaryName k)).Perm
      ((clause.origins specifier).map fun (l, origin) => (l, origin.value (temporaryName k)))) :
    clause.defaults.length ≤ 1 := by
  rw [← countP_origins k clause specifier, ← h.countP_eq]
  exact countP_values_le_one k _

/-! ## Modules -/

lemma isEmpty_bindings {clause : ImportClause} :
    (bindings clause).isEmpty = true ↔ clause.names = [] := by
  have hnames : (bindings clause).names = [] ↔ clause.names = [] := by
    have hperm := names_bindings clause
    exact ⟨fun h => (h ▸ hperm).symm.eq_nil, fun h => (h ▸ hperm).eq_nil⟩
  rw [← hnames, ImportBindings.names, ImportBindings.isEmpty]
  simp [Option.isNone_iff_eq_none, and_assoc]

/-- Each import of a module is replaced by a call of `require`, if it binds nothing, or else by
declarations. These declare a variable for the required module and each name of the import, and
nothing else. Each name has its value, other than those that are imported from `default`: these have
it if and only if there is only one of them. The entries of a pattern name the properties that are
imported. -/
theorem import_values_iff (m : Module) (h : ModuleSyntax.parse m.id m.code = .ok m.syntax_) :
    ∃ program, Program.parse (isTyped m.id) m.code.toList = some program ∧
      ∀ span specifier clause, .importing span specifier clause ∈ program.items →
        ∃ s, .rendered (editOf span (.importing specifier (bindings clause))) s ∈ m.pieces ∧
          (clause.names = [] →
            (renderImport m.resolved s specifier (bindings clause)).1 =
              requireCall m.resolved specifier ++ ";") ∧
          (clause.names ≠ [] → ∃ ds : List ConstDeclaration,
            (renderImport m.resolved s specifier (bindings clause)).1 =
              Text.joinWith " " (ds.map ConstDeclaration.text) ∧
            (ds.flatMap (·.target.names)).Perm (s.temporary.1 :: clause.names) ∧
            (∀ x ∈ clause.origins specifier, x.2 ≠ .member specifier "default" →
              (x.1, x.2.value s.temporary.1) ∈ ds.flatMap ConstDeclaration.values) ∧
            ((ds.flatMap ConstDeclaration.values).Perm
                ((s.temporary.1, requireCall m.resolved specifier) ::
                  (clause.origins specifier).map fun (l, origin) =>
                    (l, origin.value s.temporary.1)) ↔ clause.defaults.length ≤ 1) ∧
            ∀ d ∈ ds, ∀ entries, d.target = .pattern entries → ∀ x ∈ entries,
              (x.1 = x.2 ∧ patternEntry x.1 x.2 = x.2) ∨
                ∃ key, IsKeyOf x.1 key ∧ patternEntry x.1 x.2 = key ++ ": " ++ x.2) := by
  obtain ⟨program, hprogram, hperm, -⟩ := edits_of_parse h
  refine ⟨program, hprogram, fun span specifier clause hitem => ?_⟩
  have hkept := Module.mem_kept_of_item h hprogram hperm
    (List.mem_flatMap.mpr ⟨_, hitem, List.mem_singleton_self _⟩)
  obtain ⟨s, hs⟩ := Module.exists_rendered_of_mem_kept hkept
  refine ⟨s, hs, fun hnone => ?_, fun hsome => ?_⟩
  · rw [renderImport, if_pos (isEmpty_bindings.mpr hnone)]
  · have hempty : (bindings clause).isEmpty = false := by
      rw [← Bool.not_eq_true, isEmpty_bindings]
      exact hsome
    have hvalues := values_importDeclarations m.resolved s.temporary.1 specifier (bindings clause)
    refine ⟨importDeclarations m.resolved s.temporary.1 specifier (bindings clause),
      renderImport_eq_declarations hempty, ?_, fun x hx hdefault => ?_, ?_,
      fun _ _ _ _ x _ => patternEntry_reads x.1 x.2⟩
    · rw [names_importDeclarations]
      exact (names_bindings clause).cons _
    · rw [hvalues]
      exact List.mem_cons_of_mem _ (value_mem_bindings s.temporary.1 hx hdefault)
    · rw [hvalues, List.perm_cons]
      exact ⟨length_defaults_le_one (k := s.temporaries), values_bindings _ _⟩

namespace Importing

/-- An import of the default and of two properties, one of which has no identifier for its name. -/
def mixed : Module :=
  .alone "virtual:file/a.js" "import d, \x7b b, 'a b' as c \x7d from './m.js';\n"
    ⟨["./m.js"], [⟨0, 42, .importing "./m.js"
      { default := some "d", named := [("b", "b"), ("a b", "c")] }⟩]⟩

/-- Whether a statement is that import. -/
def isMixed {text : List Char} : Item text → Bool
  | .importing _ specifier clause =>
    specifier = "./m.js" ∧ clause.names = ["d", "b", "c"] ∧ clause.defaults = ["d"]
  | _ => false

/-- An import of the default under two names. -/
def twice : Module :=
  .alone "virtual:file/a.js" "import d, \x7b default as x \x7d from './m.js';\n"
    ⟨["./m.js"], [⟨0, 41, .importing "./m.js"
      { default := some "d", named := [("default", "x")] }⟩]⟩

/-- The default of another module is exported. -/
def reexporting : Module :=
  .alone "virtual:file/b.js" "export \x7b default as x \x7d from './m.js';\n"
    ⟨["./m.js"], [⟨0, 38, .reexportNamed "./m.js" [("default", "x")]⟩]⟩

end Importing

/-- Each of the three names has its value. -/
theorem import_values_iff_mixed :
    let m := Importing.mixed
    ModuleSyntax.parse m.id m.code = .ok m.syntax_ ∧
      m.body = "const __pg_m0 = require(\"./m.js\"); const d = __pg_default(__pg_m0); " ++
        "const \x7b b, \"a b\": c \x7d = __pg_m0;\n" ∧
      ∃ clause : ImportClause, clause.names = ["d", "b", "c"] ∧ clause.defaults = ["d"] ∧
        ∃ s, ∃ ds : List ConstDeclaration,
          (renderImport m.resolved s "./m.js" (bindings clause)).1 =
            Text.joinWith " " (ds.map ConstDeclaration.text) ∧
          (ds.flatMap ConstDeclaration.values).Perm
            ((s.temporary.1, requireCall m.resolved "./m.js") ::
              (clause.origins "./m.js").map fun (l, origin) => (l, origin.value s.temporary.1)) := by
  intro m
  have hparse : ModuleSyntax.parse m.id m.code = .ok m.syntax_ :=
    parse_of_toOption (by decide +kernel)
  obtain ⟨program, hprogram, himports⟩ := import_values_iff m hparse
  have hread : (Program.parse (isTyped m.id) m.code.toList).map (·.items.any Importing.isMixed) =
      some true := by decide +kernel
  rw [hprogram, Option.map_some, Option.some.injEq, List.any_eq_true] at hread
  obtain ⟨item, hitem, hread⟩ := hread
  cases item with
  | importing span specifier clause =>
    obtain ⟨rfl, hnames, hdefaults⟩ := of_decide_eq_true hread
    obtain ⟨s, -, -, hsome⟩ := himports span _ clause hitem
    obtain ⟨ds, hrendered, -, -, hvalues, -⟩ := hsome (by rw [hnames]; exact nofun)
    exact ⟨hparse, by decide +kernel, clause, hnames, hdefaults, s, ds, hrendered,
      hvalues.mpr (by rw [hdefaults]; exact Nat.le_refl 1)⟩
  | _ => cases hread

/-- Of two names for the default the second one is read as a property. Where the default is exported
again, it is read by the function of the runtime. -/
theorem not_import_values_twice :
    let m := Importing.twice
    let again := Importing.reexporting
    ModuleSyntax.parse m.id m.code = .ok m.syntax_ ∧
      m.body = "const __pg_m0 = require(\"./m.js\"); const d = __pg_default(__pg_m0); " ++
        "const \x7b default: x \x7d = __pg_m0;\n" ∧
      ("x", "__pg_default(__pg_m0)") ∉ (importDeclarations m.resolved "__pg_m0" "./m.js"
        { default := some "d", named := [("default", "x")] }).flatMap ConstDeclaration.values ∧
      ModuleSyntax.parse again.id again.code = .ok again.syntax_ ∧
      again.getters = [("x", "__pg_default(__pg_m0)")] :=
  ⟨parse_of_toOption (by decide +kernel), by decide +kernel, by decide +kernel,
    parse_of_toOption (by decide +kernel), by decide +kernel⟩

end LiveBundle
