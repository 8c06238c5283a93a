import LiveBundle.Proofs.Applied
import LiveBundle.Proofs.Script.Untyped

/-!
# The line that registers exports

The first line of a factory registers a getter for every name that the module exports. A name of the
module's own is given by its variable; one of another module by the variable of the required module,
which is declared where the export stood.

* `Pattern.mem_names`: the names of a pattern are those that it binds, at any depth.
* `Item.Exports`: the names that a statement exports, each with its origin; they stand in its edits
  (`exists_edit_of_exports`, `exports_of_edit`).
* `getters_spliceFrom`: splicing collects the getters of the rendered edits.
* `export_header_exact` puts these together for the modules without types.
-/

namespace LiveBundle

open Script (Program Item Pattern Declaration ExportName)
open ModuleSyntax (itemEdits siteEdit isTyped editOf)

/-! ## Names in patterns -/

/-- A pattern binds a name, maybe in a pattern inside of it. -/
inductive Script.Pattern.Binds (name : String) : Pattern → Prop
  | name : Binds name (.name name)
  | property {properties : List Pattern} {rest : Option Pattern} {p : Pattern}
      (hp : p ∈ properties) (h : Binds name p) : Binds name (.object properties rest)
  | otherProperties {properties : List Pattern} {p : Pattern} (h : Binds name p) :
      Binds name (.object properties (some p))
  | element {elements : List (Option Pattern)} {rest : Option Pattern} {p : Pattern}
      (hp : some p ∈ elements) (h : Binds name p) : Binds name (.array elements rest)
  | otherElements {elements : List (Option Pattern)} {p : Pattern} (h : Binds name p) :
      Binds name (.array elements (some p))
  | withDefault {target : Pattern} (h : Binds name target) : Binds name (.withDefault target)

namespace Script.Pattern

lemma mem_namesOfList {name : String} {ps : List Pattern} :
    name ∈ namesOfList ps ↔ ∃ p ∈ ps, name ∈ p.names := by
  induction ps with
  | nil => simp [namesOfList]
  | cons p ps ih => simp [namesOfList, ih]

lemma mem_namesOfElements {name : String} {ps : List (Option Pattern)} :
    name ∈ namesOfElements ps ↔ ∃ p, some p ∈ ps ∧ name ∈ p.names := by
  induction ps with
  | nil => simp [namesOfElements]
  | cons p ps ih =>
    cases p with
    | none => simp [namesOfElements, ih]
    | some p => simp [namesOfElements, ih, or_and_right, exists_or]

lemma mem_namesOfRest {name : String} {rest : Option Pattern} :
    name ∈ namesOfRest rest ↔ ∃ p, rest = some p ∧ name ∈ p.names := by
  cases rest <;> simp [namesOfRest]

lemma mem_names_of_binds {name : String} {p : Pattern} (h : p.Binds name) : name ∈ p.names := by
  induction h with
  | name => exact List.mem_singleton.mpr rfl
  | property hp _ ih => exact List.mem_append_left _ (mem_namesOfList.mpr ⟨_, hp, ih⟩)
  | otherProperties _ ih => exact List.mem_append_right _ ih
  | element hp _ ih => exact List.mem_append_left _ (mem_namesOfElements.mpr ⟨_, hp, ih⟩)
  | otherElements _ ih => exact List.mem_append_right _ ih
  | withDefault _ ih => exact ih

lemma binds_of_mem_names {name : String} : ∀ p : Pattern, name ∈ p.names → p.Binds name
  | .name text, h => by
    cases List.mem_singleton.mp h
    exact .name
  | .object properties rest, h => by
    rcases List.mem_append.mp h with h | h
    · obtain ⟨p, hp, hname⟩ := mem_namesOfList.mp h
      exact .property hp (binds_of_mem_names p hname)
    · obtain ⟨p, rfl, hname⟩ := mem_namesOfRest.mp h
      exact .otherProperties (binds_of_mem_names p hname)
  | .array elements rest, h => by
    rcases List.mem_append.mp h with h | h
    · obtain ⟨p, hp, hname⟩ := mem_namesOfElements.mp h
      have hsize : sizeOf p < sizeOf elements := by
        have hsome := List.sizeOf_lt_of_mem hp
        simp only [Option.some.sizeOf_spec] at hsome
        omega
      exact .element hp (binds_of_mem_names p hname)
    · obtain ⟨p, rfl, hname⟩ := mem_namesOfRest.mp h
      exact .otherElements (binds_of_mem_names p hname)
  | .withDefault target, h => .withDefault (binds_of_mem_names target h)

/-- The names of a pattern are those that it binds. -/
lemma mem_names {name : String} {p : Pattern} : name ∈ p.names ↔ p.Binds name :=
  ⟨binds_of_mem_names p, mem_names_of_binds⟩

end Script.Pattern

/-! ## Names that are exported -/

/-- Where the value of an exported name comes from. -/
inductive ExportOrigin where
  /-- A variable of the module. -/
  | own (localName : String)
  /-- A name of another module. -/
  | member (specifier imported : String)
  /-- Another module as a whole. -/
  | whole (specifier : String)

namespace ExportOrigin

/-- The expression for a value; another module is in the variable `temporary`. -/
def value (temporary : String) : ExportOrigin → String
  | .own localName => localName
  | .member _ imported => importedValue temporary imported
  | .whole _ => temporary

/-- The specifier of the module that a value comes from, if it is another one. -/
def specifier? : ExportOrigin → Option String
  | .own _ => none
  | .member specifier _ | .whole specifier => some specifier

end ExportOrigin

/-- A statement exports a name, other than by `export *`. -/
inductive Script.Item.Exports {text : List Char} : Item text → String → ExportOrigin → Prop
  | namespace_ (span : Script.Span text) (specifier name : String) :
      Exports (.exportAll span specifier (some name)) name (.whole specifier)
  | member (span : Script.Span text) (specifier : String) {names : List ExportName} {n : ExportName}
      (hn : n ∈ names) :
      Exports (.exportFrom span specifier names) n.exported (.member specifier n.localName)
  | listed (span : Script.Span text) {names : List ExportName} {n : ExportName} (hn : n ∈ names) :
      Exports (.exportList span names) n.exported (.own n.localName)
  | bound (span head : Script.Span text) {patterns : List Pattern} {p : Pattern} {name : String}
      (hp : p ∈ patterns) (hname : p.Binds name) :
      Exports (.exportDeclaration span head (.variables patterns)) name (.own name)
  | function (span head : Script.Span text) (name : String) :
      Exports (.exportDeclaration span head (.function name)) name (.own name)
  | class (span head : Script.Span text) (name : String) :
      Exports (.exportDeclaration span head (.class name)) name (.own name)
  | defaultNamed (head : Script.Span text) (name : String) :
      Exports (.exportDefaultNamed head name) "default" (.own name)
  | defaultAnonymous (head tail : Script.Span text) :
      Exports (.exportDefaultAnonymous head tail) "default" (.own defaultVariable)
  | defaultExpression (head : Script.Span text) :
      Exports (.exportDefaultExpression head) "default" (.own defaultVariable)

/-- The names that are exported where an edit is rendered. -/
def Replacement.exports : Replacement → List (String × ExportOrigin)
  | .reexportNamespace specifier exported => [(exported, .whole specifier)]
  | .reexportNamed specifier names =>
    names.map fun (imported, exported) => (exported, .member specifier imported)
  | .exportList names => names.map fun (localName, exported) => (exported, .own localName)
  | .exportDeclaration names => names.map fun name => (name, .own name)
  | .defaultDeclaration name => [("default", .own name)]
  | .defaultExpression => [("default", .own defaultVariable)]
  | _ => []

section

variable {text : List Char} {item : Item text}

lemma pairs_of_untyped {names : List ExportName} (h : ∀ n ∈ names, n.typeOnly = false) :
    ModuleSyntax.pairs names = names.map fun n => (n.localName, n.exported) := by
  rw [ModuleSyntax.pairs, List.filter_eq_self.mpr fun n hn => by rw [h n hn]; rfl]

lemma editOf_replacement (span : Script.Span text) (r : Replacement) :
    (editOf span r).replacement = r := rfl

/-- What a statement exports stands in one of its edits. -/
lemma exists_edit_of_exports (h : item.Untyped) {name : String} {origin : ExportOrigin}
    (hexports : item.Exports name origin) :
    ∃ e ∈ itemEdits item, (name, origin) ∈ e.replacement.exports := by
  cases hexports with
  | namespace_ | defaultNamed | defaultAnonymous | defaultExpression | function | «class» =>
    exact ⟨_, List.mem_cons_self, List.mem_cons_self⟩
  | member _ _ hn | listed _ hn =>
    refine ⟨_, List.mem_cons_self, ?_⟩
    rw [editOf_replacement, pairs_of_untyped h, Replacement.exports, List.map_map]
    exact List.mem_map_of_mem hn
  | bound _ _ hp hname =>
    exact ⟨_, List.mem_cons_self, List.mem_map_of_mem
      (Pattern.mem_namesOfList.mpr ⟨_, hp, Pattern.mem_names.mpr hname⟩)⟩

/-- What stands in the edits of a statement is exported. -/
lemma exports_of_edit {e : Edit} (he : e ∈ itemEdits item) {name : String} {origin : ExportOrigin}
    (hexports : (name, origin) ∈ e.replacement.exports) : item.Exports name origin := by
  have hpairs {names : List ExportName} {x : String × String} (h : x ∈ ModuleSyntax.pairs names) :
      ∃ n ∈ names, x = (n.localName, n.exported) := by
    obtain ⟨n, hn, rfl⟩ := List.mem_map.mp h
    exact ⟨n, List.mem_of_mem_filter hn, rfl⟩
  cases item with
  | exportAll span specifier exported =>
    cases exported <;> cases List.mem_singleton.mp he
    · cases hexports
    · cases List.mem_singleton.mp hexports
      exact .namespace_ _ _ _
  | exportFrom span specifier names =>
    cases List.mem_singleton.mp he
    obtain ⟨x, hx, heq⟩ := List.mem_map.mp hexports
    obtain ⟨n, hn, rfl⟩ := hpairs hx
    cases heq
    exact .member span specifier hn
  | exportList span names =>
    cases List.mem_singleton.mp he
    obtain ⟨x, hx, heq⟩ := List.mem_map.mp hexports
    obtain ⟨n, hn, rfl⟩ := hpairs hx
    cases heq
    exact .listed span hn
  | exportDeclaration span head declaration =>
    cases declaration with
    | «variables» patterns =>
      cases List.mem_singleton.mp he
      obtain ⟨x, hx, heq⟩ := List.mem_map.mp hexports
      obtain ⟨p, hp, hname⟩ := Pattern.mem_namesOfList.mp hx
      cases heq
      exact .bound span head hp (Pattern.mem_names.mp hname)
    | function declared | «class» declared =>
      cases List.mem_singleton.mp he
      cases List.mem_singleton.mp hexports
      constructor
    | erased =>
      cases List.mem_singleton.mp he
      cases hexports
  | exportDefaultNamed head declared | exportDefaultExpression head =>
    cases List.mem_singleton.mp he
    cases List.mem_singleton.mp hexports
    constructor
  | exportDefaultAnonymous head tail =>
    rcases List.mem_cons.mp he with rfl | he
    · cases List.mem_singleton.mp hexports
      exact .defaultAnonymous head tail
    · cases List.mem_singleton.mp he
      cases hexports
  | importing | typeOnly | exportDefaultErased =>
    cases List.mem_singleton.mp he
    cases hexports
  | unsupported | other => cases he

/-- Without types, the edits of a statement export the names of the statement. -/
lemma exportedNames_of_edits (h : item.Untyped) :
    ((itemEdits item).flatMap fun e => e.replacement.exports.map (·.1)) = item.exportedNames := by
  cases item with
  | exportAll span specifier exported => cases exported <;> rfl
  | exportFrom span specifier names | exportList span names =>
    simp only [itemEdits, List.flatMap_singleton, editOf_replacement, pairs_of_untyped h,
      Replacement.exports, List.map_map, Item.exportedNames]
    rfl
  | exportDeclaration span head declaration =>
    cases declaration with
    | «variables» patterns =>
      simp [itemEdits, Declaration.names?, editOf_replacement, Replacement.exports,
        Item.exportedNames, Function.comp_def]
    | function name | «class» name => rfl
    | erased => exact absurd rfl h
  | _ => rfl

end

/-! ## Getters -/

/-- The getters that are added where an edit is rendered. -/
def gettersAt (s : Splice) (r : Replacement) : List (String × String) :=
  r.exports.map fun (name, origin) => (name, origin.value s.temporary.1)

lemma names_gettersAt (s : Splice) (r : Replacement) :
    (gettersAt s r).map (·.1) = r.exports.map (·.1) := by
  rw [gettersAt, List.map_map]
  rfl

/-- Names that are not there yet are all added. -/
lemma getters_addGetters {s : Splice} {names : List (String × String)}
    (h : ((s.getters ++ names).map (·.1)).Nodup) :
    (s.addGetters names).getters = s.getters ++ names := by
  induction names generalizing s with
  | nil => exact (List.append_nil _).symm
  | cons name names ih =>
    have hnew : s.getters.any (·.1 == name.1) = false := by
      rw [List.any_eq_false]
      intro x hx heq
      rw [List.map_append, List.nodup_append] at h
      exact h.2.2 x.1 (List.mem_map_of_mem hx) name.1 List.mem_cons_self (eq_of_beq heq)
    have hgetter : (s.getter name.1 name.2).getters = s.getters ++ [name] := by
      rw [Splice.getter, hnew]
      rfl
    have hrest : (s.getters ++ [name]) ++ names = s.getters ++ name :: names := by simp
    have hfold : s.addGetters (name :: names) = (s.getter name.1 name.2).addGetters names := rfl
    rw [hfold, ih (by rwa [hgetter, hrest]), hgetter, hrest]

/-- Rendering an edit adds its getters. -/
lemma getters_rendered (resolved : Dict String) {s : Splice} {r : Replacement}
    (h : ((s.getters ++ gettersAt s r).map (·.1)).Nodup) :
    (renderReplacement resolved s r).2.getters = s.getters ++ gettersAt s r := by
  cases r with
  | importing specifier bindings =>
    have hgetters : (renderImport resolved s specifier bindings).2.getters = s.getters := by
      unfold renderImport
      split <;> rfl
    exact hgetters.trans (List.append_nil _).symm
  | reexportNamespace specifier exported =>
    exact getters_addGetters (s := s.temporary.2) h
  | reexportNamed specifier names =>
    rw [gettersAt, Replacement.exports, List.map_map] at h ⊢
    exact getters_addGetters (s := s.temporary.2) h
  | exportList names | exportDeclaration names =>
    rw [gettersAt, Replacement.exports, List.map_map] at h ⊢
    exact getters_addGetters h
  | defaultDeclaration name | defaultExpression => exact getters_addGetters h
  | _ => exact (List.append_nil _).symm

/-- The getters that are added in a piece. -/
def Piece.getters : Piece → List (String × String)
  | .copied .. => []
  | .rendered e s => gettersAt s e.replacement

lemma names_getters (resolved : Dict String) (size position : Nat) (s : Splice) (es : List Edit) :
    ((piecesFrom resolved size position s es).flatMap Piece.getters).map (·.1) =
      es.flatMap fun e => e.replacement.exports.map (·.1) := by
  induction es generalizing position s with
  | nil => rfl
  | cons e es ih =>
    simp only [piecesFrom, List.flatMap_cons, Piece.getters, List.nil_append, List.map_append, ih,
      names_gettersAt]

/-- Splicing collects the getters of the pieces. -/
lemma getters_spliceFrom (resolved : Dict String) (size position : Nat) (rest : List Char)
    {s : Splice} {es : List Edit}
    (h : (s.getters.map (·.1) ++ es.flatMap fun e => e.replacement.exports.map (·.1)).Nodup) :
    (spliceFrom resolved position rest s es).2.getters =
      s.getters ++ (piecesFrom resolved size position s es).flatMap Piece.getters := by
  induction es generalizing position rest s with
  | nil => exact (List.append_nil _).symm
  | cons e es ih =>
    rw [List.flatMap_cons, ← List.append_assoc, ← names_gettersAt s, ← List.map_append] at h
    have hrendered := getters_rendered resolved (List.nodup_append.mp h).1
    simp only [spliceFrom, piecesFrom, List.flatMap_cons, Piece.getters, List.nil_append]
    rw [ih _ _ (by rwa [hrendered]), hrendered, List.append_assoc]

/-! ## Modules -/

lemma exportHeader_eq_empty {getters : List (String × String)} :
    exportHeader getters = "" ↔ getters = [] := by
  cases getters with
  | nil => exact ⟨fun _ => rfl, fun _ => rfl⟩
  | cons getter getters =>
    refine ⟨fun h => ?_, nofun⟩
    have hlists := congrArg String.toList h
    simp [exportHeader] at hlists

/-- An edit that reads an exported name from another module declares the variable for it. -/
lemma declares_required (resolved : Dict String) (s : Splice) {r : Replacement} {name : String}
    {origin : ExportOrigin} (hexports : (name, origin) ∈ r.exports) {specifier : String}
    (hspecifier : origin.specifier? = some specifier) :
    addedNames s r = [s.temporary.1] ∧
      (renderReplacement resolved s r).1 = declareRequired resolved s.temporary.1 specifier := by
  cases r with
  | reexportNamespace =>
    cases List.mem_singleton.mp hexports
    cases hspecifier
    exact ⟨rfl, rfl⟩
  | reexportNamed =>
    obtain ⟨x, -, heq⟩ := List.mem_map.mp hexports
    cases heq
    cases hspecifier
    exact ⟨rfl, rfl⟩
  | exportList | exportDeclaration =>
    obtain ⟨x, -, heq⟩ := List.mem_map.mp hexports
    cases heq
    cases hspecifier
  | defaultDeclaration | defaultExpression =>
    cases List.mem_singleton.mp hexports
    cases hspecifier
  | _ => cases hexports

namespace Module

variable {m : Module} {program : Program m.code.toList}

/-- Without types, the rendered edits export no name twice. -/
lemma nodup_exports (hprogram : Program.parse false m.code.toList = some program)
    (hperm : m.syntax_.edits.Perm (program.items.flatMap itemEdits ++ program.sites.map siteEdit)) :
    (m.kept.flatMap fun e => e.replacement.exports.map (·.1)).Nodup := by
  have huntyped := Program.untyped_of_parse hprogram
  have hkept : (m.kept.flatMap fun e => e.replacement.exports.map (·.1)).Sublist
      (m.syntax_.edits.flatMap fun e => e.replacement.exports.map (·.1)) :=
    (keptEdits_sublist _ _ _).flatMap _
  have hitems : (program.items.flatMap fun item =>
      (itemEdits item).flatMap fun e => e.replacement.exports.map (·.1)) =
        program.items.flatMap Item.exportedNames :=
    List.flatMap_congr fun item hitem => exportedNames_of_edits (huntyped item hitem)
  have hsites : (program.sites.flatMap fun site => (siteEdit site).replacement.exports.map (·.1)) =
      [] := List.flatMap_eq_nil_iff.mpr fun site _ => by cases site <;> rfl
  have hall : (m.syntax_.edits.flatMap fun e => e.replacement.exports.map (·.1)).Perm
      (program.items.flatMap Item.exportedNames) := by
    refine (hperm.flatMap_right _).trans ?_
    rw [List.flatMap_append, List.flatMap_assoc, hitems, List.flatMap_map, hsites, List.append_nil]
  exact (hall.nodup_iff.mpr (nodup_exportedNames hprogram)).sublist hkept

/-- The getters are those of the pieces. -/
lemma getters_eq (h : (m.kept.flatMap fun e => e.replacement.exports.map (·.1)).Nodup) :
    m.getters = m.pieces.flatMap Piece.getters :=
  getters_spliceFrom (s := {}) m.resolved _ 0 m.code.toList h

/-- The names of the getters are those of the rendered edits. -/
lemma names_getters_eq (h : (m.kept.flatMap fun e => e.replacement.exports.map (·.1)).Nodup) :
    m.getters.map (·.1) = m.kept.flatMap fun e => e.replacement.exports.map (·.1) := by
  rw [getters_eq h]
  exact names_getters _ _ _ _ _

/-- Without types, what a statement exports is registered where one of its edits is rendered. -/
lemma exists_rendered_of_exports (h : ModuleSyntax.parse m.id m.code = .ok m.syntax_)
    (hprogram : Program.parse false m.code.toList = some program)
    (hperm : m.syntax_.edits.Perm (program.items.flatMap itemEdits ++ program.sites.map siteEdit))
    {item : Item m.code.toList} (hitem : item ∈ program.items) {name : String}
    {origin : ExportOrigin} (hexports : item.Exports name origin) :
    ∃ e ∈ itemEdits item, ∃ s, .rendered e s ∈ m.pieces ∧
      (name, origin) ∈ e.replacement.exports ∧ (name, origin.value s.temporary.1) ∈ m.getters := by
  have huntyped := Program.untyped_of_parse hprogram
  obtain ⟨e, he, hexports⟩ := exists_edit_of_exports (huntyped item hitem) hexports
  have hkept := mem_kept_of_item h hprogram hperm (List.mem_flatMap.mpr ⟨item, hitem, he⟩)
  obtain ⟨s, hs⟩ := exists_rendered_of_mem_kept hkept
  refine ⟨e, he, s, hs, hexports, ?_⟩
  rw [getters_eq (nodup_exports hprogram hperm)]
  exact List.mem_flatMap.mpr ⟨.rendered e s, hs, List.mem_map_of_mem hexports⟩

/-- What is registered where an edit is rendered is exported by a statement. -/
lemma exists_item_of_kept
    (hperm : m.syntax_.edits.Perm (program.items.flatMap itemEdits ++ program.sites.map siteEdit))
    {e : Edit} (he : e ∈ m.kept) {name : String} {origin : ExportOrigin}
    (hexports : (name, origin) ∈ e.replacement.exports) :
    ∃ item ∈ program.items, item.Exports name origin := by
  have hedits := hperm.mem_iff.mp ((keptEdits_sublist _ _ _).subset he)
  rcases List.mem_append.mp hedits with he | he
  · obtain ⟨item, hitem, he⟩ := List.mem_flatMap.mp he
    exact ⟨item, hitem, exports_of_edit he hexports⟩
  · obtain ⟨site, -, rfl⟩ := List.mem_map.mp he
    cases site <;> cases hexports

/-- Without types, the names of the getters are those that the statements export. -/
lemma mem_names_getters (h : ModuleSyntax.parse m.id m.code = .ok m.syntax_)
    (hprogram : Program.parse false m.code.toList = some program)
    (hperm : m.syntax_.edits.Perm (program.items.flatMap itemEdits ++ program.sites.map siteEdit))
    (name : String) :
    name ∈ m.getters.map (·.1) ↔ ∃ item ∈ program.items, ∃ origin, item.Exports name origin := by
  constructor
  · intro hname
    rw [names_getters_eq (nodup_exports hprogram hperm)] at hname
    obtain ⟨e, he, hname⟩ := List.mem_flatMap.mp hname
    obtain ⟨⟨_, origin⟩, hexports, rfl⟩ := List.mem_map.mp hname
    obtain ⟨item, hitem, hexports⟩ := exists_item_of_kept hperm he hexports
    exact ⟨item, hitem, origin, hexports⟩
  · rintro ⟨item, hitem, origin, hexports⟩
    obtain ⟨e, -, s, -, -, hgetter⟩ := exists_rendered_of_exports h hprogram hperm hitem hexports
    exact List.mem_map_of_mem (f := (·.1)) hgetter

end Module

/-- Without types, the first line of a factory registers the names that the statements of the module
export, each once. A name of the module's own is given by its variable. A name of another module is
read from a variable that is declared for that module in place of the statement, and nowhere else.
Without exported names there is no such line. -/
theorem export_header_exact (m : Module) (h : ModuleSyntax.parse m.id m.code = .ok m.syntax_)
    (hplain : isTyped m.id = false) :
    ∃ program, Program.parse false m.code.toList = some program ∧
      m.body.toList = (exportHeader m.getters).toList ++
        m.pieces.flatMap (Piece.text m.resolved m.code.toList) ∧
      (exportHeader m.getters = "" ↔
        ∀ item ∈ program.items, ∀ name origin, ¬item.Exports name origin) ∧
      (m.getters.map (·.1)).Nodup ∧
      (∀ name, name ∈ m.getters.map (·.1) ↔
        ∃ item ∈ program.items, ∃ origin, item.Exports name origin) ∧
      m.added.Nodup ∧
      ∀ item ∈ program.items, ∀ name origin, item.Exports name origin →
        ∃ e ∈ itemEdits item, ∃ s, .rendered e s ∈ m.pieces ∧
          (name, origin.value s.temporary.1) ∈ m.getters ∧
          ∀ specifier, origin.specifier? = some specifier →
            addedNames s e.replacement = [s.temporary.1] ∧
              (renderReplacement m.resolved s e.replacement).1 =
                declareRequired m.resolved s.temporary.1 specifier := by
  obtain ⟨program, hprogram, hperm, -⟩ := edits_of_parse h
  rw [hplain] at hprogram
  have hnodup := Module.nodup_exports hprogram hperm
  have hiff := Module.mem_names_getters h hprogram hperm
  refine ⟨program, hprogram, m.body_eq_pieces h, ?_, Module.names_getters_eq hnodup ▸ hnodup, hiff,
    Module.added_nodup (Module.defaultExpressions_le_one h hplain), ?_⟩
  · rw [exportHeader_eq_empty, ← List.map_eq_nil_iff (f := (·.1)), List.eq_nil_iff_forall_not_mem]
    refine ⟨fun hnone item hitem name origin hexports => hnone name ?_, fun hnone name hname => ?_⟩
    · exact (hiff name).mpr ⟨item, hitem, origin, hexports⟩
    · obtain ⟨item, hitem, origin, hexports⟩ := (hiff name).mp hname
      exact hnone item hitem name origin hexports
  · intro item hitem name origin hexports
    obtain ⟨e, he, s, hs, hexports, hgetter⟩ :=
      Module.exists_rendered_of_exports h hprogram hperm hitem hexports
    exact ⟨e, he, s, hs, hgetter,
      fun specifier hspecifier => declares_required m.resolved s hexports hspecifier⟩

/-- A module with names of a nested pattern, a name of another module, all names of a third one, and
a default expression. -/
def registering : Module :=
  .alone "virtual:file/a.js"
    ("export const \x7b a, k: [b = 1, ...c] \x7d = o;\n" ++
      "export \x7b default as z \x7d from './m.js';\nexport * from './s.js';\nexport default f();\n")
    ⟨["./m.js", "./s.js"], [⟨0, 7, .exportDeclaration ["a", "b", "c"]⟩,
      ⟨42, 80, .reexportNamed "./m.js" [("default", "z")]⟩, ⟨81, 104, .reexportAll "./s.js"⟩,
      ⟨105, 120, .defaultExpression⟩]⟩

/-- Five names are registered, one of which is read from another module. -/
theorem export_header_exact_registering :
    let m := registering
    ModuleSyntax.parse m.id m.code = .ok m.syntax_ ∧ isTyped m.id = false ∧
      m.getters = [("a", "a"), ("b", "b"), ("c", "c"), ("z", "__pg_default(__pg_m0)"),
        ("default", "__default__")] ∧
      ∃ program, Program.parse false m.code.toList = some program ∧
        (∀ name, name ∈ m.getters.map (·.1) ↔
          ∃ item ∈ program.items, ∃ origin, item.Exports name origin) ∧
        ¬exportHeader m.getters = "" := by
  intro m
  have hparse : ModuleSyntax.parse m.id m.code = .ok m.syntax_ :=
    parse_of_toOption (by decide +kernel)
  obtain ⟨program, hprogram, -, -, -, hnames, -⟩ :=
    export_header_exact m hparse (by decide +kernel)
  exact ⟨hparse, by decide +kernel, by decide +kernel, program, hprogram, hnames,
    by decide +kernel⟩

end LiveBundle
