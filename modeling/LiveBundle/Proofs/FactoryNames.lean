import LiveBundle.Proofs.Splice
import LiveBundle.Proofs.Script.Bindings
import Mathlib.Data.List.Flatten
import Mathlib.Data.List.Perm.Basic
import Mathlib.Data.List.Perm.Subperm

/-!
# Names at the top of a factory

Linking declares names of its own: a variable for each module whose names are bound or exported
again, and one for an expression that is exported as default. They stand in one scope with the names
that the module declares and with the parameters of the factory.

* `ConstDeclaration` is a declaration that stands in place of an edit;
  `renderImport_eq_declarations` gives the text of those of an import, `names_declarationsAt` the
  names.
* `added_perm`: the names of linking's own are numbered in the order of the text.
* `factory_subperm`: the names that are declared are those of the module and the added ones.
* `factory_names_distinct` says when no name is declared twice.
-/

namespace LiveBundle

open Script (Program Item Binding BindingKind bindAs)
open ModuleSyntax (itemEdits siteEdit isTyped)

/-! ## Declarations in place of edits -/

/-- The left side of a declaration: a name, or an object pattern with pairs of the imported and the
local name. -/
inductive ConstTarget where
  | name (name : String)
  | pattern (entries : List (String × String))

/-- A declaration of constants; without a value, the value follows in the module's text. -/
structure ConstDeclaration where
  target : ConstTarget
  value : Option String

def ConstTarget.text : ConstTarget → String
  | .name n => n
  | .pattern entries =>
    "\x7b " ++ Text.joinWith ", " (entries.map fun (i, l) => patternEntry i l) ++ " \x7d"

def ConstTarget.names : ConstTarget → List String
  | .name n => [n]
  | .pattern entries => entries.map (·.2)

def ConstDeclaration.text (d : ConstDeclaration) : String :=
  "const " ++ d.target.text ++ " = " ++ (d.value.map (· ++ ";")).getD ""

/-- The declarations of an import, the first of which is that of the required module. -/
def importDeclarations (resolved : Dict String) (temporary specifier : String)
    (bindings : ImportBindings) : List ConstDeclaration :=
  let default := bindings.default.toList.map fun name =>
    ⟨.name name, some ("__pg_default(" ++ temporary ++ ")")⟩
  let namespace_ := bindings.namespace_.toList.map fun name => ⟨.name name, some temporary⟩
  let named := if bindings.named.isEmpty then []
    else [⟨.pattern bindings.named, some temporary⟩]
  ⟨.name temporary, some (requireCall resolved specifier)⟩ :: default ++ namespace_ ++ named

/-- The declarations that stand in place of an edit. -/
def declarationsAt (resolved : Dict String) (s : Splice) : Replacement → List ConstDeclaration
  | .importing specifier bindings =>
    if bindings.isEmpty then []
    else importDeclarations resolved s.temporary.1 specifier bindings
  | .reexportNamespace specifier _ | .reexportNamed specifier _ =>
    [⟨.name s.temporary.1, some (requireCall resolved specifier)⟩]
  | .defaultExpression => [⟨.name defaultVariable, none⟩]
  | _ => []

lemma text_name (name value : String) :
    ConstDeclaration.text ⟨.name name, some value⟩ = "const " ++ name ++ " = " ++ value ++ ";" := by
  simp [ConstDeclaration.text, ConstTarget.text, String.append_assoc]

lemma text_default (temporary name : String) :
    "const " ++ name ++ " = __pg_default(" ++ temporary ++ ");" =
      ConstDeclaration.text ⟨.name name, some ("__pg_default(" ++ temporary ++ ")")⟩ := by
  apply String.toList_inj.mp
  simp [text_name]

lemma text_pattern (temporary : String) (entries : List (String × String)) :
    ConstDeclaration.text ⟨.pattern entries, some temporary⟩ =
      "const \x7b " ++ Text.joinWith ", " (entries.map fun (i, l) => patternEntry i l) ++
        " \x7d = " ++ temporary ++ ";" := by
  apply String.toList_inj.mp
  simp [ConstDeclaration.text, ConstTarget.text]

/-- The statements of an import that binds something are declarations. -/
lemma renderImport_eq_declarations {resolved : Dict String} {s : Splice} {specifier : String}
    {bindings : ImportBindings} (hempty : bindings.isEmpty = false) :
    (renderImport resolved s specifier bindings).1 =
      Text.joinWith " "
        ((importDeclarations resolved s.temporary.1 specifier bindings).map
          ConstDeclaration.text) := by
  unfold renderImport
  rw [if_neg (by rw [hempty]; exact Bool.false_ne_true)]
  generalize s.temporary = next
  obtain ⟨temporary, s⟩ := next
  simp only [importDeclarations, List.map_cons, List.map_append, List.cons_append, List.map_map,
    Function.comp_def, text_name, text_default, declareRequired]
  split
  · rfl
  · simp only [List.map_cons, List.map_nil, text_pattern]

/-- Whether an edit needs a variable for a required module. -/
def Replacement.takesTemporary : Replacement → Bool
  | .importing _ bindings => !bindings.isEmpty
  | .reexportNamespace .. | .reexportNamed .. => true
  | _ => false

/-- Whether an edit declares what is exported as default. -/
def Replacement.isDefaultExpression : Replacement → Bool
  | .defaultExpression => true
  | _ => false

/-- The variable for the module that is required as number `n`. -/
def temporaryName (n : Nat) : String := "__pg_m" ++ toString n

/-- The names that linking adds in place of an edit. -/
def addedNames (s : Splice) (r : Replacement) : List String :=
  if r.takesTemporary then [temporaryName s.temporaries]
  else if r.isDefaultExpression then [defaultVariable]
  else []

/-- The names that an import binds. -/
def ImportBindings.names (b : ImportBindings) : List String :=
  b.default.toList ++ b.namespace_.toList ++ b.named.map (·.2)

/-- The names of the module that are declared in place of an edit. -/
def importedNames : Replacement → List String
  | .importing _ bindings => bindings.names
  | _ => []

lemma names_importDeclarations (resolved : Dict String) (temporary specifier : String)
    (bindings : ImportBindings) :
    (importDeclarations resolved temporary specifier bindings).flatMap (·.target.names) =
      temporary :: bindings.names := by
  unfold importDeclarations ImportBindings.names
  cases bindings.named <;> simp [ConstTarget.names, List.flatMap_map]

/-- What is declared in place of an edit is added or imported. -/
lemma names_declarationsAt (resolved : Dict String) (s : Splice) (r : Replacement) :
    (declarationsAt resolved s r).flatMap (·.target.names) = addedNames s r ++ importedNames r := by
  cases r with
  | importing specifier bindings =>
    have hdeclared : declarationsAt resolved s (.importing specifier bindings) =
        if bindings.isEmpty then []
        else importDeclarations resolved s.temporary.1 specifier bindings := rfl
    have hadded : addedNames s (.importing specifier bindings) =
        if bindings.isEmpty then [] else [temporaryName s.temporaries] := by
      cases hempty : bindings.isEmpty <;> simp [addedNames, Replacement.takesTemporary, hempty,
        Replacement.isDefaultExpression]
    rw [hdeclared, hadded]
    split
    · rename_i hempty
      have hnames : bindings.names = [] := by
        simp only [ImportBindings.isEmpty, Bool.and_eq_true, Option.isNone_iff_eq_none,
          List.isEmpty_iff] at hempty
        simp [ImportBindings.names, hempty]
      exact hnames.symm
    · exact names_importDeclarations _ _ _ _
  | _ => rfl

/-! ## Names that are added -/

lemma temporaries_getter (s : Splice) (exported expression : String) :
    (s.getter exported expression).temporaries = s.temporaries := by
  unfold Splice.getter
  split <;> rfl

lemma temporaries_addGetters (s : Splice) (names : List (String × String)) :
    (s.addGetters names).temporaries = s.temporaries := by
  unfold Splice.addGetters
  induction names generalizing s with
  | nil => rfl
  | cons name names ih => exact (ih _).trans (temporaries_getter _ _ _)

/-- Rendering counts the variables that are taken. -/
lemma temporaries_rendered (resolved : Dict String) (s : Splice) (r : Replacement) :
    (renderReplacement resolved s r).2.temporaries =
      s.temporaries + if r.takesTemporary then 1 else 0 := by
  cases r with
  | importing specifier bindings =>
    have htakes : (Replacement.importing specifier bindings).takesTemporary =
        !bindings.isEmpty := rfl
    show (renderImport resolved s specifier bindings).2.temporaries = _
    rw [htakes]
    unfold renderImport
    cases bindings.isEmpty <;> rfl
  | reexportNamespace specifier exported => exact temporaries_getter _ _ _
  | reexportNamed specifier names => exact temporaries_addGetters _ _
  | exportList names => exact temporaries_addGetters _ _
  | exportDeclaration names => exact temporaries_addGetters _ _
  | defaultDeclaration name => exact temporaries_getter _ _ _
  | defaultExpression => exact temporaries_getter _ _ _
  | _ => rfl

/-- The names that linking adds in a piece. -/
def Piece.added : Piece → List String
  | .copied .. => []
  | .rendered e s => addedNames s e.replacement

/-- The names of linking's own, numbered in the order of the text. -/
lemma added_perm (resolved : Dict String) (size position : Nat) (s : Splice) (es : List Edit) :
    ((piecesFrom resolved size position s es).flatMap Piece.added).Perm
      ((List.range' s.temporaries (es.countP (·.replacement.takesTemporary))).map temporaryName ++
        List.replicate (es.countP (·.replacement.isDefaultExpression)) defaultVariable) := by
  induction es generalizing position s with
  | nil => exact .refl _
  | cons e es ih =>
    have hrest := ih e.stop (renderReplacement resolved s e.replacement).2
    rw [temporaries_rendered] at hrest
    show (addedNames s e.replacement ++
      (piecesFrom resolved size e.stop _ es).flatMap Piece.added).Perm _
    refine (hrest.append_left _).trans ?_
    rw [List.countP_cons, List.countP_cons]
    unfold addedNames
    cases htakes : e.replacement.takesTemporary with
    | true =>
      have hdefault : e.replacement.isDefaultExpression = false := by
        cases hr : e.replacement <;> rw [hr] at htakes <;> first | rfl | cases htakes
      simp only [hdefault, if_true, Bool.false_eq_true, if_false, Nat.add_zero, List.range'_succ,
        List.map_cons, List.cons_append, List.nil_append]
      exact .refl _
    | false =>
      cases hdefault : e.replacement.isDefaultExpression with
      | true =>
        simp only [Bool.false_eq_true, if_false, if_true, Nat.add_zero, List.replicate_succ,
          List.cons_append, List.nil_append]
        exact List.perm_middle.symm
      | false => exact .refl _

lemma temporaryName_injective : Function.Injective temporaryName := by
  intro m n h
  have hdigits : Nat.toDigits 10 m = Nat.toDigits 10 n := by
    have htext := (String.append_right_inj _).mp h
    rwa [Nat.toString_eq_ofList_toDigits, Nat.toString_eq_ofList_toDigits, String.ofList_inj]
      at htext
  calc
    m = Nat.ofDigitChars 10 (Nat.toDigits 10 m) 0 := Nat.ofDigitChars_ten_toDigits.symm
    _ = Nat.ofDigitChars 10 (Nat.toDigits 10 n) 0 := by rw [hdigits]
    _ = n := Nat.ofDigitChars_ten_toDigits

lemma toList_temporaryName (n : Nat) :
    (temporaryName n).toList = ['_', '_', 'p', 'g', '_', 'm'] ++ (toString n).toList := by
  simp [temporaryName]

lemma temporaryName_ne_defaultVariable (n : Nat) : temporaryName n ≠ defaultVariable := by
  intro h
  have hlists := congrArg String.toList h
  rw [toList_temporaryName] at hlists
  simp [defaultVariable] at hlists

/-- The parameters of a factory. -/
def factoryParameters : List String := ["module", "exports", "require"]

lemma temporaryName_not_parameter (n : Nat) : temporaryName n ∉ factoryParameters := by
  intro h
  have hlists := List.mem_map_of_mem (f := String.toList) h
  rw [toList_temporaryName] at hlists
  simp [factoryParameters] at hlists

namespace Module

/-- The edits of a module that are rendered. -/
def kept (m : Module) : List Edit := keptEdits (Text.byteSize m.code.toList) 0 m.syntax_.edits

/-- The names that linking adds to a module, in the order of the text. -/
def added (m : Module) : List String := m.pieces.flatMap Piece.added

/-- The number of required modules with a variable. -/
def temporaries (m : Module) : Nat := m.kept.countP (·.replacement.takesTemporary)

/-- The number of expressions that are exported as default. -/
def defaultExpressions (m : Module) : Nat := m.kept.countP (·.replacement.isDefaultExpression)

lemma added_perm (m : Module) :
    m.added.Perm ((List.range m.temporaries).map temporaryName ++
      List.replicate m.defaultExpressions defaultVariable) := by
  have h := LiveBundle.added_perm m.resolved (Text.byteSize m.code.toList) 0 {} m.kept
  rwa [← List.range_eq_range'] at h

lemma mem_added {m : Module} {name : String} (h : name ∈ m.added) :
    (∃ i < m.temporaries, name = temporaryName i) ∨
      0 < m.defaultExpressions ∧ name = defaultVariable := by
  rcases List.mem_append.mp (m.added_perm.mem_iff.mp h) with h | h
  · obtain ⟨i, hi, rfl⟩ := List.mem_map.mp h
    exact .inl ⟨i, List.mem_range.mp hi, rfl⟩
  · obtain ⟨hcount, rfl⟩ := List.mem_replicate.mp h
    exact .inr ⟨Nat.pos_of_ne_zero hcount, rfl⟩

/-- No name is added twice, if there is at most one default expression. -/
lemma added_nodup {m : Module} (h : m.defaultExpressions ≤ 1) : m.added.Nodup := by
  refine m.added_perm.nodup_iff.mpr (List.nodup_append.mpr ⟨?_, ?_, fun a ha b hb => ?_⟩)
  · exact List.nodup_range.map temporaryName_injective
  · rw [List.nodup_replicate]
    exact h
  · obtain ⟨i, -, rfl⟩ := List.mem_map.mp ha
    obtain ⟨-, rfl⟩ := List.mem_replicate.mp hb
    exact temporaryName_ne_defaultVariable i

end Module

/-! ## Names that are imported -/

/-- Sorting out what an import binds loses no name. -/
lemma names_bindings (clause : Script.ImportClause) :
    (ModuleSyntax.bindings clause).names.Perm clause.names := by
  have hfold (ns : List Script.ImportName) (b : ImportBindings) :
      (ns.foldl (fun b n =>
        if n.imported == "default" && b.default.isNone then { b with default := some n.localName }
        else { b with named := b.named ++ [(n.imported, n.localName)] }) b).names.Perm
          (b.names ++ ns.map (·.localName)) := by
    induction ns generalizing b with
    | nil => simp
    | cons n ns ih =>
      refine (ih _).trans ?_
      rw [List.map_cons, ← List.singleton_append, ← List.append_assoc]
      refine List.Perm.append_right _ ?_
      dsimp only
      split
      · rename_i hdefault
        have hnone : b.default = none := by simp_all
        simp only [ImportBindings.names, hnone, Option.toList_some, Option.toList_none,
          List.nil_append, List.append_assoc [n.localName]]
        exact List.perm_append_comm
      · simp [ImportBindings.names]
  refine (hfold _ _).trans ?_
  simp [ImportBindings.names, Script.ImportClause.names]

lemma imported_itemEdits {text : List Char} (item : Item text) :
    ((itemEdits item).flatMap fun e => importedNames e.replacement).Perm
      (item.imports?.getD []) := by
  cases item with
  | importing span specifier clause =>
    show ((ModuleSyntax.bindings clause).names ++ []).Perm clause.names
    rw [List.append_nil]
    exact names_bindings clause
  | exportAll span specifier exported => cases exported <;> exact .refl _
  | exportDeclaration span head declaration =>
    cases hnames : declaration.names? <;> simp [itemEdits, hnames, importedNames, Item.imports?,
      ModuleSyntax.editOf]
  | _ => exact .refl _

lemma imported_siteEdit {text : List Char} (site : Script.Site text) :
    importedNames (siteEdit site).replacement = [] := by
  cases site <;> rfl

/-- The names that declarations in a piece bind. -/
def Piece.declared (resolved : Dict String) : Piece → List String
  | .copied .. => []
  | .rendered e s => (declarationsAt resolved s e.replacement).flatMap (·.target.names)

/-- What pieces declare is added or imported. -/
lemma declared_perm (resolved : Dict String) (size position : Nat) (s : Splice) (es : List Edit) :
    ((piecesFrom resolved size position s es).flatMap (Piece.declared resolved)).Perm
      ((piecesFrom resolved size position s es).flatMap Piece.added ++
        es.flatMap fun e => importedNames e.replacement) := by
  induction es generalizing position s with
  | nil => exact .refl _
  | cons e es ih =>
    have hrest := ih e.stop (renderReplacement resolved s e.replacement).2
    simp only [piecesFrom, List.flatMap_cons, Piece.declared, Piece.added, List.nil_append,
      names_declarationsAt, List.append_assoc]
    refine List.Perm.append_left _ ((hrest.append_left _).trans ?_)
    simp only [← List.append_assoc]
    exact List.perm_append_comm.append_right _

/-! ## The top of a factory -/

/-- The names that are bound once in their scope. -/
def lexicalNames (bs : List Binding) : List String :=
  (bs.filter (·.kind == .lexical)).map (·.name)

lemma lexicalNames_append (as bs : List Binding) :
    lexicalNames (as ++ bs) = lexicalNames as ++ lexicalNames bs := by
  simp [lexicalNames]

lemma lexicalNames_bindAs (names : List String) : lexicalNames (bindAs .lexical names) = names := by
  simp [lexicalNames, bindAs, List.filter_map, Function.comp_def]

namespace Module

/-- The statements of a module, with what each of them binds at the top level. -/
def bound (m : Module) : List (Item m.code.toList × List Binding) :=
  (Program.bound? (isTyped m.id) m.code.toList).getD []

/-- What a module binds at its top level. -/
def bindings (m : Module) : List Binding := m.bound.flatMap (·.2)

/-- The names of the declarations that stand in place of edits. -/
def declared (m : Module) : List String := m.pieces.flatMap (Piece.declared m.resolved)

/-- What is bound at the top of the factory: by the statements other than imports, which stay, and
by the declarations in place of edits. -/
def factoryBindings (m : Module) : List Binding :=
  (m.bound.filter (·.1.imports?.isNone)).flatMap (·.2) ++ bindAs .lexical m.declared

end Module

/-- Imports apart, statements bind the same. -/
lemma lexicalNames_bound {text : List Char} {bound : List (Item text × List Binding)}
    (h : ∀ r ∈ bound, ∀ names, r.1.imports? = some names → r.2 = bindAs .lexical names) :
    (lexicalNames ((bound.filter (·.1.imports?.isNone)).flatMap (·.2)) ++
        bound.flatMap fun r => r.1.imports?.getD []).Perm
      (lexicalNames (bound.flatMap (·.2))) := by
  induction bound with
  | nil => exact .refl _
  | cons r rs ih =>
    have hrest := ih fun r hr => h r (List.mem_cons_of_mem _ hr)
    rw [List.filter_cons, List.flatMap_cons, List.flatMap_cons, lexicalNames_append]
    cases hnames : r.1.imports? with
    | none =>
      simp only [Option.isNone_none, if_true, List.flatMap_cons, lexicalNames_append,
        Option.getD_none, List.nil_append, List.append_assoc]
      exact hrest.append_left _
    | some names =>
      rw [h r List.mem_cons_self names hnames, lexicalNames_bindAs]
      simp only [Option.isNone_some, Bool.false_eq_true, if_false, Option.getD_some]
      exact List.perm_append_comm_assoc _ _ _ |>.trans (hrest.append_left _)

/-- What is declared for imports is what the imports of the module bind. -/
lemma imported_subperm {m : Module} (h : ModuleSyntax.parse m.id m.code = .ok m.syntax_) :
    (m.kept.flatMap fun e => importedNames e.replacement).Subperm
      (m.bound.flatMap fun r => r.1.imports?.getD []) := by
  obtain ⟨program, hprogram, hperm, -, -, -⟩ := edits_of_parse h
  obtain ⟨bound, hbound, hitems⟩ := Program.bound_of_parse hprogram
  have hkept : (m.kept.flatMap fun e => importedNames e.replacement).Sublist
      (m.syntax_.edits.flatMap fun e => importedNames e.replacement) :=
    (keptEdits_sublist _ _ _).flatMap _
  have hsites :
      (program.sites.flatMap fun site => importedNames (siteEdit site).replacement) = [] :=
    List.flatMap_eq_nil_iff.mpr fun site _ => imported_siteEdit site
  refine hkept.subperm.trans (List.Perm.subperm ((hperm.flatMap_right _).trans ?_))
  rw [List.flatMap_append, List.flatMap_assoc, ← hitems, Module.bound, hbound, Option.getD_some,
    List.flatMap_map, List.flatMap_map, hsites, List.append_nil]
  exact List.Perm.flatMap (.refl _) fun r _ => imported_itemEdits r.1

/-- At the top of a factory stand the names of the module and those that are added. -/
lemma factory_subperm {m : Module} (h : ModuleSyntax.parse m.id m.code = .ok m.syntax_) :
    (lexicalNames m.factoryBindings).Subperm (lexicalNames m.bindings ++ m.added) := by
  obtain ⟨program, hprogram, -⟩ := edits_of_parse h
  obtain ⟨bound, hbound, -⟩ := Program.bound_of_parse hprogram
  have hm : m.bound = bound := by rw [Module.bound, hbound]; rfl
  have hdeclared : m.declared.Subperm
      (m.added ++ m.bound.flatMap fun r => r.1.imports?.getD []) :=
    (declared_perm _ _ _ _ _).subperm.trans ((List.subperm_append_left _).mpr (imported_subperm h))
  rw [Module.factoryBindings, lexicalNames_append, lexicalNames_bindAs]
  refine ((List.subperm_append_left _).mpr hdeclared).trans (List.Perm.subperm ?_)
  have hbinds := lexicalNames_bound (hm ▸ Program.bound_imports hbound)
  refine List.Perm.trans ?_ (hbinds.append_right _)
  rw [List.append_assoc]
  exact List.perm_append_comm.append_left _

/-! ## Default expressions -/

lemma count_itemEdits {text : List Char} (item : Item text) :
    (itemEdits item).countP (·.replacement.isDefaultExpression) ≤
      item.exportedNames.count "default" := by
  cases item with
  | exportAll span specifier exported => cases exported <;> exact Nat.zero_le _
  | exportDeclaration span head declaration =>
    cases hnames : declaration.names? <;>
      simp [itemEdits, hnames, Replacement.isDefaultExpression, ModuleSyntax.editOf]
  | exportDefaultAnonymous head tail => exact Nat.le_refl _
  | exportDefaultExpression head => exact Nat.le_refl _
  | _ => exact Nat.zero_le _

/-- Without types, no name is exported twice. -/
lemma nodup_exportedNames {text : List Char} {program : Program text}
    (h : Program.parse false text = some program) :
    (program.items.flatMap Item.exportedNames).Nodup := by
  unfold Program.parse at h
  simp only [Option.bind_eq_bind, Option.bind_eq_some_iff] at h
  obtain ⟨⟨items, s⟩, -, hrest⟩ := h
  split at hrest
  · cases hrest
  · rename_i hflawless
    cases hrest
    refine Program.distinct_iff.mp ?_
    simp only [Bool.false_or, Bool.or_eq_true, Bool.not_eq_true', not_or, Bool.not_eq_false]
      at hflawless
    exact hflawless.2

/-- Without types, at most one expression is exported as default. -/
lemma Module.defaultExpressions_le_one {m : Module}
    (h : ModuleSyntax.parse m.id m.code = .ok m.syntax_) (hplain : isTyped m.id = false) :
    m.defaultExpressions ≤ 1 := by
  obtain ⟨program, hprogram, hperm, -, -, -⟩ := edits_of_parse h
  have hnodup := nodup_exportedNames (hplain ▸ hprogram)
  have hitems : (program.items.flatMap itemEdits).countP (·.replacement.isDefaultExpression) ≤
      (program.items.flatMap Item.exportedNames).count "default" := by
    generalize program.items = items
    induction items with
    | nil => exact Nat.le_refl _
    | cons item items ih =>
      rw [List.flatMap_cons, List.flatMap_cons, List.countP_append, List.count_append]
      exact Nat.add_le_add (count_itemEdits item) ih
  have hsites : (program.sites.map siteEdit).countP (·.replacement.isDefaultExpression) = 0 := by
    rw [List.countP_eq_zero]
    intro e he
    obtain ⟨site, -, rfl⟩ := List.mem_map.mp he
    cases site <;> exact Bool.false_ne_true
  calc
    m.defaultExpressions ≤ m.syntax_.edits.countP (·.replacement.isDefaultExpression) :=
      (keptEdits_sublist _ _ _).countP_le
    _ = (program.items.flatMap itemEdits).countP (·.replacement.isDefaultExpression) := by
      rw [hperm.countP_eq, List.countP_append, hsites, Nat.add_zero]
    _ ≤ (program.items.flatMap Item.exportedNames).count "default" := hitems
    _ ≤ 1 := List.nodup_iff_count_le_one.mp hnodup _

/-! ## Distinct names -/

/-- The names that are added to a module are numbered variables and the one of a default expression.
Where the module uses neither them nor the names of the parameters, they are distinct, also from the
variables and functions of the module, and no name is declared twice at the top of the factory. -/
theorem factory_names_distinct (m : Module)
    (h : ModuleSyntax.parse m.id m.code = .ok m.syntax_)
    (hdefault : isTyped m.id = true → m.defaultExpressions ≤ 1)
    (hdistinct : (lexicalNames m.bindings).Nodup)
    (hparameters : ∀ name ∈ lexicalNames m.bindings, name ∉ factoryParameters)
    (hfree : ∀ b ∈ m.bindings, (∀ i < m.temporaries, b.name ≠ temporaryName i) ∧
      (0 < m.defaultExpressions → b.name ≠ defaultVariable)) :
    m.added.Perm ((List.range m.temporaries).map temporaryName ++
        List.replicate m.defaultExpressions defaultVariable) ∧
      m.added.Nodup ∧ (∀ name ∈ m.added, ∀ b ∈ m.bindings, b.name ≠ name) ∧
      (factoryParameters ++ lexicalNames m.factoryBindings).Nodup := by
  have hone : m.defaultExpressions ≤ 1 := by
    cases htyped : isTyped m.id with
    | false => exact Module.defaultExpressions_le_one h htyped
    | true => exact hdefault htyped
  have hadded := Module.added_nodup hone
  have hapart : ∀ name ∈ m.added, ∀ b ∈ m.bindings, b.name ≠ name := by
    rintro name hname b hb rfl
    rcases Module.mem_added hname with ⟨i, hi, heq⟩ | ⟨hcount, heq⟩
    · exact (hfree b hb).1 i hi heq
    · exact (hfree b hb).2 hcount heq
  refine ⟨m.added_perm, hadded, hapart, ?_⟩
  have hall : (factoryParameters ++ (lexicalNames m.bindings ++ m.added)).Nodup := by
    refine List.nodup_append.mpr ⟨by decide, List.nodup_append.mpr ⟨hdistinct, hadded, ?_⟩, ?_⟩
    · intro own hown name hname heq
      obtain ⟨b, hb, rfl⟩ := List.mem_map.mp hown
      exact hapart name hname b (List.mem_of_mem_filter hb) heq
    · rintro parameter hparameter name hname rfl
      rcases List.mem_append.mp hname with hown | hname
      · exact hparameters parameter hown hparameter
      · rcases Module.mem_added hname with ⟨i, -, rfl⟩ | ⟨-, rfl⟩
        · exact temporaryName_not_parameter i hparameter
        · exact absurd hparameter (by decide)
  obtain ⟨names, hnames, hsub⟩ :=
    (List.subperm_append_left factoryParameters).mpr (factory_subperm h)
  exact hnames.nodup_iff.mp (hall.sublist hsub)

namespace Named

/-- A module with an import, another module's names exported, and a default expression. -/
def whole : Module :=
  .alone "virtual:file/a.js"
    "import a, \x7b b \x7d from './a.js';\nexport * as n from './n.js';\nlet c = a;\nexport default c;\n"
    ⟨["./a.js", "./n.js"],
      [⟨0, 30, .importing "./a.js" { default := some "a", named := [("b", "b")] }⟩,
        ⟨31, 59, .reexportNamespace "./n.js" "n"⟩, ⟨71, 86, .defaultExpression⟩]⟩

/-- A module that uses the name of the variable for its import. -/
def numbered : Module :=
  .alone "virtual:file/a.js" "const __pg_m0 = 1;\nimport a from './a.js';\n"
    ⟨["./a.js"], [⟨19, 42, .importing "./a.js" { default := some "a" }⟩]⟩

/-- A module that uses the name of a parameter. -/
def shadowing : Module := .alone "virtual:file/a.js" "const module = 1;\n" ⟨[], []⟩

/-- A module with types and two default expressions. -/
def twofold : Module :=
  .alone "virtual:file/a.ts" "export default 1;\nexport default 2;\n"
    ⟨[], [⟨0, 15, .defaultExpression⟩, ⟨18, 33, .defaultExpression⟩]⟩

end Named

/-- Three names are added to a module with three bindings. -/
theorem factory_names_distinct_whole :
    ModuleSyntax.parse Named.whole.id Named.whole.code = .ok Named.whole.syntax_ ∧
      lexicalNames Named.whole.bindings = ["a", "b", "c"] ∧
      Named.whole.added = ["__pg_m0", "__pg_m1", "__default__"] ∧ Named.whole.added.Nodup ∧
      (∀ name ∈ Named.whole.added, ∀ b ∈ Named.whole.bindings, b.name ≠ name) ∧
      (factoryParameters ++ lexicalNames Named.whole.factoryBindings).Nodup := by
  have hparse : ModuleSyntax.parse Named.whole.id Named.whole.code = .ok Named.whole.syntax_ :=
    parse_of_toOption (by decide +kernel)
  obtain ⟨-, hdistinct⟩ := factory_names_distinct Named.whole hparse (by decide +kernel)
    (by decide +kernel) (by decide +kernel) (by decide +kernel)
  exact ⟨hparse, by decide +kernel, by decide +kernel, hdistinct⟩

/-- Nothing keeps a module from using the names that linking adds, or those of the parameters. With
types, also two default expressions are read. -/
theorem factory_names_clash :
    (ModuleSyntax.parse Named.numbered.id Named.numbered.code = .ok Named.numbered.syntax_ ∧
      lexicalNames Named.numbered.bindings = ["__pg_m0", "a"] ∧
      Named.numbered.added = ["__pg_m0"] ∧
      Named.numbered.body =
        "const __pg_m0 = 1;\nconst __pg_m0 = require(\"./a.js\"); const a = __pg_default(__pg_m0);\n") ∧
    (ModuleSyntax.parse Named.shadowing.id Named.shadowing.code = .ok Named.shadowing.syntax_ ∧
      lexicalNames Named.shadowing.bindings = ["module"] ∧ "module" ∈ factoryParameters) ∧
    ModuleSyntax.parse Named.twofold.id Named.twofold.code = .ok Named.twofold.syntax_ ∧
      Named.twofold.added = ["__default__", "__default__"] := by
  refine ⟨⟨parse_of_toOption ?_, ?_, ?_, ?_⟩, ⟨parse_of_toOption ?_, ?_, ?_⟩,
    parse_of_toOption ?_, ?_⟩
  all_goals decide +kernel

end LiveBundle
