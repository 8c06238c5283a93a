import LiveBundle.Proofs.Chain
import LiveBundle.Proofs.Component.Reading
import LiveBundle.Proofs.ModuleSyntax
import LiveBundle.Proofs.Path

/-!
# Placeholders of missing files

A library file that is missing has a placeholder for its content, which then takes the way of any
content: the chain changes it by the extension of the path, and what comes out is read as a module.

* `missingModule` is what the chain makes of a placeholder, `recovers_iff_missingModule` says that a
  missing file is a module without dependencies exactly when that text reads as one.
* `not_recovers_data`: the placeholder of a data file is no data, so a missing one is an error.
* `recovers_component_iff` and `recovers_comment` are about spellings of paths.
* `recovers_iff` puts the extensions together.
-/

namespace LiveBundle

/-! ## Extensions -/

namespace Text

/-- Two ends of one text that are different at their last characters. -/
lemma hasSuffix_exclusive {p q s : String} {c d : Char} (h : hasSuffix p s = true)
    (hp : p.toList.getLast? = some c) (hq : q.toList.getLast? = some d) (hcd : c ≠ d) :
    hasSuffix q s = false := by
  rw [← Bool.not_eq_true]
  intro hqs
  rw [hasSuffix, List.isSuffixOf_iff_suffix] at h hqs
  obtain ⟨t, ht⟩ := h
  obtain ⟨u, hu⟩ := hqs
  have hlast : (t ++ p.toList).getLast? = (u ++ q.toList).getLast? := by rw [ht, hu]
  rw [List.getLast?_append, List.getLast?_append, hp, hq] at hlast
  exact hcd (Option.some.inj hlast)

end Text

/-- An extension is seen at the path of a library file. -/
lemma hasSuffix_fileId {extension : String} (hdot : extension.toList.head? = some '.')
    (path : String) :
    Text.hasSuffix extension (Specifier.fileId path) = Text.hasSuffix extension path := by
  rw [Bool.eq_iff_iff, Text.hasSuffix, Text.hasSuffix, List.isSuffixOf_iff_suffix,
    List.isSuffixOf_iff_suffix, Specifier.fileId, String.toList_append]
  constructor
  · rintro ⟨t, ht⟩
    rcases List.append_eq_append_iff.mp ht with ⟨front, hstart, hextension⟩ | ⟨back, -, hpath⟩
    · cases front with
      | nil => exact ⟨[], hextension⟩
      | cons c front =>
        -- The prefix of ids has no dot.
        exfalso
        rw [hextension, List.cons_append, List.head?_cons, Option.some.injEq] at hdot
        have hmem : '.' ∈ Specifier.filePrefix.toList := by
          rw [hstart, hdot]
          simp
        exact absurd hmem (by decide)
    · exact ⟨back, hpath.symm⟩
  · exact fun h => h.trans (List.suffix_append _ _)

/-- A vector image is no component. -/
lemma vector_excludes {path : String} (h : Text.hasSuffix Specifier.vectorExtension path = true) :
    Text.hasSuffix Specifier.componentExtension path = false :=
  Text.hasSuffix_exclusive h (c := 'g') rfl (d := 'e') rfl (by decide)

/-- A data file is neither a component nor a vector image. -/
lemma data_excludes {path : String} (h : Text.hasSuffix LibraryFile.dataExtension path = true) :
    Text.hasSuffix Specifier.componentExtension path = false ∧
      Text.hasSuffix Specifier.vectorExtension path = false :=
  ⟨Text.hasSuffix_exclusive h (c := 'n') rfl (d := 'e') rfl (by decide),
    Text.hasSuffix_exclusive h (c := 'n') rfl (d := 'g') rfl (by decide)⟩

/-- A component is neither a vector image nor a data file. -/
lemma component_excludes {path : String}
    (h : Text.hasSuffix Specifier.componentExtension path = true) :
    Text.hasSuffix Specifier.vectorExtension path = false ∧
      Text.hasSuffix LibraryFile.dataExtension path = false :=
  ⟨Text.hasSuffix_exclusive h (c := 'e') rfl (d := 'g') rfl (by decide),
    Text.hasSuffix_exclusive h (c := 'e') rfl (d := 'n') rfl (by decide)⟩

/-! ## What becomes of a placeholder -/

/-- What the chain makes of the placeholder of a missing file; nothing when it is refused. -/
def missingModule (env : Environment) (path : String) : Option String :=
  if Text.hasSuffix Specifier.componentExtension path then
    match Component.compile env.styleCompiler (Component.preprocess env.styleCompiler
        env.config.styles.languages (LibraryFile.placeholder path)) (Specifier.fileId path) with
    | .ok compiled => some compiled.code
    | .error _ => none
  else if Text.hasSuffix Specifier.vectorExtension path then
    some ("export default \"" ++ LibraryFile.dataUri LibraryFile.emptyImage ++ "\";")
  else if Text.hasSuffix LibraryFile.dataExtension path then none
  else some (LibraryFile.placeholder path)

/-- The text reads as a module that depends on nothing. -/
def ReadsAlone (id code : String) : Prop :=
  ∃ syntax_, ModuleSyntax.parse id code = .ok syntax_ ∧ syntax_.dependencies = []

/-- The library file at a path is loaded, changed and read as a module that depends on nothing. -/
def Recovers (env : Environment) (registry : Registry) (path : String) (s : Session) : Prop :=
  ∃ code syntax_ s', Pass.prepare (providers env.config registry) (Specifier.fileId path) env s =
    (.ok (code, syntax_), s') ∧ syntax_.dependencies = []

variable {env : Environment} {registry : Registry} {path : String} {s : Session}

lemma load_missing (hmissing : registry.find? path = none)
    (hindex : path ≠ env.config.facade.index) :
    Chain.load (providers env.config registry) (Specifier.fileId path) =
      pure (some (LibraryFile.placeholder path)) := by
  rw [load_file, hmissing]
  simp only [if_neg hindex]

/-- A missing file is a module when its placeholder is changed into the text of one. -/
lemma recovers_iff_transform (hmissing : registry.find? path = none)
    (hindex : path ≠ env.config.facade.index) :
    Recovers env registry path s ↔ ∃ code s', Chain.transform (providers env.config registry)
      (LibraryFile.placeholder path) (Specifier.fileId path) env s = (.ok code, s') ∧
        ReadsAlone (Specifier.fileId path) code := by
  constructor
  · rintro ⟨code, syntax_, s', hrun, hdependencies⟩
    obtain ⟨source, s₁, hload, htransform, hparse⟩ := Pass.prepare_eq_ok.mp hrun
    rw [load_missing hmissing hindex] at hload
    obtain ⟨rfl, rfl⟩ : LibraryFile.placeholder path = source ∧ s = s₁ := by simpa using hload
    exact ⟨code, s', htransform, syntax_, hparse, hdependencies⟩
  · rintro ⟨code, s', htransform, syntax_, hparse, hdependencies⟩
    refine ⟨code, syntax_, s', Pass.prepare_eq_ok.mpr ⟨_, s, ?_, htransform, hparse⟩, hdependencies⟩
    rw [load_missing hmissing hindex]
    rfl

/-- A file that is missing is not in the registry under its own path. -/
lemma get?_of_find? (hmissing : registry.find? path = none) : registry.get? path = none := by
  rw [Registry.find?, List.findSome?_cons] at hmissing
  cases hget : registry.get? (String.ofList path.toList) with
  | none => rwa [String.ofList_toList] at hget
  | some e =>
    rw [hget] at hmissing
    cases hmissing

/-- A missing file is a vector image by its path alone. -/
lemma isVector_missing (hmissing : registry.find? path = none) :
    LibraryFile.isVector registry (Specifier.fileId path) path =
      Text.hasSuffix Specifier.vectorExtension path := by
  rw [LibraryFile.isVector, get?_of_find? hmissing, hasSuffix_fileId rfl]
  exact Bool.or_false _

/-- No data starts with a slash. -/
lemma parse_slash {text : String} {rest : List Char} (h : text.toList = '/' :: rest) :
    ∃ fault, Json.parse text = .error fault := by
  -- The first character decides, so the rest need not be known.
  have hread : Json.Reader.value Json.maxDepth ('/' :: rest) =
      .failed ⟨.expectedValue, some (Text.byteSize ('/' :: rest) - 1)⟩ ('/' :: rest) := rfl
  refine ⟨⟨.expectedValue, some (Text.byteSize ('/' :: rest) - 1)⟩, ?_⟩
  unfold Json.parse Json.Reader.whole Json.Reader.bind
  rw [h, hread]

/-- The comment in place of a file of any other kind. -/
lemma placeholder_comment (hcomponent : Text.hasSuffix Specifier.componentExtension path = false)
    (hvector : Text.hasSuffix Specifier.vectorExtension path = false) :
    (LibraryFile.placeholder path).toList =
      '/' :: '*' :: (" File not found: ".toList ++ path.toList ++ [' ', '*', '/']) := by
  unfold LibraryFile.placeholder
  rw [hcomponent, hvector, if_neg Bool.false_ne_true, if_neg Bool.false_ne_true,
    String.toList_append, String.toList_append]
  rfl

lemma transform_library {code : String}
    (h : LibraryFile.transform registry code (Specifier.fileId path) = .ok none) :
    Chain.transform (providers env.config registry) code (Specifier.fileId path) =
      Chain.transform [componentProvider, remoteProvider, catchAllProvider] code
        (Specifier.fileId path) := by
  have hlibrary : (libraryProvider env.config.facade registry).transform code
      (Specifier.fileId path) = pure none := by
    show Action.ofExcept (LibraryFile.transform registry code (Specifier.fileId path)) = _
    rw [h]
    rfl
  rw [providers, Chain.transform_skip rfl, Chain.transform_skip hlibrary]

/-- A vector image is changed into the module that exports its data URI, and stays that. -/
lemma transform_image {config : Config} {id : String} (hid : Specifier.filePath? id = some path)
    (hvector : LibraryFile.isVector registry id path = true) (hcomponent : isComponentId id = false)
    (code : String) : Chain.transform (providers config registry) code id =
      pure ("export default \"" ++ LibraryFile.dataUri code ++ "\";") := by
  have hlibrary : (libraryProvider config.facade registry).transform code id =
      pure (some ("export default \"" ++ LibraryFile.dataUri code ++ "\";")) := by
    show Action.ofExcept (LibraryFile.transform registry code id) = _
    rw [LibraryFile.transform, hid]
    simp only [hvector, if_true]
    rfl
  have hskip : componentProvider.transform
      ("export default \"" ++ LibraryFile.dataUri code ++ "\";") id = pure none := by
    show (if isComponentId id then _ else pure none) = _
    rw [hcomponent]
    rfl
  rw [providers, Chain.transform_skip rfl, Chain.transform_step hlibrary,
    Chain.transform_skip hskip, Chain.transform_skip rfl, Chain.transform_skip rfl]
  rfl

lemma transform_vector (hmissing : registry.find? path = none)
    (hvector : Text.hasSuffix Specifier.vectorExtension path = true) (code : String) :
    Chain.transform (providers env.config registry) code (Specifier.fileId path) =
      pure ("export default \"" ++ LibraryFile.dataUri code ++ "\";") := by
  have hcomponent :
      Text.hasSuffix Specifier.componentExtension (Specifier.fileId path) = false := by
    rw [hasSuffix_fileId rfl]
    exact vector_excludes hvector
  refine transform_image (Specifier.filePath?_fileId path) ?_ ?_ code
  · rwa [isVector_missing hmissing]
  · rw [isComponentId, hcomponent, Bool.false_and]

/-- The placeholder of a data file is refused. -/
lemma transform_data (env : Environment) (hmissing : registry.find? path = none)
    (hdata : Text.hasSuffix LibraryFile.dataExtension path = true) :
    ∃ fault : Json.Fault, Chain.transform (providers env.config registry)
      (LibraryFile.placeholder path) (Specifier.fileId path) = Action.fail (.compile
        { message := "Invalid JSON in " ++ path ++ ": " ++
            fault.message (LibraryFile.placeholder path) }) := by
  obtain ⟨hcomponent, hvector⟩ := data_excludes hdata
  have hid : Text.hasSuffix LibraryFile.dataExtension (Specifier.fileId path) = true :=
    (hasSuffix_fileId rfl path).trans hdata
  obtain ⟨fault, hfault⟩ := parse_slash (placeholder_comment hcomponent hvector)
  refine ⟨fault, ?_⟩
  rw [providers, Chain.transform_skip rfl]
  refine Chain.transform_fail ?_
  show Action.ofExcept (LibraryFile.transform registry _ (Specifier.fileId path)) = _
  rw [LibraryFile.transform, Specifier.filePath?_fileId]
  simp only [isVector_missing hmissing, hvector, hid, hfault, if_true, Bool.false_eq_true, if_false]
  rfl

/-- A component is changed by the compiler alone. -/
lemma transform_component
    (hvector : LibraryFile.isVector registry (Specifier.fileId path) path = false)
    (hcomponent : Text.hasSuffix Specifier.componentExtension path = true) (source : String) :
    Chain.transform (providers env.config registry) source (Specifier.fileId path) =
      compileComponent source (Specifier.fileId path) := by
  obtain ⟨-, hdata⟩ := component_excludes hcomponent
  rw [← hasSuffix_fileId rfl] at hdata
  have hlibrary : LibraryFile.transform registry source (Specifier.fileId path) = .ok none := by
    rw [LibraryFile.transform, Specifier.filePath?_fileId]
    simp only [hvector, hdata, Bool.false_eq_true, if_false]
  have hid : isComponentId (Specifier.fileId path) = true := by
    rw [isComponentId, hasSuffix_fileId rfl, hcomponent,
      Specifier.hasPrefix_fileId_eq_false path (d := '\x00') rfl (by decide)]
    rfl
  rw [transform_library hlibrary, Chain.transform]
  have htransform : componentProvider.transform source (Specifier.fileId path) =
      (do pure (some (← compileComponent source (Specifier.fileId path)))) := by
    show (if isComponentId (Specifier.fileId path) then _ else _) = _
    rw [if_pos hid]
  rw [htransform]
  -- Nothing behind the compiler changes its outcome or its effects.
  funext env s
  rcases hrun : compileComponent source (Specifier.fileId path) env s with ⟨e | code, s'⟩
  · exact Action.run_bind_of_error (Action.run_bind_of_error hrun)
  · rw [Action.run_bind_of_ok (Action.run_bind_of_ok hrun)]
    rfl

/-- The result of compiling a component does not depend on the session. -/
lemma fst_compileComponent (source id : String) :
    (compileComponent source id env s).1 =
      match Component.compile env.styleCompiler (Component.preprocess env.styleCompiler
          env.config.styles.languages source) id with
      | .ok compiled => .ok compiled.code
      | .error d => .error (.failed (.compile d)) := by
  unfold compileComponent
  rw [Action.run_bind_of_ok (Action.run_environment)]
  cases Component.compile env.styleCompiler (Component.preprocess env.styleCompiler
      env.config.styles.languages source) id with
  | error d => rfl
  | ok compiled =>
    simp only
    cases compiled.css <;> rfl

/-! ## Recovering -/

/-- A missing file is a module exactly when what becomes of its placeholder reads as one. -/
lemma recovers_iff_missingModule (hmissing : registry.find? path = none)
    (hindex : path ≠ env.config.facade.index) :
    Recovers env registry path s ↔
      ∃ code, missingModule env path = some code ∧ ReadsAlone (Specifier.fileId path) code := by
  rw [recovers_iff_transform hmissing hindex]
  unfold missingModule
  -- The cases are those of the placeholder, with the data files among the comments apart.
  by_cases hcomponent : Text.hasSuffix Specifier.componentExtension path = true
  · have hvector : LibraryFile.isVector registry (Specifier.fileId path) path = false :=
      (isVector_missing hmissing).trans (component_excludes hcomponent).1
    rw [if_pos hcomponent, transform_component hvector hcomponent]
    rcases hrun : compileComponent (LibraryFile.placeholder path) (Specifier.fileId path) env s
      with ⟨result, s'⟩
    obtain rfl : (compileComponent (LibraryFile.placeholder path) (Specifier.fileId path) env s).1 =
        result := by rw [hrun]
    rw [fst_compileComponent]
    cases Component.compile env.styleCompiler (Component.preprocess env.styleCompiler
      env.config.styles.languages (LibraryFile.placeholder path)) (Specifier.fileId path) with
    | error d => simp
    | ok compiled => simp
  rw [if_neg hcomponent]
  rw [Bool.not_eq_true] at hcomponent
  by_cases hvector : Text.hasSuffix Specifier.vectorExtension path = true
  · have hplaceholder : LibraryFile.placeholder path = LibraryFile.emptyImage := by
      rw [LibraryFile.placeholder, hcomponent, if_neg Bool.false_ne_true, if_pos hvector]
    rw [if_pos hvector, transform_vector hmissing hvector, hplaceholder]
    simp
  rw [if_neg hvector]
  rw [Bool.not_eq_true] at hvector
  by_cases hdata : Text.hasSuffix LibraryFile.dataExtension path = true
  · obtain ⟨fault, hfail⟩ := transform_data env hmissing hdata
    rw [if_pos hdata, hfail]
    simp
  rw [if_neg hdata]
  rw [Bool.not_eq_true] at hdata
  rw [transform_plain]
  · simp
  · rw [isVector_missing hmissing, hvector]
  · rw [hasSuffix_fileId rfl, hdata]
  · rw [hasSuffix_fileId rfl, hcomponent]

/-! ## Spellings -/

/-- A script that imports nothing and has nothing unsupported is a module without dependencies. -/
lemma readsAlone_of_parse {id code : String}
    (h : (Script.Program.parse (ModuleSyntax.isTyped id) code.toList).map (fun program =>
      (ModuleSyntax.unsupported? program.items,
        (ModuleSyntax.ofProgram program).dependencies)) = some (none, [])) :
    ReadsAlone id code := by
  obtain ⟨program, hprogram, hparts⟩ := Option.map_eq_some_iff.mp h
  obtain ⟨hsupported, hdependencies⟩ := Prod.mk.inj hparts
  exact ⟨_, ModuleSyntax.parse_of_program hprogram hsupported, hdependencies⟩

lemma isTyped_fileId (h : Text.hasSuffix ".ts" path = false) :
    ModuleSyntax.isTyped (Specifier.fileId path) = false := by
  rw [ModuleSyntax.isTyped, hasSuffix_fileId rfl, h]

/-- The image in place of a vector image is a module. -/
lemma readsAlone_image (hvector : Text.hasSuffix Specifier.vectorExtension path = true) :
    ReadsAlone (Specifier.fileId path)
      ("export default \"" ++ LibraryFile.dataUri LibraryFile.emptyImage ++ "\";") := by
  have htyped := isTyped_fileId (Text.hasSuffix_exclusive hvector (c := 'g') rfl (d := 's') rfl
    (by decide))
  refine readsAlone_of_parse ?_
  rw [htyped]
  decide +kernel

/-- What is looked for is not in front when its first character is not. -/
lemma Text.occursIn_append {c : Char} {p a : List Char} (ha : c ∉ a) (b : List Char) :
    occursIn (c :: p) (a ++ b) = occursIn (c :: p) b := by
  induction a with
  | nil => rfl
  | cons d ds ih =>
    rw [List.mem_cons, not_or] at ha
    rw [List.cons_append, occursIn, ih ha.2, List.isPrefixOf, beq_eq_false_iff_ne.mpr ha.1]
    rfl

/-- A comment that its path does not end is a module. -/
lemma readsAlone_comment (hcomponent : Text.hasSuffix Specifier.componentExtension path = false)
    (hvector : Text.hasSuffix Specifier.vectorExtension path = false)
    (hopen : Text.contains "*/" path = false) :
    ReadsAlone (Specifier.fileId path) (LibraryFile.placeholder path) := by
  -- The words in front of the path have no star.
  have hbody : Text.occursIn ['*', '/'] (" File not found: ".toList ++ path.toList) = false := by
    rw [Text.occursIn_append (by decide)]
    exact hopen
  refine readsAlone_of_parse ?_
  rw [placeholder_comment hcomponent hvector, Script.Program.parse_comment hbody]
  rfl

/-- The markup in place of a component. -/
lemma placeholder_component (hcomponent : Text.hasSuffix Specifier.componentExtension path = true) :
    (LibraryFile.placeholder path).toList = '<' :: 'd' ::
      ("iv>Component not found: ".toList ++ (path.toList ++ '<' :: '/' :: "div>".toList)) := by
  unfold LibraryFile.placeholder
  rw [if_pos hcomponent, String.toList_append, String.toList_append, List.append_assoc]
  rfl

/-- The markup in place of a component has no blocks. -/
lemma untagged_placeholder (hcomponent : Text.hasSuffix Specifier.componentExtension path = true)
    (hopen : '<' ∉ path.toList) : Component.Untagged (LibraryFile.placeholder path).toList := by
  have hend : Component.Untagged ('/' :: "div>".toList) := by
    rw [← List.append_nil ('/' :: "div>".toList)]
    exact Component.untagged_append (by decide) Component.untagged_nil
  rw [placeholder_component hcomponent]
  refine Component.untagged_tag (.inl rfl) ?_
  refine Component.untagged_cons (by decide) (Component.untagged_append (by decide) ?_)
  exact Component.untagged_append hopen (Component.untagged_tag (.inr rfl) hend)

/-- The module in place of a component whose path opens nothing and closes nothing. -/
lemma readsAlone_component (hcomponent : Text.hasSuffix Specifier.componentExtension path = true)
    (digest : String) (hdigest : ∀ c ∈ digest.toList, c.isAlphanum = true) (markup : List Char) :
    ReadsAlone (Specifier.fileId path) (Component.moduleText digest
      (String.ofList (Component.escaped markup)) [] []) := by
  have htyped := isTyped_fileId (Text.hasSuffix_exclusive hcomponent (c := 'e') rfl (d := 's') rfl
    (by decide))
  have hfills :
      Component.Fills digest.toList (String.ofList (Component.escaped markup)).toList := by
    rw [String.toList_ofList]
    exact Component.fills_escaped hdigest markup
  obtain ⟨span, name, hparse⟩ := Component.parse_moduleText hfills
  refine readsAlone_of_parse ?_
  rw [htyped, hparse]
  rfl

/-- A missing component is a module unless its path closes a brace, when the path opens nothing. -/
lemma recovers_component_iff (hmissing : registry.find? path = none)
    (hindex : path ≠ env.config.facade.index)
    (hcomponent : Text.hasSuffix Specifier.componentExtension path = true)
    (htag : '<' ∉ path.toList) (hbrace : '\x7b' ∉ path.toList) :
    Recovers env registry path s ↔ '\x7d' ∉ path.toList := by
  have huntagged := untagged_placeholder hcomponent htag
  rw [recovers_iff_missingModule hmissing hindex, missingModule, if_pos hcomponent,
    Component.preprocess_eq huntagged]
  constructor
  · rintro ⟨code, hcode, -⟩ hclose
    -- Up to its first closing brace the markup is literal text.
    obtain ⟨front, back, hpath, hfront⟩ := List.eq_append_cons_of_mem hclose
    have hsource : (LibraryFile.placeholder path).toList =
        ('<' :: 'd' :: ("iv>Component not found: ".toList ++ front)) ++
          '\x7d' :: (back ++ '<' :: '/' :: "div>".toList) := by
      rw [placeholder_component hcomponent, hpath]
      simp
    have hopens : '\x7b' ∉ front := fun h => hbrace (hpath ▸ List.mem_append_left _ h)
    obtain ⟨d, herror⟩ : ∃ d, Component.compile env.styleCompiler (LibraryFile.placeholder path)
        (Specifier.fileId path) = .error d :=
      Component.compile_closing huntagged hsource ⟨by simp [hopens], by simp [hfront]⟩
    rw [herror] at hcode
    cases hcode
  · intro hclose
    have hbraces : '\x7b' ∉ (LibraryFile.placeholder path).toList ∧
        '\x7d' ∉ (LibraryFile.placeholder path).toList := by
      rw [placeholder_component hcomponent]
      exact ⟨by simp [hbrace], by simp [hclose]⟩
    rw [Component.compile_plain huntagged hbraces]
    exact ⟨_, rfl, readsAlone_component hcomponent _ (Component.isAlphanum_fingerprint _) _⟩

/-- A missing data file is an error. -/
lemma not_recovers_data (hmissing : registry.find? path = none)
    (hindex : path ≠ env.config.facade.index)
    (hdata : Text.hasSuffix LibraryFile.dataExtension path = true) :
    ¬ Recovers env registry path s := by
  obtain ⟨hcomponent, hvector⟩ := data_excludes hdata
  rw [recovers_iff_missingModule hmissing hindex, missingModule, hcomponent, hvector,
    if_neg Bool.false_ne_true, if_neg Bool.false_ne_true, if_pos hdata]
  simp

/-- A missing file of any other kind is a module when its path does not end the comment. -/
lemma recovers_comment (hmissing : registry.find? path = none)
    (hindex : path ≠ env.config.facade.index)
    (hcomponent : Text.hasSuffix Specifier.componentExtension path = false)
    (hvector : Text.hasSuffix Specifier.vectorExtension path = false)
    (hdata : Text.hasSuffix LibraryFile.dataExtension path = false)
    (hopen : Text.contains "*/" path = false) : Recovers env registry path s := by
  have hmodule : missingModule env path = some (LibraryFile.placeholder path) := by
    rw [missingModule, hcomponent, hvector, hdata]
    rfl
  exact (recovers_iff_missingModule hmissing hindex).mpr
    ⟨_, hmodule, readsAlone_comment hcomponent hvector hopen⟩

/-! ## All missing files -/

/-- In any session a missing file is a module without dependencies exactly when what becomes of its
placeholder reads as one. Vector images always do, data files never do, components do unless their
path closes a brace, and other files do unless their path ends the comment. -/
theorem recovers_iff (env : Environment) (registry : Registry) (path : String) (s : Session)
    (hmissing : registry.find? path = none) (hindex : path ≠ env.config.facade.index) :
    (Recovers env registry path s ↔
      ∃ code, missingModule env path = some code ∧ ReadsAlone (Specifier.fileId path) code) ∧
    (Text.hasSuffix Specifier.vectorExtension path = true → Recovers env registry path s) ∧
    (Text.hasSuffix LibraryFile.dataExtension path = true → ¬ Recovers env registry path s) ∧
    (Text.hasSuffix Specifier.componentExtension path = true → '<' ∉ path.toList →
      '\x7b' ∉ path.toList → (Recovers env registry path s ↔ '\x7d' ∉ path.toList)) ∧
    (Text.hasSuffix Specifier.componentExtension path = false →
      Text.hasSuffix Specifier.vectorExtension path = false →
      Text.hasSuffix LibraryFile.dataExtension path = false →
      Text.contains "*/" path = false → Recovers env registry path s) := by
  have hiff := recovers_iff_missingModule (s := s) hmissing hindex
  refine ⟨hiff, fun hvector => ?_, not_recovers_data hmissing hindex,
    recovers_component_iff hmissing hindex, recovers_comment hmissing hindex⟩
  refine hiff.mpr ⟨_, ?_, readsAlone_image hvector⟩
  rw [missingModule, vector_excludes hvector, if_neg Bool.false_ne_true, if_pos hvector]

/-- A component that is missing from an empty library. -/
theorem recovers_iff_component :
    let env : Environment := { config := {}, network := .offline, styleCompiler := .ok }
    Registry.empty.find? "icons/None.svelte" = none ∧
      "icons/None.svelte" ≠ env.config.facade.index ∧
      Recovers env .empty "icons/None.svelte" (Session.start .empty) := by
  intro env
  have hmissing : Registry.empty.find? "icons/None.svelte" = none := by decide
  have hindex : "icons/None.svelte" ≠ env.config.facade.index := by decide
  have hcases := recovers_iff env .empty "icons/None.svelte" (Session.start .empty) hmissing hindex
  exact ⟨hmissing, hindex, (hcases.2.2.2.1 (by decide) (by decide) (by decide)).mpr (by decide)⟩

/-- A data file that is missing from an empty library is an error, although it is no style sheet
and not the index. -/
theorem not_recovers_missing_data :
    let env : Environment := { config := {}, network := .offline, styleCompiler := .ok }
    Text.hasSuffix ".css" "missing.json" = false ∧ Text.hasSuffix ".scss" "missing.json" = false ∧
      "missing.json" ≠ env.config.facade.index ∧ Registry.empty.find? "missing.json" = none ∧
      ¬ Recovers env .empty "missing.json" (Session.start .empty) := by
  intro env
  have hmissing : Registry.empty.find? "missing.json" = none := by decide
  have hindex : "missing.json" ≠ env.config.facade.index := by decide
  exact ⟨by decide, by decide, hindex, hmissing, not_recovers_data hmissing hindex (by decide)⟩

end LiveBundle
