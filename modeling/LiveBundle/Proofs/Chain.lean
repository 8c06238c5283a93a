import LiveBundle.Bundle.Pass
import LiveBundle.Proofs.ModuleId

/-!
# Who answers in a chain

A provider that answers without effects either ends the search of a chain or passes it on:

* `Chain.load_skip`, `Chain.load_done` and their companions for the other two hooks;
* `load_remote`, `load_file`, `load_other`: in the chain of a pass, the kind of an id decides which
  provider gives the content;
* `resolve_stylesheet`, `resolve_library`: imports that the first two providers answer for;
* `transform_plain`, `transform_stub`: contents that no provider changes;
* `Pass.resolveImport_library`, `Pass.prepare_eq_ok`: the steps that follow an import and prepare a
  module.
-/

namespace LiveBundle

/-! ## Providers without effects -/

namespace Chain

variable {p : Provider Action} {chain : List (Provider Action)}

/-- A provider that claims nothing is passed over. -/
lemma resolve_skip {specifier : String} {importer : Option String}
    (h : p.resolve specifier importer = pure none) :
    resolve (p :: chain) specifier importer = resolve chain specifier importer := by
  rw [resolve, h]
  rfl

/-- The first provider that claims an import decides it. -/
lemma resolve_done {specifier id : String} {importer : Option String}
    (h : p.resolve specifier importer = pure (some id)) :
    resolve (p :: chain) specifier importer = pure (some id) := by
  rw [resolve, h]
  rfl

/-- A provider that has no content is passed over. -/
lemma load_skip {id : String} (h : p.load id = pure none) :
    load (p :: chain) id = load chain id := by
  rw [load, h]
  rfl

/-- The first provider that has the content gives it. -/
lemma load_done {id content : String} (h : p.load id = pure (some content)) :
    load (p :: chain) id = pure (some content) := by
  rw [load, h]
  rfl

/-- A provider that changes nothing is passed over. -/
lemma transform_skip {code id : String} (h : p.transform code id = pure none) :
    transform (p :: chain) code id = transform chain code id := by
  rw [transform, h]
  rfl

/-- What a provider changes is handed to the next one. -/
lemma transform_step {code changed id : String} (h : p.transform code id = pure (some changed)) :
    transform (p :: chain) code id = transform chain changed id := by
  rw [transform, h]
  rfl

/-- A provider that fails ends the transformation. -/
lemma transform_fail {code id : String} {e : BundleError}
    (h : p.transform code id = Action.fail e) :
    transform (p :: chain) code id = Action.fail e := by
  rw [transform, h]
  rfl

end Chain

/-! ## The chain of a pass -/

section

variable {config : Config} {registry : Registry} {id specifier : String} {importer : Option String}

/-- Only ids with a leading null are stubs of stylesheets. -/
lemma styleStubProvider_load (h : Text.hasPrefix "\x00" id = false) :
    (styleStubProvider : Provider Action).load id = pure none := by
  have hstub : Text.hasPrefix styleStubPrefix id = false := by
    rw [← Bool.not_eq_true] at h ⊢
    intro hstub
    obtain ⟨t, rfl⟩ := Text.hasPrefix_iff.mp hstub
    exact h (Text.hasPrefix_iff.mpr ⟨"empty-style:" ++ t, by rw [← String.append_assoc]; rfl⟩)
  show pure (if Text.hasPrefix styleStubPrefix id then _ else none) = _
  rw [hstub]
  rfl

/-- Only ids of files are loaded from the library. -/
lemma libraryProvider_load (h : Specifier.filePath? id = none) :
    (libraryProvider config.facade registry).load id = pure none := by
  show pure (LibraryFile.load config.facade registry id) = _
  rw [LibraryFile.load, h]
  rfl

/-- The text of a remote module comes from the provider of packages. -/
lemma load_remote (h : Specifier.isRemote id = true) :
    Chain.load (providers config registry) id =
      Chain.load [remoteProvider, catchAllProvider] id := by
  have hnull : Text.hasPrefix "\x00" id = false :=
    Specifier.hasPrefix_of_isRemote h (d := '\x00') rfl (by decide)
  rw [providers, Chain.load_skip (styleStubProvider_load hnull),
    Chain.load_skip (libraryProvider_load (Specifier.filePath?_of_isRemote h)),
    Chain.load_skip rfl]

/-- The text of a library file comes from the provider of library files. -/
lemma load_file (path : String) :
    Chain.load (providers config registry) (Specifier.fileId path) = pure (some
      (match registry.find? path with
        | some e => e.source
        | none => if path = config.facade.index then LibraryFile.index registry
          else LibraryFile.placeholder path)) := by
  have hnull : Text.hasPrefix "\x00" (Specifier.fileId path) = false :=
    Specifier.hasPrefix_fileId_eq_false path (d := '\x00') rfl (by decide)
  have hload : (libraryProvider config.facade registry).load (Specifier.fileId path) = pure (some
      (match registry.find? path with
        | some e => e.source
        | none => if path = config.facade.index then LibraryFile.index registry
          else LibraryFile.placeholder path)) := by
    show pure (LibraryFile.load config.facade registry (Specifier.fileId path)) = _
    rw [LibraryFile.load, Specifier.filePath?_fileId]
    rfl
  rw [providers, Chain.load_skip (styleStubProvider_load hnull), Chain.load_done hload]

/-- The texts of stubs. -/
def stubTexts : List String :=
  ["export default \x7b\x7d; // Empty style module", "export default \x7b\x7d; // Empty module"]

/-- What is loaded under any other id is the text of a stub. -/
lemma load_other (config : Config) (registry : Registry)
    (hremote : Specifier.isRemote id = false) (hfile : Specifier.filePath? id = none) :
    ∃ loaded : Option String, Chain.load (providers config registry) id = pure loaded ∧
      ∀ content ∈ loaded, Text.hasPrefix "\x00" id = true ∧ content ∈ stubTexts := by
  have hload : remoteProvider.load id = pure none := by
    show Remote.load id = _
    rw [Remote.load, hremote]
    rfl
  have hnull : ∀ rest : String, Text.hasPrefix ("\x00" ++ rest) id = true →
      Text.hasPrefix "\x00" id = true := by
    intro rest h
    obtain ⟨t, rfl⟩ := Text.hasPrefix_iff.mp h
    exact Text.hasPrefix_iff.mpr ⟨rest ++ t, String.append_assoc⟩
  -- Only the two providers of stubs are left; the one for styles comes first.
  by_cases hstyle : Text.hasPrefix styleStubPrefix id = true
  · refine ⟨some "export default \x7b\x7d; // Empty style module", Chain.load_done ?_, ?_⟩
    · show pure (if Text.hasPrefix styleStubPrefix id then _ else none) = _
      rw [if_pos hstyle]
    · rintro content ⟨⟩
      exact ⟨hnull "empty-style:" hstyle, List.mem_cons_self⟩
  · have hstub : (styleStubProvider : Provider Action).load id = pure none := by
      show pure (if Text.hasPrefix styleStubPrefix id then _ else none) = _
      rw [if_neg hstyle]
    rw [providers, Chain.load_skip hstub, Chain.load_skip (libraryProvider_load hfile),
      Chain.load_skip rfl, Chain.load_skip hload]
    by_cases hcatch : Text.hasPrefix stubPrefix id = true
    · refine ⟨some "export default \x7b\x7d; // Empty module", Chain.load_done ?_, ?_⟩
      · show pure (if Text.hasPrefix stubPrefix id then _ else none) = _
        rw [if_pos hcatch]
      · rintro content ⟨⟩
        exact ⟨hnull "empty:" hcatch, List.mem_cons_of_mem _ List.mem_cons_self⟩
    · refine ⟨none, Chain.load_skip ?_, fun content h => by cases h⟩
      show pure (if Text.hasPrefix stubPrefix id then _ else none) = _
      rw [if_neg hcatch]

/-- A stylesheet is resolved to its stub, before all else. -/
lemma resolve_stylesheet (h : Specifier.isStylesheet specifier = true) :
    Chain.resolve (providers config registry) specifier importer =
      pure (some (styleStubPrefix ++ specifier)) := by
  refine Chain.resolve_done ?_
  show pure (if Specifier.isStylesheet specifier then _ else none) = _
  rw [if_pos h]

/-- What is no stylesheet has no stub. -/
lemma styleStubProvider_resolve (h : Specifier.isStylesheet specifier = false) :
    (styleStubProvider : Provider Action).resolve specifier importer = pure none := by
  show pure (if Specifier.isStylesheet specifier then _ else none) = _
  rw [h]
  rfl

/-- What the library knows is resolved there, unless it is a stylesheet. -/
lemma resolve_library (hstyle : Specifier.isStylesheet specifier = false)
    (h : LibraryFile.resolve config.facade specifier importer = some id) :
    Chain.resolve (providers config registry) specifier importer = pure (some id) := by
  rw [providers, Chain.resolve_skip (styleStubProvider_resolve hstyle)]
  exact Chain.resolve_done (congrArg pure h)

/-- A library file that is no vector image, data file or component is not changed. -/
lemma transform_plain {code path : String}
    (hvector : LibraryFile.isVector registry (Specifier.fileId path) path = false)
    (hdata : Text.hasSuffix LibraryFile.dataExtension (Specifier.fileId path) = false)
    (hcomponent : Text.hasSuffix Specifier.componentExtension (Specifier.fileId path) = false) :
    Chain.transform (providers config registry) code (Specifier.fileId path) = pure code := by
  have hlibrary : (libraryProvider config.facade registry).transform code (Specifier.fileId path) =
      pure none := by
    show Action.ofExcept (LibraryFile.transform registry code (Specifier.fileId path)) = _
    rw [LibraryFile.transform, Specifier.filePath?_fileId]
    simp only [hvector, hdata, Bool.false_eq_true, if_false]
    rfl
  have hskip : componentProvider.transform code (Specifier.fileId path) = pure none := by
    show (if isComponentId (Specifier.fileId path) then _ else pure none) = _
    rw [isComponentId, hcomponent, Bool.false_and]
    rfl
  rw [providers, Chain.transform_skip rfl, Chain.transform_skip hlibrary,
    Chain.transform_skip hskip, Chain.transform_skip rfl, Chain.transform_skip rfl]
  rfl

/-- The text of a stub is not changed. -/
lemma transform_stub {code : String} (hfile : Specifier.filePath? id = none)
    (hnull : Text.hasPrefix "\x00" id = true) :
    Chain.transform (providers config registry) code id = pure code := by
  have hlibrary : (libraryProvider config.facade registry).transform code id = pure none := by
    show Action.ofExcept (LibraryFile.transform registry code id) = _
    rw [LibraryFile.transform, hfile]
    rfl
  have hcomponent : componentProvider.transform code id = pure none := by
    show (if isComponentId id then _ else pure none) = _
    rw [isComponentId, hnull, Bool.not_true, Bool.and_false]
    rfl
  rw [providers, Chain.transform_skip rfl, Chain.transform_skip hlibrary,
    Chain.transform_skip hcomponent, Chain.transform_skip rfl, Chain.transform_skip rfl]
  rfl

end

/-! ## Steps of a pass -/

/-- An import of a library file leads to what the provider of library files makes of it. -/
lemma Pass.resolveImport_library {config : Config} {registry : Registry} {env : Environment}
    {s : Session} {id specifier target : String}
    (hstyle : Specifier.isStylesheet specifier = false)
    (h : LibraryFile.resolve config.facade specifier (some id) = some target) :
    resolveImport (providers config registry) id specifier env s = (.ok target, s) := by
  rw [resolveImport, resolve_library hstyle h]
  rfl

/-- A module is prepared when its text is loaded, changed and read. -/
lemma Pass.prepare_eq_ok {chain : List (Provider Action)} {env : Environment} {id code : String}
    {syntax_ : ModuleSyntax} {s s' : Session} :
    prepare chain id env s = (.ok (code, syntax_), s') ↔
      ∃ source s₁, Chain.load chain id env s = (.ok (some source), s₁) ∧
        Chain.transform chain source id env s₁ = (.ok code, s') ∧
        ModuleSyntax.parse id code = .ok syntax_ := by
  constructor
  · intro h
    rw [prepare, Action.run_bind_eq_ok] at h
    obtain ⟨loaded, s₁, hload, h⟩ := h
    -- Content that no provider has is an error.
    cases loaded with
    | none => cases h
    | some source =>
      rw [Action.run_bind_eq_ok] at h
      obtain ⟨changed, s₂, htransform, h⟩ := h
      cases hparse : ModuleSyntax.parse id changed with
      | error d =>
        simp only [hparse] at h
        cases h
      | ok read =>
        simp only [hparse, Action.run_pure, Prod.mk.injEq, Except.ok.injEq] at h
        obtain ⟨⟨rfl, rfl⟩, rfl⟩ := h
        exact ⟨source, s₁, hload, htransform, hparse⟩
  · rintro ⟨source, s₁, hload, htransform, hparse⟩
    rw [prepare, Action.run_bind_of_ok hload]
    simp only
    rw [Action.run_bind_of_ok htransform, hparse]
    rfl

end LiveBundle
