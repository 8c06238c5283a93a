import LiveBundle.Proofs.FileImports
import LiveBundle.Proofs.Pass.Stylesheet
import LiveBundle.Proofs.Session.Course

/-!
# The entry of a pass

A pass lays the pasted source over the registry: a script under the path of the entry, a component
under its own path, with an entry that mounts it.

* `passFiles_get?`: what a pass finds under a path;
* `load_entry` and `transform_entry`: the text of the entry comes from the source alone, and no
  provider changes it;
* `find?_of_component`: no component is read from a script that was pasted;
* `exists_entryModule`: a pass that succeeds has a module of this text for its entry;
* `entry_faithful`: what becomes of a script and of a component, and that the registry stays.
-/

namespace LiveBundle

variable {env : Environment} {source : String} {s s' : Session} {path : String}

/-! ## The files of a pass -/

/-- The text of the entry module. -/
def entryText (source : String) : String :=
  if Component.isComponent source then Component.mountEntry ("./" ++ componentPath) else source

/-- A pass finds the entry and a pasted component under their paths, and under all others what the
registry has. -/
lemma passFiles_get? (env : Environment) (source : String) (s : Session) (path : String) :
    (passFiles env source s).get? path =
      if path = entryPath then some (.ofPath entryPath (entryText source))
      else if Component.isComponent source = true ∧ path = componentPath then
        some (.ofPath componentPath
          (Component.preprocess env.styleCompiler env.config.styles.languages source))
      else s.registry.get? path := by
  have hentry (text : String) : (FileEntry.ofPath entryPath text).path = entryPath := by
    show Text.trimDotSlash entryPath = entryPath
    decide
  have hcomponent (text : String) : (FileEntry.ofPath componentPath text).path = componentPath := by
    show Text.trimDotSlash componentPath = componentPath
    decide
  rw [passFiles, overlayEntries, entryText]
  cases Component.isComponent source with
  | false =>
    simp only [Registry.overlay, Bool.false_eq_true, if_false, List.foldl_cons, List.foldl_nil,
      Registry.get?_insert, hentry, false_and, eq_comm (a := path)]
  | true =>
    simp only [Registry.overlay, if_true, List.foldl_cons, List.foldl_nil, Registry.get?_insert,
      hentry, hcomponent, true_and, eq_comm (a := path)]

/-- What a pass finds under the path of the entry. -/
lemma find?_entry : (passFiles env source s).find? entryPath =
    some (.ofPath entryPath (entryText source)) :=
  Registry.find?_of_get? (by rw [passFiles_get?, if_pos rfl])

/-- What a pass finds under the path of a pasted component. -/
lemma find?_component (hsource : Component.isComponent source = true) :
    (passFiles env source s).find? componentPath = some (.ofPath componentPath
      (Component.preprocess env.styleCompiler env.config.styles.languages source)) :=
  Registry.find?_of_get? (by rw [passFiles_get?, if_neg (by decide), if_pos ⟨hsource, rfl⟩])

/-- A pasted script is not found under the id of any component, nor does it hide one. -/
lemma find?_of_component (hsource : Component.isComponent source = false)
    (hid : isComponentId (Specifier.fileId path) = true) :
    (passFiles env source s).find? path = s.registry.find? path := by
  have hget {part : String}
      (hpart : Text.hasSuffix Specifier.componentExtension part = true) :
      (passFiles env source s).get? part = s.registry.get? part := by
    have hentry : part ≠ entryPath := by
      rintro rfl
      exact absurd hpart (by decide)
    rw [passFiles_get?, if_neg hentry, hsource]
    exact if_neg fun h => absurd h.1 (by decide)
  -- The extension is that of each part that is tried.
  have hpath : Text.hasSuffix Specifier.componentExtension path = true := by
    rw [isComponentId, Bool.and_eq_true] at hid
    rw [← hid.1]
    exact (Text.hasSuffix_segment (by decide) "virtual:file" path).symm
  refine Registry.find?_congr (hget hpath) ?_
  rintro front part rfl
  rw [Text.hasSuffix_segment (by decide)] at hpath
  exact hget hpath

/-! ## The entry module -/

lemma load_entry : Chain.load (providers env.config (passFiles env source s)) entryId =
    pure (some (entryText source)) := by
  rw [entryId, load_file, find?_entry]
  rfl

/-- The entry is neither a component nor data nor an image, whatever the registry says. -/
lemma transform_entry (code : String) :
    Chain.transform (providers env.config (passFiles env source s)) code entryId = pure code := by
  refine transform_plain ?_ (by decide) (by decide)
  rw [LibraryFile.isVector, passFiles_get?, if_pos rfl, Option.any_some, Bool.or_eq_false_iff]
  exact ⟨by decide, rfl⟩

/-- The entry is prepared when its text can be read. -/
lemma prepare_entry {syntax_ : ModuleSyntax}
    (h : ModuleSyntax.parse entryId (entryText source) = .ok syntax_) (s₁ : Session) :
    Pass.prepare (providers env.config (passFiles env source s)) entryId env s₁ =
      (.ok (entryText source, syntax_), s₁) := by
  refine Pass.prepare_eq_ok.mpr ⟨entryText source, s₁, ?_, ?_, h⟩
  · rw [load_entry]
    rfl
  · rw [transform_entry]
    rfl

/-- A pasted component is loaded with its style blocks preprocessed. -/
lemma load_component (env : Environment) (s : Session) (hsource : Component.isComponent source = true) :
    Chain.load (providers env.config (passFiles env source s)) (Specifier.fileId componentPath) =
      pure (some
        (Component.preprocess env.styleCompiler env.config.styles.languages source)) := by
  rw [load_file, find?_component hsource]
  rfl

/-- The module that a pass takes for the entry, read from the text of the entry. -/
structure Module.EntryOf (env : Environment) (source : String) (s : Session) (m : Module) :
    Prop where
  id_eq : m.id = entryId
  code_eq : m.code = entryText source
  read : ModuleSyntax.parse entryId (entryText source) = .ok m.syntax_
  /-- Its imports are resolved as the chain resolves them. -/
  keys : ∀ specifier, specifier ∈ m.resolved.keys ↔ specifier ∈ m.syntax_.dependencies
  resolves : ∀ specifier target, m.resolved.get? specifier = some target → ∃ s₁ s₂,
    Pass.resolveImport (providers env.config (passFiles env source s)) entryId specifier env s₁ =
      (.ok target, s₂)

/-- A pass that succeeds has the module that belongs to the source for its entry. -/
lemma exists_entryModule {g : ModuleGraph} (h : buildGraph source env s = (.ok g, s')) :
    ∃ m, g.entry? = some m ∧ m.EntryOf env source s := by
  have hvisit : Pass.visit (providers env.config (passFiles env source s)) env.importDepth true
      entryId ModuleGraph.empty env s.resetStyles = (.ok g, s') := h
  obtain ⟨⟨new, hgrown, hfirst⟩, -⟩ :=
    Pass.visit_grows (I := .trivial _ env) env.importDepth true True.intro hvisit
  obtain ⟨m, rest, rfl, hid⟩ := hfirst List.not_mem_nil
  have hmodules : g.modules = m :: rest := hgrown.modules
  have hsettled := hgrown.settled m List.mem_cons_self
  obtain ⟨s₁, s₂, -, hprepared⟩ := hsettled.prepared
  obtain ⟨loaded, s₃, hload, htransform, hread⟩ := Pass.prepare_eq_ok.mp hprepared
  rw [hid, load_entry] at hload
  obtain ⟨rfl, rfl⟩ : entryText source = loaded ∧ s₁ = s₃ := by simpa using hload
  rw [hid, transform_entry] at htransform
  obtain ⟨hcode, -⟩ : entryText source = m.code ∧ s₁ = s₂ := by simpa using htransform
  refine ⟨m, ?_, hid, hcode.symm, ?_, hsettled.noted.keys, fun specifier target htarget => ?_⟩
  · rw [ModuleGraph.entry?, hmodules]
    refine List.find?_cons_of_pos ?_
    rw [hgrown.isEntry m List.mem_cons_self, hid]
    rfl
  · rw [hcode, ← hid]
    exact hread
  · obtain ⟨s₄, s₅, -, -, hresolve⟩ := hsettled.noted.resolves htarget
    exact ⟨s₄, s₅, hid ▸ hresolve⟩

/-! ## Scripts and components -/

/-- The module is a pasted script as it was pasted. -/
structure Module.IsScript (m : Module) (source : String) : Prop where
  id_eq : m.id = entryId
  code_eq : m.code = source
  read : ModuleSyntax.parse entryId source = .ok m.syntax_

/-- The module mounts a pasted component and imports nothing else. -/
structure Module.Mounts (m : Module) : Prop where
  id_eq : m.id = entryId
  code_eq : m.code = Component.mountEntry ("./" ++ componentPath)
  read : ModuleSyntax.parse entryId m.code = .ok m.syntax_
  dependencies : m.syntax_.dependencies = ["./" ++ componentPath]
  target : m.resolved.get? ("./" ++ componentPath) = some (Specifier.fileId componentPath)

lemma Module.EntryOf.isScript {m : Module} (h : m.EntryOf env source s)
    (hsource : Component.isComponent source = false) : m.IsScript source := by
  have htext : entryText source = source := by rw [entryText, hsource, if_neg (by decide)]
  have hread := h.read
  rw [htext] at hread
  exact ⟨h.id_eq, h.code_eq.trans htext, hread⟩

/-- The module that mounts a component imports the component. -/
lemma exists_mountEntry : ∃ mount,
    ModuleSyntax.parse entryId (Component.mountEntry ("./" ++ componentPath)) = .ok mount ∧
      mount.dependencies = ["./" ++ componentPath] :=
  ModuleSyntax.exists_parse_of_dependencies (by decide +kernel)

/-- The import of the component leads to it, unless it is that of the facade. -/
lemma resolveImport_mounted (files : Registry)
    (hfacade : "./" ++ componentPath ≠ env.config.facade.specifier) :
    Pass.resolveImport (providers env.config files) entryId ("./" ++ componentPath) env s =
      (.ok (Specifier.fileId componentPath), s) := by
  refine Pass.resolveImport_library (by decide) ?_
  rw [entryId, LibraryFile.resolve_relative (by decide) hfacade (by decide)]
  decide

lemma Module.EntryOf.mounts {m : Module} (h : m.EntryOf env source s)
    (hsource : Component.isComponent source = true)
    (hfacade : "./" ++ componentPath ≠ env.config.facade.specifier) : m.Mounts := by
  have htext : entryText source = Component.mountEntry ("./" ++ componentPath) := by
    rw [entryText, if_pos hsource]
  have hread := h.read
  have hcode := h.code_eq
  rw [htext] at hread hcode
  have hdependencies : m.syntax_.dependencies = ["./" ++ componentPath] := by
    obtain ⟨mount, hmount, hdependencies⟩ := exists_mountEntry
    rw [hmount] at hread
    exact Except.ok.inj hread ▸ hdependencies
  refine ⟨h.id_eq, hcode, hcode ▸ hread, hdependencies, ?_⟩
  -- The import is noted, and the chain leads it to the component.
  have hkey : "./" ++ componentPath ∈ m.resolved.keys :=
    (h.keys _).mpr (hdependencies ▸ List.mem_cons_self)
  obtain ⟨target, htarget⟩ := Option.isSome_iff_exists.mp ((Dict.mem_keys _ _).mp hkey)
  obtain ⟨s₁, s₂, hresolve⟩ := h.resolves _ _ htarget
  rw [resolveImport_mounted _ hfacade] at hresolve
  cases hresolve
  exact htarget

/-- A pass leaves the registry. -/
lemma registry_bundle : (bundle source env s).2.registry = s.registry := by
  have hpasses : Session.Passes env s (bundle source env s).2 := bundle_passes source s
  exact hpasses.registry.1

lemma registry_compile : (compile env source s).2.registry = s.registry := by
  rw [compile]
  have hbundle : (bundle source env s).2.registry = s.registry := registry_bundle
  rcases hrun : bundle source env s with ⟨halt | text, s'⟩ <;>
  · rw [hrun] at hbundle
    exact hbundle

/-- A pasted script is the entry module of its pass as it was pasted: no provider changes it, and
no component is read from it. A pasted component is preprocessed and loaded under its own path, and
the entry module mounts it, unless the import of the component is that of the facade. Either way the
pass leaves the registry, so that no later pass finds any of the source. -/
theorem entry_faithful (env : Environment) (source : String) (s : Session) :
    (Component.isComponent source = false →
      (∀ text s', bundle source env s = (.ok text, s') → ∃ g m,
        buildGraph source env s = (.ok g, s') ∧ text = link g env.config.output.name ∧
        g.entry? = some m ∧ m.IsScript source) ∧
      Chain.load (providers env.config (passFiles env source s)) entryId = pure (some source) ∧
      Chain.transform (providers env.config (passFiles env source s)) source entryId =
        pure source ∧
      ∀ path, isComponentId (Specifier.fileId path) = true →
        (passFiles env source s).find? path = s.registry.find? path) ∧
    (Component.isComponent source = true →
      "./" ++ componentPath ≠ env.config.facade.specifier →
      (∀ text s', bundle source env s = (.ok text, s') → ∃ g m,
        buildGraph source env s = (.ok g, s') ∧ text = link g env.config.output.name ∧
        g.entry? = some m ∧ m.Mounts) ∧
      Chain.load (providers env.config (passFiles env source s))
          (Specifier.fileId componentPath) = pure (some
        (Component.preprocess env.styleCompiler env.config.styles.languages source))) ∧
    (bundle source env s).2.registry = s.registry ∧
    (compile env source s).2.registry = s.registry ∧
    ∀ env' later, passFiles env' later (compile env source s).2 = passFiles env' later s := by
  have hentry {text : String} {s' : Session} (h : bundle source env s = (.ok text, s')) :
      ∃ g m, buildGraph source env s = (.ok g, s') ∧ text = link g env.config.output.name ∧
        g.entry? = some m ∧ m.EntryOf env source s := by
    obtain ⟨g, hgraph, htext⟩ := exists_graph h
    obtain ⟨m, hm, hof⟩ := exists_entryModule hgraph
    exact ⟨g, m, hgraph, htext, hm, hof⟩
  refine ⟨fun hsource => ⟨?_, ?_, transform_entry source, fun path => find?_of_component hsource⟩,
    fun hsource hfacade => ⟨?_, load_component env s hsource⟩, registry_bundle, registry_compile,
    fun env' later => ?_⟩
  · intro text s' h
    obtain ⟨g, m, hgraph, htext, hm, hof⟩ := hentry h
    exact ⟨g, m, hgraph, htext, hm, hof.isScript hsource⟩
  · rw [load_entry, entryText, hsource, if_neg (by decide)]
  · intro text s' h
    obtain ⟨g, m, hgraph, htext, hm, hof⟩ := hentry h
    exact ⟨g, m, hgraph, htext, hm, hof.mounts hsource hfacade⟩
  · rw [passFiles, passFiles, registry_compile]

/-- A pasted component whose module imports nothing has a bundle. -/
lemma exists_bundle_of_readsAlone {code : String} (hsource : Component.isComponent source = true)
    (hfacade : "./" ++ componentPath ≠ env.config.facade.specifier)
    (hdepth : 2 < env.importDepth)
    (htransform : Chain.transform (providers env.config (passFiles env source s))
      (Component.preprocess env.styleCompiler env.config.styles.languages source)
      (Specifier.fileId componentPath) env s.resetStyles = (.ok code, s'))
    (halone : ReadsAlone (Specifier.fileId componentPath) code) :
    ∃ text, bundle source env s = (.ok text, s') := by
  obtain ⟨mount, hmount, hdependencies⟩ := exists_mountEntry
  obtain ⟨component, hcomponent, hnone⟩ := halone
  have hread : ModuleSyntax.parse entryId (entryText source) = .ok mount := by
    rw [entryText, if_pos hsource]
    exact hmount
  have hload := congrFun (congrFun (load_component env s hsource) env) s.resetStyles
  have hnew : Specifier.fileId componentPath ∉
      (ModuleGraph.empty.add ⟨entryId, entryText source, mount, true, Dict.empty⟩).ids := by
    rw [ModuleGraph.ids_add List.not_mem_nil]
    exact (by decide : Specifier.fileId componentPath ∉ [entryId])
  obtain ⟨depth, hroom⟩ : ∃ depth, env.importDepth = depth + 1 := ⟨env.importDepth - 1, by omega⟩
  have hfollows := Pass.Follows.alone (resolveImport_mounted _ hfacade) hnew hload htransform
    hcomponent hnone (.done _ _ s')
  have hcalls : 2 ≤ depth := by omega
  have hfollow := hfollows.run hcalls
  rw [← hdependencies] at hfollow
  have hvisit := Pass.visit_of_prepared List.not_mem_nil
    (prepare_entry hread _) hfollow
  rw [← hroom] at hvisit
  exact ⟨_, bundle_of_graph hvisit⟩

namespace Pasted

/-- A library that has files under the paths of the entry and of a pasted component. -/
def library : Registry := .ofEntries [.ofPath entryPath "import './gone.js';",
  .ofPath componentPath "<p>old</p>"]

def environment : Environment := { config := {}, network := .offline, styleCompiler := .ok }

def session : Session := .start library

/-- A pasted component without tags. -/
def component : String := "<style></style>hi"

/-- What the component compiler returns for it. -/
def compiled : Component.Compiled :=
  ⟨Component.moduleText "7e2797f6" (String.ofList (Component.escaped ['h', 'i'])) [] [], none⟩

/-- A pasted script. -/
def script : String := "console.log(1);"

/-- The component is compiled as it was pasted. -/
lemma transformed :
    Chain.transform (providers environment.config (passFiles environment component session))
      (Component.preprocess environment.styleCompiler environment.config.styles.languages component)
      (Specifier.fileId componentPath) environment session.resetStyles =
      (.ok compiled.code, { session.resetStyles with styles := session.resetStyles.styles ++ "" }) :=
  transform_of_compiled (by decide) (by decide +kernel) (by decide +kernel)

/-- The pass of the component succeeds. -/
lemma exists_bundle : ∃ text s', bundle component environment session = (.ok text, s') := by
  have halone : ReadsAlone (Specifier.fileId componentPath) compiled.code :=
    readsAlone_component (by decide) "7e2797f6" (List.all_eq_true.mp (by decide)) ['h', 'i']
  obtain ⟨text, htext⟩ :=
    exists_bundle_of_readsAlone (by decide) (by decide) (by decide) transformed halone
  exact ⟨text, _, htext⟩

end Pasted

/-- Both are bundled though the library has files of their names, and these are there afterwards. -/
theorem entry_faithful_shadowing :
    (∃ text s' g m, bundle Pasted.script Pasted.environment Pasted.session = (.ok text, s') ∧
      text = link g Pasted.environment.config.output.name ∧ g.entry? = some m ∧
      m.IsScript Pasted.script ∧ s'.registry = Pasted.library) ∧
    ∃ text s' g m, bundle Pasted.component Pasted.environment Pasted.session = (.ok text, s') ∧
      text = link g Pasted.environment.config.output.name ∧ g.entry? = some m ∧ m.Mounts ∧
      s'.registry = Pasted.library := by
  constructor
  · have hok : (bundle Pasted.script Pasted.environment Pasted.session).1.isOk = true := by
      decide +kernel
    obtain ⟨hscript, -, hregistry, -⟩ :=
      entry_faithful Pasted.environment Pasted.script Pasted.session
    rcases h : bundle Pasted.script Pasted.environment Pasted.session with ⟨_ | text, s'⟩
    · rw [h] at hok
      cases hok
    · obtain ⟨g, m, -, htext, hm, his⟩ := (hscript (by decide)).1 text s' h
      rw [h] at hregistry
      exact ⟨text, s', g, m, rfl, htext, hm, his, hregistry⟩
  · obtain ⟨text, s', h⟩ := Pasted.exists_bundle
    obtain ⟨-, hcomponent, hregistry, -⟩ :=
      entry_faithful Pasted.environment Pasted.component Pasted.session
    obtain ⟨g, m, -, htext, hm, hmounts⟩ := (hcomponent (by decide) (by decide)).1 text s' h
    rw [h] at hregistry
    exact ⟨text, s', g, m, h, htext, hm, hmounts, hregistry⟩

end LiveBundle
