import LiveBundle.Proofs.Pass.Depth
import LiveBundle.Proofs.Pass.Discovery
import LiveBundle.Proofs.Placeholder
import LiveBundle.Proofs.Session.Course
import LiveBundle.Proofs.Text.Basic

/-!
# Discovery order and styles of a pass

Styles are collected while modules are changed, deep inside the visits of a pass. Since each module
is changed once, in the order of its discovery, the styles of a pass are those of its components in
this order.

* `moduleStyles` are the styles that the component compiler returns for a module;
* `transform_styles`: changing a module adds its styles, and `Pass.Follows.styles` sums this up;
* `bundle_discovers`: the modules, the calls and the styles of a bundling pass.
-/

namespace LiveBundle

/-! ## Styles of a module -/

/-- The text that the provider of library files makes of a text. -/
def LibraryFile.changed (files : Registry) (id source : String) : String :=
  match LibraryFile.transform files source id with
  | .ok (some changed) => changed
  | _ => source

/-- What the component compiler returns for a module that was loaded as a text. -/
def compiledModule (env : Environment) (files : Registry) (id source : String) :
    Except Diagnostic Component.Compiled :=
  let prepared := Component.preprocess env.styleCompiler env.config.styles.languages
    (LibraryFile.changed files id source)
  Component.compile env.styleCompiler prepared id

/-- The styles of a module that was loaded as a text, if it is a component with styles. -/
def moduleStyles (env : Environment) (files : Registry) (id source : String) : Option String :=
  if isComponentId id then
    match compiledModule env files id source with
    | .ok compiled => compiled.css
    | .error _ => none
  else none

/-- A component became what the component compiler returned for it. -/
def IsCompiled (env : Environment) (files : Registry) (id source code : String) : Prop :=
  isComponentId id = true →
    ∃ compiled, compiledModule env files id source = .ok compiled ∧ compiled.code = code

variable {env : Environment} {files : Registry} {id source code : String} {s s' : Session}

lemma run_compileComponent {compiled : Component.Compiled} {text : String}
    (htext : LibraryFile.changed files id source = text)
    (h : compiledModule env files id source = .ok compiled) :
    compileComponent text id env s =
      (.ok compiled.code, { s with styles := s.styles ++ compiled.css.getD "" }) := by
  subst htext
  rw [compileComponent, Action.run_bind_of_ok Action.run_environment]
  simp only
  rw [compiledModule] at h
  rw [h]
  simp only
  cases compiled.css with
  | some css => rfl
  | none =>
    rw [Option.getD_none, String.append_empty]
    rfl

lemma compileComponent_eq_ok {text : String} (htext : LibraryFile.changed files id source = text)
    (h : compileComponent text id env s = (.ok code, s')) :
    ∃ compiled, compiledModule env files id source = .ok compiled ∧ compiled.code = code ∧
      s'.styles = s.styles ++ compiled.css.getD "" := by
  cases hcompiled : compiledModule env files id source with
  | error d =>
    subst htext
    rw [compileComponent, Action.run_bind_of_ok Action.run_environment] at h
    simp only at h
    rw [compiledModule] at hcompiled
    rw [hcompiled] at h
    cases h
  | ok compiled =>
    rw [run_compileComponent htext hcompiled] at h
    cases h
    exact ⟨compiled, rfl, rfl, rfl⟩

/-- What stands behind the provider of library files changes components only. -/
lemma transform_changed {text : String} (htext : LibraryFile.changed files id source = text)
    (h : Chain.transform [componentProvider, remoteProvider, catchAllProvider] text id env s =
      (.ok code, s')) :
    s'.styles = s.styles ++ (moduleStyles env files id source).getD "" ∧
      IsCompiled env files id source code := by
  have hrest : ∀ text, Chain.transform [remoteProvider, catchAllProvider] text id = pure text := by
    intro text
    rw [Chain.transform_skip rfl, Chain.transform_skip rfl]
    rfl
  rw [moduleStyles, IsCompiled]
  cases hid : isComponentId id with
  | false =>
    have hhook : componentProvider.transform text id = pure none := by
      show (if isComponentId id then _ else pure none : Action (Option String)) = _
      rw [hid]
      rfl
    rw [Chain.transform_skip hhook, hrest] at h
    cases h
    exact ⟨(String.append_empty).symm, nofun⟩
  | true =>
    have hhook : componentProvider.transform text id =
        (do pure (some (← compileComponent text id))) := by
      show (if isComponentId id then _ else pure none : Action (Option String)) = _
      rw [hid]
      rfl
    rw [Chain.transform, Action.run_bind_eq_ok] at h
    obtain ⟨changed, s₁, hchanged, h⟩ := h
    rw [hhook, Action.run_bind_eq_ok] at hchanged
    obtain ⟨changed, s₂, hcompile, hchanged⟩ := hchanged
    cases hchanged
    simp only [hrest] at h
    cases h
    obtain ⟨compiled, hcompiled, hcode, hstyles⟩ := compileComponent_eq_ok htext hcompile
    rw [hcompiled]
    exact ⟨hstyles, fun _ => ⟨compiled, rfl, hcode⟩⟩

/-- Changing a module adds its styles to those of the pass. -/
lemma transform_styles
    (h : Chain.transform (providers env.config files) source id env s = (.ok code, s')) :
    s'.styles = s.styles ++ (moduleStyles env files id source).getD "" ∧
      IsCompiled env files id source code := by
  rw [providers, Chain.transform_skip rfl] at h
  cases hchanged : LibraryFile.transform files source id with
  | error e =>
    have hhook : (libraryProvider env.config.facade files).transform source id = Action.fail e := by
      show Action.ofExcept (LibraryFile.transform files source id) = _
      rw [hchanged]
      rfl
    rw [Chain.transform_fail hhook] at h
    cases h
  | ok changed =>
    have hhook : (libraryProvider env.config.facade files).transform source id = pure changed := by
      show Action.ofExcept (LibraryFile.transform files source id) = _
      rw [hchanged]
      rfl
    cases changed with
    | some changed =>
      rw [Chain.transform_step hhook] at h
      exact transform_changed (by rw [LibraryFile.changed, hchanged]) h
    | none =>
      rw [Chain.transform_skip hhook] at h
      exact transform_changed (by rw [LibraryFile.changed, hchanged]) h

/-! ## Styles of a pass -/

/-- The session has the styles that it had. -/
def Session.KeepsStyles (s s' : Session) : Prop := s'.styles = s.styles

instance : IsPreorder Session Session.KeepsStyles where
  refl _ := rfl
  trans _ _ _ h h' := h'.trans h

open Session (Event KeepsStyles)

/-- A request for a text leaves the styles. -/
lemma Session.Event.keepsStyles_loaded (s : Session) (url : String)
    (answer : Except Web.RequestFault Web.Response) :
    s.KeepsStyles ((Event.loaded url answer).apply s) := by
  cases answer with
  | error fault => rfl
  | ok r =>
    rw [Event.apply, Event.receive]
    split <;> split <;> rfl

/-- A request for a package description leaves the styles. -/
lemma Session.Event.keepsStyles_described (s : Session) (package : Package) (url : String)
    (answer : Except Web.RequestFault Web.Response) :
    s.KeepsStyles ((Event.described package url answer).apply s) := by
  cases answer with
  | error fault => rfl
  | ok r =>
    rw [Event.apply, Event.learn]
    split
    · split <;> rfl
    · rfl

lemma load_keepsStyles (id : String) :
    (Chain.load (providers env.config files) id).Moves KeepsStyles env :=
  moves_load fun s answer _ => Event.keepsStyles_loaded s id answer

lemma resolveImport_keepsStyles (id specifier : String) :
    (Pass.resolveImport (providers env.config files) id specifier).Moves KeepsStyles env :=
  Pass.resolveImport_sequential Action.moves_sequential (Action.moves_halt _)
    (moves_resolve (fun s package url answer _ => Event.keepsStyles_described s package url answer)
      specifier (some id))

namespace Pass

/-- The styles that a call adds to those of the pass. -/
def Call.styles? (env : Environment) (files : Registry) : Call → Option String
  | .load .. => none
  | .transform id source _ => moduleStyles env files id source

/-- The styles that some calls add to those of the pass. -/
def stylesOf (env : Environment) (files : Registry) (calls : List Call) : String :=
  Text.concat (calls.filterMap (Call.styles? env files))

lemma stylesOf_append (calls calls' : List Call) :
    stylesOf env files (calls ++ calls') =
      stylesOf env files calls ++ stylesOf env files calls' := by
  rw [stylesOf, List.filterMap_append, Text.concat_append]
  rfl

/-- Preparing a module adds its styles. -/
lemma stylesOf_cons (calls : List Call) :
    stylesOf env files (.load id source :: .transform id source code :: calls) =
      (moduleStyles env files id source).getD "" ++ stylesOf env files calls := by
  rw [stylesOf, List.filterMap_cons_none rfl, List.filterMap_cons, Call.styles?]
  cases moduleStyles env files id source with
  | none => exact (String.empty_append).symm
  | some css => exact Text.concat_cons _ _

/-- Loading and changing a module adds its styles. -/
lemma styles_of_prepared {s₁ : Session}
    (loaded : Chain.load (providers env.config files) id env s = (.ok (some source), s₁))
    (transformed : Chain.transform (providers env.config files) source id env s₁ = (.ok code, s')) :
    s'.styles = s.styles ++ (moduleStyles env files id source).getD "" ∧
      IsCompiled env files id source code := by
  have hload : s.KeepsStyles s₁ := (load_keepsStyles id).of_run loaded
  rw [← hload]
  exact transform_styles transformed

/-- Following imports adds the styles of the calls. -/
lemma Follows.styles {specifiers : List String} {g g' : ModuleGraph} {calls : List Call}
    (h : Follows (providers env.config files) env id specifiers g s calls g' s') :
    s'.styles = s.styles ++ stylesOf env files calls ∧
      ∀ id source code, .transform id source code ∈ calls →
        IsCompiled env files id source code := by
  induction h with
  | done => exact ⟨(String.append_empty).symm, fun _ _ _ h => absurd h List.not_mem_nil⟩
  | @known id specifier target specifiers g g' s s₁ s' calls resolved _ _ ih =>
    have hresolve : s.KeepsStyles s₁ := (resolveImport_keepsStyles id specifier).of_run resolved
    rw [← hresolve]
    exact ih
  | @new id specifier target source code specifiers syntax_ g g₁ g' s s₁ s₂ s₃ s₄ s' below calls
      resolved _ loaded transformed _ _ _ ihwalk ihrest =>
    have hresolve : s.KeepsStyles s₁ := (resolveImport_keepsStyles id specifier).of_run resolved
    obtain ⟨hstyles, hcompiled⟩ := styles_of_prepared loaded transformed
    refine ⟨?_, fun id' source' code' h => ?_⟩
    · rw [ihrest.1, ihwalk.1, hstyles, hresolve, stylesOf_cons, stylesOf_append,
        String.append_assoc, String.append_assoc]
    · simp only [List.mem_cons, List.mem_append, reduceCtorEq, false_or] at h
      obtain h | h | h := h
      · cases h
        exact hcompiled
      · exact ihwalk.2 _ _ _ h
      · exact ihrest.2 _ _ _ h

/-- A pass collects the styles of its calls. -/
lemma Enters.styles {g : ModuleGraph} {calls : List Call}
    (h : Enters (providers env.config files) env s calls g s') :
    s'.styles = s.styles ++ stylesOf env files calls ∧
      ∀ id source code, .transform id source code ∈ calls →
        IsCompiled env files id source code := by
  obtain ⟨source, code, syntax_, s₁, s₂, rest, hload, htransform, -, hrest, rfl⟩ :=
    h.exists_follows
  obtain ⟨hstyles, hcompiled⟩ := styles_of_prepared hload htransform
  refine ⟨?_, fun id' source' code' h => ?_⟩
  · rw [hrest.styles.1, hstyles, stylesOf_cons, String.append_assoc]
  · simp only [List.mem_cons, reduceCtorEq, false_or] at h
    obtain h | h := h
    · cases h
      exact hcompiled
    · exact hrest.styles.2 _ _ _ h

lemma stylesOf_callsFor (found : List (Module × String)) :
    stylesOf env files (found.flatMap callsFor) =
      Text.concat (found.filterMap fun x => moduleStyles env files x.1.id x.2) := by
  have hcalls : (found.flatMap callsFor).filterMap (Call.styles? env files) =
      found.filterMap fun x => moduleStyles env files x.1.id x.2 := by
    induction found with
    | nil => rfl
    | cons x found ih =>
      rw [List.flatMap_cons, List.filterMap_append, ih, callsFor, List.filterMap_cons_none rfl,
        List.filterMap_cons, List.filterMap_cons, Call.styles?]
      cases moduleStyles env files x.1.id x.2 <;> rfl
  rw [stylesOf, hcalls]

end Pass

/-- A bundle is linked from the graph of its pass. -/
lemma exists_graph {source text : String} (h : bundle source env s = (.ok text, s')) :
    ∃ g, buildGraph source env s = (.ok g, s') ∧ text = link g env.config.output.name := by
  rw [bundle, Action.run_bind_eq_ok] at h
  obtain ⟨g, s₁, hgraph, h⟩ := h
  rw [Action.run_bind_of_ok Action.run_environment] at h
  cases h
  exact ⟨g, hgraph, rfl⟩

lemma bundle_of_graph {source : String} {g : ModuleGraph}
    (h : buildGraph source env s = (.ok g, s')) :
    bundle source env s = (.ok (link g env.config.output.name), s') := by
  rw [bundle, Action.run_bind_of_ok h, Action.run_bind_of_ok Action.run_environment]
  rfl

/-- Every bundle comes from a graph that is found by a depth-first walk along its imports, so it has
exactly what can be reached from the entry. Each module was loaded and changed once, in this order,
and the styles are those that the component compiler returned for the components. -/
theorem bundle_discovers {source text : String} (h : bundle source env s = (.ok text, s')) :
    ∃ (g : ModuleGraph) (calls : List Pass.Call) (found : List (Module × String)),
      buildGraph source env s = (.ok g, s') ∧ text = link g env.config.output.name ∧
      Pass.Enters (providers env.config (passFiles env source s)) env s.resetStyles calls g s' ∧
      g.ids.Nodup ∧ g.modules = found.map (·.1) ∧ calls = found.flatMap Pass.callsFor ∧
      DepthFirst g.successors [] [entryId] g.ids ∧
      (∀ id, id ∈ g.ids ↔ Reachable g.successors entryId id) ∧
      (∀ x ∈ found, IsCompiled env (passFiles env source s) x.1.id x.2 x.1.code) ∧
      s'.styles = Text.concat
        (found.filterMap fun x => moduleStyles env (passFiles env source s) x.1.id x.2) := by
  obtain ⟨g, hgraph, htext⟩ := exists_graph h
  have hvisit : Pass.visit (providers env.config (passFiles env source s)) env.importDepth true
      entryId ModuleGraph.empty env s.resetStyles = (.ok g, s') := hgraph
  obtain ⟨calls, henters⟩ := Pass.exists_enters hvisit
  obtain ⟨found, hmodules, hcalls, hwalk⟩ := henters.found
  obtain ⟨hstyles, hcompiled⟩ := henters.styles
  refine ⟨g, calls, found, hgraph, htext, henters, g.ids_nodup, hmodules, hcalls, hwalk,
    fun id => ?_, fun x hx => ?_, ?_⟩
  · rw [hwalk.mem_iff_reachable]
    simp
  · refine hcompiled _ _ _ ?_
    rw [hcalls]
    exact List.mem_flatMap.mpr ⟨x, hx, by simp [Pass.callsFor]⟩
  · rw [hstyles, hcalls, Pass.stylesOf_callsFor]
    exact String.empty_append

/-! ## A component that is shown and an entry that imports itself -/

/-- A component that the provider of library files leaves as it is becomes what the component
compiler returns. -/
lemma transform_of_compiled {compiled : Component.Compiled} (hid : isComponentId id = true)
    (hlibrary : LibraryFile.transform files source id = .ok none)
    (h : compiledModule env files id source = .ok compiled) :
    Chain.transform (providers env.config files) source id env s =
      (.ok compiled.code, { s with styles := s.styles ++ compiled.css.getD "" }) := by
  have hhook : (libraryProvider env.config.facade files).transform source id = pure none := by
    show Action.ofExcept (LibraryFile.transform files source id) = _
    rw [hlibrary]
    rfl
  have hcompile : componentProvider.transform source id env s =
      (.ok (some compiled.code), { s with styles := s.styles ++ compiled.css.getD "" }) := by
    show (if isComponentId id then do pure (some (← compileComponent source id))
      else pure none : Action (Option String)) env s = _
    rw [if_pos hid,
      Action.run_bind_of_ok (run_compileComponent (by rw [LibraryFile.changed, hlibrary]) h)]
    rfl
  rw [providers, Chain.transform_skip rfl, Chain.transform_skip hhook, Chain.transform,
    Action.run_bind_of_ok hcompile]
  rfl

namespace Card

/-- The path of a component. -/
def path : String := "Card.svelte"

/-- The text of the component. -/
def text : String := "a<style>b\x7b\x7d</style>"

/-- A source that shows the component and imports itself. -/
def pasted : String := "import './Card.svelte';\nimport './__entry__.js';"

def environment : Environment := { config := {}, network := .offline, styleCompiler := .ok }

/-- A session with styles from an earlier pass. -/
def session : Session := { registry := .ofEntries [FileEntry.ofPath path text], styles := "old" }

/-- The files of the pass. -/
def library : Registry := passFiles environment pasted session

/-- The styles of the component. -/
def styles : String := "[data-pg-e1f2eba7] \x7b\nb\x7b\x7d\n\x7d\n"

/-- What the component compiler returns for the component. -/
def compiled : Component.Compiled :=
  ⟨Component.moduleText "e1f2eba7" (String.ofList (Component.escaped ['a'])) [] [], styles⟩

/-- The component is read as a module without imports. -/
lemma readsAlone : ReadsAlone (Specifier.fileId path) compiled.code := by
  have hcomponent : Text.hasSuffix Specifier.componentExtension path = true := by decide
  rw [compiled]
  exact readsAlone_component hcomponent "e1f2eba7" (List.all_eq_true.mp (by decide)) ['a']

/-- The component adds its styles. -/
lemma transformed (s : Session) :
    Chain.transform (providers environment.config library) text (Specifier.fileId path) environment
      s = (.ok compiled.code, { s with styles := s.styles ++ styles }) :=
  transform_of_compiled (by decide) (by decide +kernel) (by decide +kernel)

/-- The source imports the component and itself. -/
lemma exists_entry : ∃ entry, ModuleSyntax.parse entryId pasted = .ok entry ∧
    entry.dependencies = ["./Card.svelte", "./__entry__.js"] :=
  ModuleSyntax.exists_parse_of_dependencies (by decide +kernel)

/-- The source is prepared as it is. -/
lemma prepare_entry {entry : ModuleSyntax} (hentry : ModuleSyntax.parse entryId pasted = .ok entry)
    (s : Session) : Pass.prepare (providers environment.config library) entryId environment s =
      (.ok (pasted, entry), s) := by
  refine Pass.prepare_eq_ok.mpr ⟨pasted, s, ?_, ?_, hentry⟩
  · rw [entryId, load_file]
    rfl
  · rw [entryId, transform_plain (by decide) (by decide) (by decide)]
    rfl

/-- The imports of the source lead to the component, which is new, and back to the source. -/
lemma exists_follows {g : ModuleGraph} (hids : g.ids = [entryId]) (s : Session) :
    ∃ calls g', Pass.Follows (providers environment.config library) environment entryId
      ["./Card.svelte", "./__entry__.js"] g s calls g' { s with styles := s.styles ++ styles } ∧
      calls.length ≤ 2 := by
  obtain ⟨card, hcard, halone⟩ := readsAlone
  have hnew : Specifier.fileId path ∉ g.ids := by
    rw [hids]
    decide
  have hload : Chain.load (providers environment.config library) (Specifier.fileId path)
      environment s = (.ok (some text), s) := by
    rw [load_file]
    rfl
  have hself : ∀ s, Pass.resolveImport (providers environment.config library) entryId
      "./__entry__.js" environment s = (.ok entryId, s) := fun _ =>
    Pass.resolveImport_library (by decide) (by decide)
  refine ⟨_, _, .alone (Pass.resolveImport_library (by decide) (by decide)) hnew hload
    (transformed s) hcard halone (.known (hself _) ?_ (.done _ _ _)), Nat.le_refl 2⟩
  rw [ModuleGraph.ids_resolve, ModuleGraph.ids_add hnew, hids]
  exact List.mem_cons_self

/-- The pass of the source succeeds. -/
lemma exists_bundle :
    ∃ text s', bundle pasted environment session = (.ok text, s') ∧ s'.styles = styles := by
  obtain ⟨entry, hentry, hdependencies⟩ := exists_entry
  have hids : (ModuleGraph.empty.add ⟨entryId, pasted, entry, true, Dict.empty⟩).ids =
      [entryId] := by
    rw [ModuleGraph.ids_add List.not_mem_nil]
    rfl
  obtain ⟨calls, g, hfollows, hlength⟩ := exists_follows hids session.resetStyles
  have hstyles : session.resetStyles.styles ++ styles = styles := String.empty_append
  rw [hstyles] at hfollows
  obtain ⟨depth, hdepth, htwo⟩ : ∃ depth, environment.importDepth = depth + 1 ∧ 2 ≤ depth :=
    ⟨0xffffffff, rfl, by decide⟩
  have hgraph : buildGraph pasted environment session =
      (.ok g, { session with styles := styles }) := by
    have hfiles : passFiles environment pasted session = library := rfl
    rw [buildGraph, Action.run_bind_of_ok Action.run_environment, run_buildGraphWithin, hdepth,
      hfiles]
    refine Pass.visit_of_prepared List.not_mem_nil (prepare_entry hentry _) ?_
    rw [hdependencies]
    exact hfollows.run (hlength.trans htwo)
  exact ⟨_, _, bundle_of_graph hgraph, rfl⟩

end Card

/-- The styles of a component take the place of those from an earlier pass. -/
theorem bundle_discovers_component :
    ∃ text s', bundle Card.pasted Card.environment Card.session = (.ok text, s') ∧
      ∃ (g : ModuleGraph) (found : List (Module × String)),
        buildGraph Card.pasted Card.environment Card.session = (.ok g, s') ∧
        g.modules = found.map (·.1) ∧ DepthFirst g.successors [] [entryId] g.ids ∧
        s'.styles = Card.styles ∧ s'.styles = Text.concat
          (found.filterMap fun x => moduleStyles Card.environment Card.library x.1.id x.2) := by
  obtain ⟨text, s', hrun, hstyles⟩ := Card.exists_bundle
  obtain ⟨g, calls, found, hgraph, -, -, -, hmodules, -, hwalk, -, -, hconcat⟩ :=
    bundle_discovers hrun
  exact ⟨text, s', hrun, g, found, hgraph, hmodules, hwalk, hstyles, hconcat⟩

end LiveBundle
