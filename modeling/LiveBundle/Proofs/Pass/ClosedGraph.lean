import LiveBundle.Proofs.Chain
import LiveBundle.Proofs.Link
import LiveBundle.Proofs.ModuleSyntax
import LiveBundle.Proofs.Pass.Growth

/-!
# The graph of a bundle is closed

A pass that succeeds leaves a graph in which everything that is asked for is there:

* `ModuleGraph.Closed` is what holds of the graph, `ModuleGraph.LinksTo` what holds of the text that
  is linked from it;
* `Pass.closed_of_settled`: a graph of settled modules, the entry first, is closed;
* `ModuleGraph.Closed.linksTo`: linking a closed graph asks for factories that are there;
* `bundle_closed`: every bundle is linked from a closed graph.
-/

namespace LiveBundle

/-! ## Closed graphs -/

/-- A graph with the entry module in front, all of whose imports lead to its modules. -/
structure ModuleGraph.Closed (g : ModuleGraph) : Prop where
  nodup : g.ids.Nodup
  /-- An id has the position at which it stands. -/
  position : ∀ id i, g.indexOf? id = some i ↔ g.ids[i]? = some id
  /-- The first module is the entry, and the only one. -/
  entry : ∃ m rest, g.modules = m :: rest ∧ m.id = entryId ∧ m.isEntry = true ∧
    ∀ x ∈ rest, x.isEntry = false
  read : ∀ m ∈ g.modules, ModuleSyntax.parse m.id m.code = .ok m.syntax_
  /-- Every dependency is resolved, and nothing else. -/
  keys : ∀ m ∈ g.modules, ∀ specifier,
    specifier ∈ m.resolved.keys ↔ specifier ∈ m.syntax_.dependencies
  targets : ∀ m ∈ g.modules, ∀ specifier target,
    m.resolved.get? specifier = some target → target ∈ g.ids

/-- The text is linked from the graph, and what it asks for are keys of exactly one factory each. -/
structure ModuleGraph.LinksTo (g : ModuleGraph) (name text : String) : Prop where
  /-- The factories stand in the text, in front of the call for the entry. -/
  text_eq : text = "var " ++ name ++ " = (function () \x7b\n" ++ runtime ++
    Text.concat (g.modules.map Module.factory) ++
    ("\n  return __pg_require(" ++ Json.quote entryId ++ ");\n") ++ "\x7d)();\n"
  factory_eq : ∀ m ∈ g.modules, ∃ comment body, m.factory =
    "\n  // " ++ comment ++ "\n  __pg_modules[" ++ Json.quote m.id ++
      "] = function (module, exports, require) \x7b\n" ++ body ++ "  \x7d;\n"
  entry_count : g.factoryKeys.count (Json.quote entryId) = 1
  /-- Every edit that asks for a module is rendered with the key of a factory. -/
  target_count : ∀ m ∈ g.modules, ∀ e ∈ m.syntax_.edits, ∀ specifier,
    ModuleSyntax.requested? e = some specifier →
    (∀ s, AsksFor m.resolved specifier e.replacement
      (renderReplacement m.resolved s e.replacement).1) ∧
    g.factoryKeys.count (Json.quote (targetOf m.resolved specifier)) = 1

namespace ModuleGraph

variable {g : ModuleGraph}

/-- The entry id belongs to a closed graph. -/
lemma Closed.entryId_mem (h : g.Closed) : entryId ∈ g.ids := by
  obtain ⟨m, rest, hg, hid, -, -⟩ := h.entry
  exact mem_ids_iff.mpr ⟨m, by rw [hg]; exact List.mem_cons_self, hid⟩

/-- The module that the linker takes for the entry has the entry id. -/
lemma Closed.exists_entry (h : g.Closed) : ∃ m, g.entry? = some m ∧ m.id = entryId := by
  obtain ⟨m, rest, hg, hid, hentry, -⟩ := h.entry
  refine ⟨m, ?_, hid⟩
  unfold entry?
  rw [hg]
  exact List.find?_cons_of_pos hentry

/-- The target of a dependency belongs to the graph. -/
lemma Closed.targetOf_mem (h : g.Closed) {m : Module} (hm : m ∈ g.modules) {specifier : String}
    (hdep : specifier ∈ m.syntax_.dependencies) : targetOf m.resolved specifier ∈ g.ids := by
  have hkey := (h.keys m hm specifier).mpr hdep
  obtain ⟨target, htarget⟩ := Option.isSome_iff_exists.mp ((Dict.mem_keys _ _).mp hkey)
  rw [targetOf, htarget]
  exact h.targets m hm specifier target htarget

/-- Linking a closed graph asks for factories that are there. -/
theorem Closed.linksTo (h : g.Closed) (name : String) : g.LinksTo name (link g name) where
  text_eq := by
    obtain ⟨m, hentry, hid⟩ := h.exists_entry
    rw [link_of_entry hentry, hid]
  factory_eq := fun m _ => m.factory_key
  entry_count := count_factoryKeys h.entryId_mem
  target_count := by
    intro m hm e he specifier hreq
    have hdep := ModuleSyntax.mem_dependencies_of_requested (h.read m hm) he hreq
    exact ⟨rendered_asksFor hreq, count_factoryKeys (h.targetOf_mem hm hdep)⟩

end ModuleGraph

/-! ## Passes -/

namespace Pass

variable {chain : List (Provider Action)} {env : Environment} {s s' : Session}

/-- A graph of settled modules, the entry first, is closed. -/
lemma closed_of_settled {I : Invariant chain env} {g : ModuleGraph} {m : Module}
    {rest : List Module} (hg : Grown I (some entryId) ModuleGraph.empty g (m :: rest))
    (hid : m.id = entryId) : g.Closed := by
  have hmodules : g.modules = m :: rest := hg.modules
  have hsettled : ∀ x ∈ g.modules, x.Settled I g.ids := fun x hx => hg.settled x (hmodules ▸ hx)
  refine ⟨g.ids_nodup, g.indexOf?_eq_some_iff, ⟨m, rest, hmodules, hid, ?_, ?_⟩, ?_, ?_, ?_⟩
  · rw [hg.isEntry m List.mem_cons_self, hid]
  · -- Another entry module would have the id of the first one.
    intro x hx
    have hne := ModuleGraph.id_ne_of_split [] hmodules x hx
    have hentry := hg.isEntry x (List.mem_cons_of_mem m hx)
    rw [← Bool.not_eq_true, hentry, Option.some.injEq]
    exact fun h => hne (h ▸ hid.symm)
  · intro x hx
    obtain ⟨s, s', -, hprepared⟩ := (hsettled x hx).prepared
    obtain ⟨source, s₁, -, -, hparse⟩ := prepare_eq_ok.mp hprepared
    exact hparse
  · exact fun x hx specifier => (hsettled x hx).noted.keys specifier
  · exact fun x hx specifier target => (hsettled x hx).noted.mem_ids

/-- What a pass builds is closed. -/
lemma buildGraphWithin_closed {depth : Nat} {source : String} {g : ModuleGraph}
    (h : buildGraphWithin depth source env s = (.ok g, s')) : g.Closed := by
  have hvisit : visit (providers env.config (s.resetStyles.registry.overlay
      (overlayEntries env source))) depth true entryId ModuleGraph.empty env s.resetStyles =
      (.ok g, s') := h
  -- The graph was empty, so all its modules come from the visit.
  obtain ⟨⟨new, hgrown, hfirst⟩, -⟩ :=
    visit_grows (I := Invariant.trivial _ env) depth true True.intro hvisit
  obtain ⟨m, rest, rfl, hid⟩ := hfirst List.not_mem_nil
  exact closed_of_settled hgrown hid

end Pass

/-- Every bundle is linked from a closed graph, and what it asks for is there. -/
theorem bundle_closed {env : Environment} {s s' : Session} {source text : String}
    (h : bundle source env s = (.ok text, s')) :
    ∃ g, buildGraph source env s = (.ok g, s') ∧ text = link g env.config.output.name ∧
      g.Closed ∧ g.LinksTo env.config.output.name text := by
  rw [bundle, Action.run_bind_eq_ok] at h
  obtain ⟨g, s₁, hgraph, h⟩ := h
  obtain ⟨rfl, rfl⟩ : link g env.config.output.name = text ∧ s₁ = s' := by
    have hpair := (Prod.mk.injEq ..).mp h
    exact ⟨Except.ok.inj hpair.1, hpair.2⟩
  have hclosed := Pass.buildGraphWithin_closed hgraph
  exact ⟨g, hgraph, rfl, hclosed, hclosed.linksTo _⟩

/-- A script that imports itself and a file that is missing has a bundle. -/
theorem bundle_closed_self_import :
    ∃ text s', ∃ g : ModuleGraph, bundle "import './__entry__.js';\nexport * from './missing.js';"
        { config := {}, network := .offline, styleCompiler := .ok } (Session.start .empty) =
        (.ok text, s') ∧ g.Closed ∧ g.LinksTo "playground" text := by
  have hok : (bundle "import './__entry__.js';\nexport * from './missing.js';"
      { config := {}, network := .offline, styleCompiler := .ok }
      (Session.start .empty)).1.isOk = true := by decide +kernel
  rcases h : bundle "import './__entry__.js';\nexport * from './missing.js';"
      { config := {}, network := .offline, styleCompiler := .ok } (Session.start .empty) with
    ⟨_ | text, s'⟩
  · rw [h] at hok
    cases hok
  · obtain ⟨g, -, -, hclosed, hlinks⟩ := bundle_closed h
    exact ⟨text, s', g, rfl, hclosed, hlinks⟩

end LiveBundle
