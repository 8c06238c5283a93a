import LiveBundle.Proofs.ModuleSyntax
import LiveBundle.Proofs.Pass.Depth
import LiveBundle.Proofs.Session.Transparency
import LiveBundle.Worker
import Mathlib.Data.Set.Finite.Lattice
import Mathlib.Logic.Relation

/-!
# What a pass reaches

With a network that always answers in the same way, which module imports which is fixed before a
pass begins. The ids that the entry module reaches decide whether the pass ends.

* `Imports` is one import, `Reached` any number of them from the entry on.
* `file_or_fetched_of_prepare`: only library files and fetched modules import anything.
* `visit_ends`: every visit puts a module with imports into the graph, so it ends when there are
  finitely many of these; `reached_subset_ids`: a graph that is complete has all that is reached.
-/

namespace LiveBundle

open Web (RequestFault Response)

namespace Pass

variable {answers : String → Except RequestFault Response} {env : Environment}
  {registry : Registry} {s s' t t' : Session}

/-! ## Imports -/

/-- In sessions that are faithful to the network, the module `id` is prepared and one of its
dependencies means `target`. -/
def Imports (answers : String → Except RequestFault Response) (env : Environment)
    (registry : Registry) (id target : String) : Prop :=
  ∃ (code : String) (syntax_ : ModuleSyntax) (specifier : String) (s₁ s₁' s₂ s₂' : Session),
    s₁.Faithful answers env.config.cdnBase ∧
    prepare (providers env.config registry) id env s₁ = (.ok (code, syntax_), s₁') ∧
    specifier ∈ syntax_.dependencies ∧
    s₂.Faithful answers env.config.cdnBase ∧ s₂.Knows (some id) ∧
    resolveImport (providers env.config registry) id specifier env s₂ = (.ok target, s₂')

/-- The entry module leads to `id` by imports. -/
def Reached (answers : String → Except RequestFault Response) (env : Environment)
    (registry : Registry) (id : String) : Prop :=
  Relation.ReflTransGen (Imports answers env registry) entryId id

/-- A module is prepared in one way. -/
lemma prepare_unique (steady : env.network = .steady answers) {id : String}
    {r r' : String × ModuleSyntax} (hs : s.Faithful answers env.config.cdnBase)
    (ht : t.Faithful answers env.config.cdnBase)
    (h : prepare (providers env.config registry) id env s = (.ok r, s'))
    (h' : prepare (providers env.config registry) id env t = (.ok r', t')) : r = r' := by
  have hagree := (prepare_determined (providers_determined steady registry) id).agree hs ht
    s.knows_none t.knows_none
  rw [h, h'] at hagree
  exact Except.ok.inj hagree.1

/-- A specifier means one module. -/
lemma resolveImport_unique (steady : env.network = .steady answers)
    {id specifier target target' : String} (hs : s.Faithful answers env.config.cdnBase)
    (ht : t.Faithful answers env.config.cdnBase) (hsk : s.Knows (some id))
    (htk : t.Knows (some id))
    (h : resolveImport (providers env.config registry) id specifier env s = (.ok target, s'))
    (h' : resolveImport (providers env.config registry) id specifier env t = (.ok target', t')) :
    target = target' := by
  have hagree := (resolveImport_determined (providers_determined steady registry) id
    specifier).agree hs ht hsk htk
  rw [h, h'] at hagree
  exact Except.ok.inj hagree.1

/-- A module imports finitely many others. -/
lemma finite_imports (steady : env.network = .steady answers) (id : String) :
    {target | Imports answers env registry id target}.Finite := by
  by_cases hprepared : ∃ r s s', s.Faithful answers env.config.cdnBase ∧
      prepare (providers env.config registry) id env s = (.ok r, s')
  · obtain ⟨⟨code, syntax_⟩, s, s', hs, hprep⟩ := hprepared
    -- One target at most for each dependency.
    have hone : ∀ specifier ∈ {x | x ∈ syntax_.dependencies},
        {target | ∃ s s', s.Faithful answers env.config.cdnBase ∧ s.Knows (some id) ∧
          resolveImport (providers env.config registry) id specifier env s =
            (.ok target, s')}.Finite := by
      intro specifier _
      refine Set.Subsingleton.finite ?_
      rintro target ⟨s₁, s₁', hs₁, hk₁, h₁⟩ target' ⟨s₂, s₂', hs₂, hk₂, h₂⟩
      exact resolveImport_unique steady hs₁ hs₂ hk₁ hk₂ h₁ h₂
    refine (syntax_.dependencies.finite_toSet.biUnion hone).subset ?_
    rintro target ⟨code', syntax_', specifier, s₁, s₁', s₂, s₂', hs₁, hprep', hmem, hs₂, hk₂, hres⟩
    obtain ⟨-, rfl⟩ := Prod.mk.inj (prepare_unique steady hs hs₁ hprep hprep')
    exact Set.mem_biUnion hmem ⟨s₂, s₂', hs₂, hk₂, hres⟩
  · refine Set.finite_empty.subset ?_
    rintro target ⟨code, syntax_, specifier, s₁, s₁', -, -, hs₁, hprep, -⟩
    exact absurd ⟨_, s₁, s₁', hs₁, hprep⟩ hprepared

/-! ## Modules with imports -/

/-- The texts of stubs have no dependencies, with and without types. -/
lemma dependencies_of_stub {id code : String} {syntax_ : ModuleSyntax} (hcode : code ∈ stubTexts)
    (h : ModuleSyntax.parse id code = .ok syntax_) : syntax_.dependencies = [] := by
  have hread : ∀ typed : Bool, ∀ text ∈ stubTexts,
      (Script.Program.parse typed text.toList).map
        (fun program => (ModuleSyntax.ofProgram program).dependencies) = some [] := by
    decide +kernel
  obtain ⟨program, hprogram, rfl⟩ := ModuleSyntax.exists_program_of_parse h
  have hdeps := hread (ModuleSyntax.isTyped id) code hcode
  rw [hprogram] at hdeps
  exact Option.some.inj hdeps

/-- Only library files and modules that were fetched import anything. -/
lemma file_or_fetched_of_prepare (steady : env.network = .steady answers) {id code : String}
    {syntax_ : ModuleSyntax} (hs : s.Faithful answers env.config.cdnBase)
    (h : prepare (providers env.config registry) id env s = (.ok (code, syntax_), s'))
    (hdeps : syntax_.dependencies ≠ []) :
    (∃ path, id = Specifier.fileId path) ∨ ∃ r, answers id = .ok r ∧ r.isSuccess = true := by
  cases hremote : Specifier.isRemote id with
  | true =>
    right
    obtain ⟨css, hc⟩ := (prepare_determined (providers_determined steady registry) id).continues hs
      s.knows_none h
    obtain ⟨text, htext⟩ := Option.isSome_iff_exists.mp (prepare_knows steady hs h id rfl hremote)
    obtain ⟨r, hr, hsuccess, -⟩ := hc.faithful.contents htext
    exact ⟨r, hr, hsuccess⟩
  | false =>
    cases hfile : Specifier.filePath? id with
    | some path => exact Or.inl ⟨path, Specifier.filePath?_eq_some_iff.mp hfile⟩
    | none =>
      -- The module is a stub.
      exfalso
      obtain ⟨loaded, hload, hstub⟩ := load_other env.config registry hremote hfile
      obtain ⟨source, s₁, hrun, htransform, hparse⟩ := prepare_eq_ok.mp h
      rw [hload] at hrun
      obtain ⟨rfl, rfl⟩ : loaded = some source ∧ s = s₁ := by simpa using hrun
      obtain ⟨hnull, htext⟩ := hstub source rfl
      rw [transform_stub hfile hnull] at htransform
      obtain ⟨rfl, rfl⟩ : source = code ∧ s = s' := by simpa using htransform
      exact hdeps (dependencies_of_stub htext hparse)

/-! ## Complete graphs -/

/-- A graph of settled modules with the entry has everything that is reached. -/
lemma reached_mem_ids (steady : env.network = .steady answers) {g : ModuleGraph}
    (hsettled : ∀ m ∈ g.modules, m.Settled (faithful steady registry) g.ids)
    (hentry : entryId ∈ g.ids) {id : String} (h : Reached answers env registry id) :
    id ∈ g.ids := by
  induction h with
  | refl => exact hentry
  | tail _ himports ih =>
    obtain ⟨m, hm, rfl⟩ := ModuleGraph.mem_ids_iff.mp ih
    obtain ⟨code, syntax_, specifier, s₁, s₁', s₂, s₂', hs₁, hprep, hmem, hs₂, hk₂, hres⟩ :=
      himports
    obtain ⟨⟨s, s', hs, hprepared⟩, hnoted⟩ := hsettled m hm
    obtain ⟨-, rfl⟩ := Prod.mk.inj (prepare_unique steady hs₁ hs hprep hprepared)
    -- The dependency is noted with the one target that it can have.
    obtain ⟨target, htarget⟩ := Option.isSome_iff_exists.mp
      ((Dict.mem_keys _ _).mp ((hnoted.keys specifier).mpr hmem))
    obtain ⟨t, t', ht, hkt, hrest⟩ := hnoted.resolves htarget
    obtain rfl := resolveImport_unique steady hs₂ ht hk₂ hkt hres hrest
    exact hnoted.mem_ids htarget

/-! ## Visits that end -/

/-- The ids of `importers` that are not in the graph. -/
def unvisited (importers : Finset String) (g : ModuleGraph) : Finset String :=
  importers.filter (· ∉ g.ids)

lemma unvisited_card_mono {importers : Finset String} {g g' : ModuleGraph} (h : g.ids ⊆ g'.ids) :
    (unvisited importers g').card ≤ (unvisited importers g).card := by
  refine Finset.card_le_card fun id hid => ?_
  rw [unvisited, Finset.mem_filter] at hid ⊢
  exact ⟨hid.1, fun hmem => hid.2 (h hmem)⟩

/-- A module that is added is not unvisited any more. -/
lemma unvisited_card_add {importers : Finset String} {g : ModuleGraph} {m : Module}
    (hmem : m.id ∈ importers) (hnew : m.id ∉ g.ids) :
    (unvisited importers (g.add m)).card < (unvisited importers g).card := by
  refine Finset.card_lt_card (Finset.ssubset_iff_of_subset (fun id hid => ?_) |>.mpr
    ⟨m.id, ?_, ?_⟩)
  · rw [unvisited, Finset.mem_filter, ModuleGraph.ids_add hnew] at hid
    rw [unvisited, Finset.mem_filter]
    exact ⟨hid.1, fun h => hid.2 (List.mem_append_left _ h)⟩
  · exact Finset.mem_filter.mpr ⟨hmem, hnew⟩
  · rw [unvisited, Finset.mem_filter, ModuleGraph.ids_add hnew]
    exact fun h => h.2 (List.mem_append_right _ (List.mem_singleton_self _))

/-- Following imports is not cut off when visits of what they mean are not. -/
lemma followImports_ends (steady : env.network = .steady answers) {depth : Nat} {id code : String}
    {syntax_ : ModuleSyntax} {g₀ : ModuleGraph}
    (hs : s.Faithful answers env.config.cdnBase)
    (hprep : prepare (providers env.config registry) id env s = (.ok (code, syntax_), s'))
    (hvisit : ∀ {target g t}, Imports answers env registry id target → g₀.ids ⊆ g.ids →
      t.Faithful answers env.config.cdnBase →
      (visit (providers env.config registry) depth false target g).Ends env t)
    {specifiers : List String} (hspecifiers : specifiers ⊆ syntax_.dependencies) {g : ModuleGraph}
    (hg : g₀.ids ⊆ g.ids) (ht : t.Faithful answers env.config.cdnBase) (hkt : t.Knows (some id)) :
    (followImports (providers env.config registry)
      (visit (providers env.config registry) depth false) id specifiers g).Ends env t := by
  induction specifiers generalizing g t with
  | nil => exact Action.ends_pure g
  | cons specifier rest ih =>
    obtain ⟨hmem, hrest⟩ := List.cons_subset.mp hspecifiers
    rw [followImports]
    refine (resolveImport_ends id specifier).bind fun {target t₁} hres => ?_
    have himports : Imports answers env registry id target :=
      ⟨code, syntax_, specifier, s, s', t, t₁, hs, hprep, hmem, ht, hkt, hres⟩
    obtain ⟨ht₁, hkeep₁⟩ := (faithful steady registry).resolve ht hkt hres
    refine (hvisit himports hg ht₁).bind fun {g₁ t₂} hrun => ?_
    obtain ⟨⟨new, hgrown, -⟩, -, ht₂, hkeep₂⟩ :=
      visit_grows (I := faithful steady registry) depth false ht₁ hrun
    refine ih hrest ?_ ht₂ (hkeep₂ id (hkeep₁ id hkt))
    rw [ModuleGraph.ids_resolve]
    exact List.Subset.trans hg hgrown.ids_subset

/-- When modules with imports are among finitely many, a visit is not cut off at a depth of more
than those that are not in the graph yet. -/
lemma visit_ends (importers : Finset String) (steady : env.network = .steady answers)
    (himporters : ∀ {id code syntax_ s s'}, Reached answers env registry id →
      s.Faithful answers env.config.cdnBase →
      prepare (providers env.config registry) id env s = (.ok (code, syntax_), s') →
      syntax_.dependencies ≠ [] → id ∈ importers)
    {depth : Nat} {isEntry : Bool} {id : String} {g : ModuleGraph}
    (hreached : Reached answers env registry id) (hs : s.Faithful answers env.config.cdnBase)
    (hdepth : (unvisited importers g).card < depth) :
    (visit (providers env.config registry) depth isEntry id g).Ends env s := by
  induction depth generalizing isEntry id g s with
  | zero => exact absurd hdepth (Nat.not_lt_zero _)
  | succ depth ih =>
    rw [visit]
    split
    · exact Action.ends_pure g
    · rename_i hid
      rw [ModuleGraph.contains_iff] at hid
      rw [Action.ends_inModule]
      refine (prepare_ends id).bind fun {r s₁} hprep => ?_
      obtain ⟨code, syntax_⟩ := r
      obtain ⟨hs₁, hknows, -⟩ := (faithful steady registry).prepare hs hprep
      by_cases hdeps : syntax_.dependencies = []
      · simp only [hdeps]
        exact Action.ends_pure _
      · -- The module was unvisited, so there is less to visit below it.
        have hless := unvisited_card_add (m := ⟨id, code, syntax_, isEntry, Dict.empty⟩)
          (himporters hreached hs hprep hdeps) hid
        refine followImports_ends steady hs hprep (fun {target g' t} himports hsub ht => ?_)
          (List.Subset.refl _) (List.Subset.refl _) hs₁ hknows
        refine ih (hreached.tail himports) ht ?_
        exact Nat.lt_of_le_of_lt (unvisited_card_mono hsub)
          (Nat.lt_of_lt_of_le hless (Nat.le_of_lt_succ hdepth))

end Pass

end LiveBundle
