import LiveBundle.Bundle.Pass
import LiveBundle.Proofs.Graph

/-!
# What a pass adds to the graph

In the middle of a pass the graph holds three kinds of ids: modules whose imports are all followed,
modules whose imports are being followed, and ids that have not come up. The modules in progress are
exactly those that were there when a visit began, so a visit can be described by what it puts behind
them:

* `Module.Noted` says which imports of a module are noted and where the targets come from;
* `Module.Settled` is a module with nothing left to note;
* `visit_grows`: a visit leaves the modules as they are and appends settled ones only, whatever
  cycles the imports make.

The sessions that a pass goes through enter as an `Invariant`, so that the same induction serves
statements about the graph alone and statements about the caches.
-/

namespace LiveBundle

/-! ## Invariants of the sessions of a pass -/

/-- What holds of the session all through a pass, and what is known of it once a module has been
prepared. -/
structure Pass.Invariant (chain : List (Provider Action)) (env : Environment) where
  Holds : Session → Prop
  /-- The module was prepared in this session, or in one before it. -/
  Ready : String → Session → Prop
  prepare : ∀ {id r s s'}, Holds s → Pass.prepare chain id env s = (.ok r, s') →
    Holds s' ∧ Ready id s' ∧ ∀ other, Ready other s → Ready other s'
  resolve : ∀ {id specifier r s s'}, Holds s → Ready id s →
    Pass.resolveImport chain id specifier env s = (.ok r, s') →
    Holds s' ∧ ∀ other, Ready other s → Ready other s'

/-- The invariant that says nothing. -/
def Pass.Invariant.trivial (chain : List (Provider Action)) (env : Environment) :
    Pass.Invariant chain env where
  Holds := fun _ => True
  Ready := fun _ _ => True
  prepare := fun _ _ => ⟨True.intro, True.intro, fun _ _ => True.intro⟩
  resolve := fun _ _ _ => ⟨True.intro, fun _ _ => True.intro⟩

variable {chain : List (Provider Action)} {env : Environment} {I : Pass.Invariant chain env}

/-! ## Settled modules -/

/-- The imports `done` of a module are noted, with targets among `ids` that they really have. -/
structure Module.Noted (I : Pass.Invariant chain env) (ids done : List String) (m : Module) :
    Prop where
  keys : ∀ specifier, specifier ∈ m.resolved.keys ↔ specifier ∈ done
  mem_ids : ∀ {specifier target}, m.resolved.get? specifier = some target → target ∈ ids
  resolves : ∀ {specifier target}, m.resolved.get? specifier = some target →
    ∃ s s', I.Holds s ∧ I.Ready m.id s ∧
      Pass.resolveImport chain m.id specifier env s = (.ok target, s')

/-- A module as its preparation gave it, with all its imports noted. -/
structure Module.Settled (I : Pass.Invariant chain env) (ids : List String) (m : Module) :
    Prop where
  prepared : ∃ s s', I.Holds s ∧ Pass.prepare chain m.id env s = (.ok (m.code, m.syntax_), s')
  noted : m.Noted I ids m.syntax_.dependencies

namespace Module

variable {m : Module} {ids ids' done : List String}

lemma Noted.mono (h : m.Noted I ids done) (hsub : ids ⊆ ids') : m.Noted I ids' done :=
  ⟨h.keys, fun hget => hsub (h.mem_ids hget), h.resolves⟩

lemma Settled.mono (h : m.Settled I ids) (hsub : ids ⊆ ids') : m.Settled I ids' :=
  ⟨h.prepared, h.noted.mono hsub⟩

/-- Nothing is noted in a new module. -/
lemma Noted.of_empty (hm : m.resolved = Dict.empty) : m.Noted I ids [] := by
  refine ⟨fun specifier => ?_, ?_, ?_⟩
  · rw [hm]
    exact ⟨fun h => absurd h (Dict.not_mem_keys_empty specifier), fun h => by cases h⟩
  · intro specifier target h
    rw [hm] at h
    cases h
  · intro specifier target h
    rw [hm] at h
    cases h

/-- One more import is noted. -/
lemma Noted.note {specifier target : String} {s s' : Session} (h : m.Noted I ids done)
    (hs : I.Holds s) (hready : I.Ready m.id s)
    (hres : Pass.resolveImport chain m.id specifier env s = (.ok target, s'))
    (htarget : target ∈ ids) : (m.note specifier target).Noted I ids (done ++ [specifier]) := by
  -- A look-up finds the import that is noted now or one from before.
  have hget : ∀ {key value}, (m.note specifier target).resolved.get? key = some value →
      (key = specifier ∧ value = target) ∨ m.resolved.get? key = some value := by
    intro key value hkey
    rw [Module.note, Dict.get?_insert] at hkey
    by_cases heq : specifier = key
    · rw [if_pos heq] at hkey
      exact Or.inl ⟨heq.symm, (Option.some.inj hkey).symm⟩
    · rw [if_neg heq] at hkey
      exact Or.inr hkey
  refine ⟨fun key => ?_, fun hkey => ?_, fun hkey => ?_⟩
  · rw [Module.note, Dict.mem_keys_insert, h.keys, List.mem_append, List.mem_singleton, or_comm]
  · obtain ⟨-, rfl⟩ | hkey := hget hkey
    · exact htarget
    · exact h.mem_ids hkey
  · obtain ⟨rfl, rfl⟩ | hkey := hget hkey
    · exact ⟨s, s', hs, hready, hres⟩
    · exact h.resolves hkey

end Module

/-! ## Growth -/

namespace Pass

/-- `g'` is `g` with the settled modules `new` behind it, of which only the module `entry` may be
the entry. -/
structure Grown (I : Invariant chain env) (entry : Option String) (g g' : ModuleGraph)
    (new : List Module) : Prop where
  modules : g'.modules = g.modules ++ new
  settled : ∀ m ∈ new, m.Settled I g'.ids
  isEntry : ∀ m ∈ new, m.isEntry = true ↔ entry = some m.id

variable {g g' : ModuleGraph} {new : List Module}

lemma Grown.ids_subset {entry : Option String} (h : Grown I entry g g' new) : g.ids ⊆ g'.ids := by
  intro id hid
  rw [ModuleGraph.ids, h.modules, List.map_append]
  exact List.mem_append_left _ hid

lemma Grown.refl (I : Invariant chain env) (entry : Option String) (g : ModuleGraph) :
    Grown I entry g g [] :=
  ⟨(List.append_nil _).symm, fun _ h => absurd h List.not_mem_nil,
    fun _ h => absurd h List.not_mem_nil⟩

/-- A visitor of modules that grows every graph and then has the module that it was asked for. -/
def Grows (I : Invariant chain env) (visitor : String → ModuleGraph → Action ModuleGraph) : Prop :=
  ∀ {target g g' s s'}, I.Holds s → visitor target g env s = (.ok g', s') →
    (∃ new, Grown I none g g' new) ∧ target ∈ g'.ids ∧ I.Holds s' ∧
      ∀ other, I.Ready other s → I.Ready other s'

/-- Following imports notes them in the module that is in progress; the modules in front of it stay
as they are, and those behind it are settled. -/
lemma followImports_grows {visitor : String → ModuleGraph → Action ModuleGraph}
    (hv : Grows I visitor) {front : List Module} :
    ∀ (specifiers : List String) {m : Module} {back : List Module} {done : List String}
      {g g' : ModuleGraph} {s s' : Session},
      g.modules = front ++ m :: back → m.Noted I g.ids done →
      (∀ x ∈ back, x.Settled I g.ids ∧ x.isEntry = false) → I.Holds s → I.Ready m.id s →
      followImports chain visitor m.id specifiers g env s = (.ok g', s') →
      ∃ m' back', g'.modules = front ++ m' :: back' ∧
        m' = { m with resolved := m'.resolved } ∧ m'.Noted I g'.ids (done ++ specifiers) ∧
        (∀ x ∈ back', x.Settled I g'.ids ∧ x.isEntry = false) ∧ I.Holds s' ∧
        ∀ other, I.Ready other s → I.Ready other s' := by
  intro specifiers
  induction specifiers with
  | nil =>
    intro m back done g g' s s' hg hm hback hs _ h
    obtain ⟨rfl, rfl⟩ : g = g' ∧ s = s' := by simpa [followImports] using h
    exact ⟨m, back, hg, rfl, by simpa using hm, hback, hs, fun _ h => h⟩
  | cons specifier rest ih =>
    intro m back done g g' s s' hg hm hback hs hready h
    rw [followImports, Action.run_bind_eq_ok] at h
    obtain ⟨target, s₁, hres, h⟩ := h
    rw [Action.run_bind_eq_ok] at h
    obtain ⟨g₁, s₂, hvisit, h⟩ := h
    obtain ⟨hs₁, hkeep₁⟩ := I.resolve hs hready hres
    obtain ⟨⟨new, hgrown⟩, htarget, hs₂, hkeep₂⟩ := hv hs₁ hvisit
    -- The visit put `new` behind everything; `m` has not moved.
    have hg₁ : g₁.modules = front ++ m :: (back ++ new) := by
      rw [hgrown.modules, hg, List.append_assoc, List.cons_append]
    have hids := ModuleGraph.ids_resolve g₁ m.id specifier target
    have hback₁ : ∀ x ∈ back ++ new, x.Settled I (g₁.resolve m.id specifier target).ids ∧
        x.isEntry = false := by
      intro x hx
      rw [hids]
      rcases List.mem_append.mp hx with hx | hx
      · exact ⟨(hback x hx).1.mono hgrown.ids_subset, (hback x hx).2⟩
      · have hentry := hgrown.isEntry x hx
        exact ⟨hgrown.settled x hx, by simpa using hentry⟩
    have hm₁ := (hm.mono hgrown.ids_subset).note hs hready hres htarget
    rw [← hids] at hm₁
    -- The rest is followed with one more import noted in `m` and more modules behind it.
    obtain ⟨m', back', hg', hm', hnoted, hback', hs', hkeep'⟩ :=
      ih (ModuleGraph.modules_resolve hg₁ specifier target) hm₁ hback₁ hs₂
        (hkeep₂ _ (hkeep₁ _ hready)) h
    refine ⟨m', back', hg', ?_, by simpa using hnoted, hback', hs', fun other ho => ?_⟩
    · rw [hm']
      rfl
    · exact hkeep' other (hkeep₂ other (hkeep₁ other ho))

/-- A visit leaves the modules of a graph as they are and puts settled modules behind them. The
first of these is the module that was asked for, unless it was there. -/
theorem visit_grows (depth : Nat) (isEntry : Bool) {id : String} {s s' : Session}
    (hs : I.Holds s) (h : visit chain depth isEntry id g env s = (.ok g', s')) :
    (∃ new, Grown I (if isEntry then some id else none) g g' new ∧
      (id ∉ g.ids → ∃ m rest, new = m :: rest ∧ m.id = id)) ∧ id ∈ g'.ids ∧ I.Holds s' ∧
      ∀ other, I.Ready other s → I.Ready other s' := by
  induction depth generalizing isEntry id g g' s s' with
  | zero =>
    rw [visit] at h
    split at h
    · rename_i hid
      obtain ⟨rfl, rfl⟩ : g = g' ∧ s = s' := by simpa using h
      rw [ModuleGraph.contains_iff] at hid
      exact ⟨⟨[], Grown.refl I _ g, fun hn => absurd hid hn⟩, hid, hs, fun _ h => h⟩
    · cases h
  | succ depth ih =>
    rw [visit] at h
    split at h
    · rename_i hid
      obtain ⟨rfl, rfl⟩ : g = g' ∧ s = s' := by simpa using h
      rw [ModuleGraph.contains_iff] at hid
      exact ⟨⟨[], Grown.refl I _ g, fun hn => absurd hid hn⟩, hid, hs, fun _ h => h⟩
    · rename_i hid
      rw [ModuleGraph.contains_iff] at hid
      rw [Action.run_inModule_eq_ok, Action.run_bind_eq_ok] at h
      obtain ⟨⟨code, syntax_⟩, s₁, hprep, h⟩ := h
      obtain ⟨hs₁, hready, hkeep₁⟩ := I.prepare hs hprep
      -- Visits of imports are never visits of the entry.
      have hgrows : Grows I (visit chain depth false) := by
        intro target g₁ g₂ s₂ s₃ hs₂ hvisit
        obtain ⟨⟨new, hgrown, -⟩, htarget, hs₃, hkeep⟩ := ih false hs₂ hvisit
        exact ⟨⟨new, hgrown⟩, htarget, hs₃, hkeep⟩
      obtain ⟨m', back, hg', hm', hnoted, hback, hs', hkeep'⟩ :=
        followImports_grows hgrows syntax_.dependencies (m := ⟨id, code, syntax_, isEntry, _⟩)
          (ModuleGraph.modules_add hid) (Module.Noted.of_empty rfl)
          (fun x hx => absurd hx List.not_mem_nil) hs₁ hready h
      -- With all its dependencies noted the module itself is settled.
      have hid' : m'.id = id := by rw [hm']
      have hsettled : m'.Settled I g'.ids := by
        refine ⟨⟨s, s₁, hs, ?_⟩, ?_⟩
        · rw [hm']
          exact hprep
        · have hdeps : m'.syntax_.dependencies = [] ++ syntax_.dependencies := by rw [hm']; rfl
          rw [hdeps]
          exact hnoted
      have hne := ModuleGraph.id_ne_of_split _ hg'
      refine ⟨⟨m' :: back, ⟨hg', ?_, ?_⟩, fun _ => ⟨m', back, rfl, hid'⟩⟩, ?_, hs',
        fun other ho => hkeep' other (hkeep₁ other ho)⟩
      · intro m hm
        rcases List.mem_cons.mp hm with rfl | hm
        · exact hsettled
        · exact (hback m hm).1
      · intro m hm
        rcases List.mem_cons.mp hm with rfl | hm
        · have hentry : m.isEntry = isEntry := by rw [hm']
          rw [hentry, hid']
          cases isEntry <;> simp
        · have hother : m.id ≠ id := hid' ▸ hne m (List.mem_append_right _ hm)
          rw [(hback m hm).2]
          cases isEntry <;> simp [Ne.symm hother]
      · exact ModuleGraph.mem_ids_iff.mpr ⟨m', by rw [hg']; simp, hid'⟩

end Pass

end LiveBundle
