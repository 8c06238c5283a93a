import LiveBundle.Proofs.Chain
import LiveBundle.Proofs.Graph
import LiveBundle.Proofs.ModuleSyntax
import Mathlib.Data.List.Nodup
import Mathlib.Logic.Relation

/-!
# How a pass discovers modules

A visit of a new module loads it, changes it, adds it to the graph and then follows its imports one
after the other. Written down with the calls of the chain that load and change modules, this is a
depth-first walk over the graph that comes out. Such a walk takes its roots one after the other,
passes over what it has seen, and lists what is new in front of everything that it finds from there.

* `DepthFirst` relates the successors, what was seen and the roots to what is found;
* `DepthFirst.unique`: there is only one such list, and by `DepthFirst.mem_iff_reachable` it has
  exactly what can be reached when nothing was seen;
* `Pass.Follows` is the course of a visit with its calls, `Pass.exists_follows` finds it;
* `Pass.Follows.found`: what is found is called for once, and in depth-first order of the imports
  that are resolved in the end;
* `Pass.Enters.found`: so it is with all modules of a pass.
-/

namespace LiveBundle

/-! ## Depth-first order -/

section

variable {α : Type} {successors : α → List α} {seen roots found found' : List α}

/-- What a depth-first walk from `roots` finds that was not seen. -/
inductive DepthFirst (successors : α → List α) : List α → List α → List α → Prop
  | nil (seen : List α) : DepthFirst successors seen [] []
  | seen {seen roots found : List α} {a : α} (h : a ∈ seen)
      (rest : DepthFirst successors seen roots found) :
      DepthFirst successors seen (a :: roots) found
  | new {seen roots below found : List α} {a : α} (h : a ∉ seen)
      (walk : DepthFirst successors (seen ++ [a]) (successors a) below)
      (rest : DepthFirst successors (seen ++ a :: below) roots found) :
      DepthFirst successors seen (a :: roots) (a :: (below ++ found))

/-- `b` can be reached from `a` in some steps. -/
def Reachable (successors : α → List α) : α → α → Prop :=
  Relation.ReflTransGen fun a b => b ∈ successors a

namespace DepthFirst

/-- A walk has one order. -/
theorem unique (h : DepthFirst successors seen roots found)
    (h' : DepthFirst successors seen roots found') : found = found' := by
  induction h generalizing found' with
  | nil => cases h'; rfl
  | seen hseen _ ih =>
    cases h' with
    | seen _ rest => exact ih rest
    | new hnew _ _ => exact absurd hseen hnew
  | new hnew _ _ ihwalk ihrest =>
    cases h' with
    | seen hseen _ => exact absurd hseen hnew
    | new _ walk rest =>
      obtain rfl := ihwalk walk
      obtain rfl := ihrest rest
      rfl

/-- Every root was seen or is found. -/
lemma roots_mem (h : DepthFirst successors seen roots found) :
    ∀ a ∈ roots, a ∈ seen ∨ a ∈ found := by
  induction h with
  | nil => exact fun _ h => absurd h List.not_mem_nil
  | seen hseen _ ih => exact List.forall_mem_cons.mpr ⟨Or.inl hseen, ih⟩
  | new _ _ _ _ ih =>
    refine List.forall_mem_cons.mpr ⟨Or.inr List.mem_cons_self, fun b hb => ?_⟩
    have := ih b hb
    simp only [List.mem_append, List.mem_cons] at this ⊢
    tauto

/-- What is found leads to what was seen or is found. -/
lemma successors_mem (h : DepthFirst successors seen roots found) :
    ∀ a ∈ found, ∀ b ∈ successors a, b ∈ seen ∨ b ∈ found := by
  induction h with
  | nil => exact fun _ h => absurd h List.not_mem_nil
  | seen _ _ ih => exact ih
  | new _ walk _ ihwalk ihrest =>
    have hroots := walk.roots_mem
    simp only [List.mem_append, List.mem_cons, List.not_mem_nil, or_false] at hroots ihwalk ihrest ⊢
    rintro a (rfl | ha | ha) b hb
    · have := hroots b hb
      tauto
    · have := ihwalk a ha b hb
      tauto
    · have := ihrest a ha b hb
      tauto

/-- What is found can be reached from a root. -/
lemma reachable (h : DepthFirst successors seen roots found) :
    ∀ a ∈ found, ∃ root ∈ roots, Reachable successors root a := by
  induction h with
  | nil => exact fun _ h => absurd h List.not_mem_nil
  | seen _ _ ih =>
    intro a ha
    obtain ⟨root, hroot, h⟩ := ih a ha
    exact ⟨root, List.mem_cons_of_mem _ hroot, h⟩
  | new _ _ _ ihwalk ihrest =>
    simp only [List.mem_append, List.mem_cons]
    rintro a (rfl | ha | ha)
    · exact ⟨a, Or.inl rfl, .refl⟩
    · obtain ⟨root, hroot, h⟩ := ihwalk a ha
      exact ⟨_, Or.inl rfl, .head hroot h⟩
    · obtain ⟨root, hroot, h⟩ := ihrest a ha
      exact ⟨root, Or.inr hroot, h⟩

/-- When nothing was seen, what is found is what can be reached. -/
theorem mem_iff_reachable (h : DepthFirst successors [] roots found) (a : α) :
    a ∈ found ↔ ∃ root ∈ roots, Reachable successors root a := by
  refine ⟨h.reachable a, ?_⟩
  rintro ⟨root, hroot, hreach⟩
  -- Along the way from the root nothing leaves what is found.
  induction hreach with
  | refl => simpa using h.roots_mem root hroot
  | tail _ hstep ih => simpa using h.successors_mem _ ih _ hstep

end DepthFirst

end

/-! ## Targets of modules -/

/-- The ids that the imports of a module are resolved to, in their order. -/
def Module.targets (m : Module) : List String :=
  m.syntax_.dependencies.filterMap m.resolved.get?

/-- The ids that the imports of the module with an id are resolved to. -/
def ModuleGraph.successors (g : ModuleGraph) (id : String) : List String :=
  match g.get? id with
  | some m => m.targets
  | none => []

lemma ModuleGraph.successors_eq {g : ModuleGraph} {m : Module} (h : m ∈ g.modules) :
    g.successors m.id = m.targets := by
  obtain ⟨front, back, hg⟩ := List.append_of_mem h
  have hfront : ∀ x ∈ front, ¬ (x.id == m.id) = true := by
    intro x hx
    rw [beq_iff_eq]
    exact id_ne_of_split front hg x (List.mem_append_left _ hx)
  have hfind : g.get? m.id = some m := by
    rw [get?, hg, List.find?_append, List.find?_eq_none.mpr hfront, Option.none_or]
    exact List.find?_cons_of_pos (beq_self_eq_true m.id)
  rw [successors, hfind]

namespace Pass

/-! ## Courses of visits -/

/-- A call of a chain that loads or changes a module. -/
inductive Call where
  | load (id source : String)
  | transform (id source code : String)

/-- The calls for a module that was loaded as a text. -/
def callsFor (x : Module × String) : List Call :=
  [.load x.1.id x.2, .transform x.1.id x.2 x.1.code]

variable {chain : List (Provider Action)} {env : Environment}

/-- The imports of a module are followed with some calls. -/
inductive Follows (chain : List (Provider Action)) (env : Environment) :
    String → List String → ModuleGraph → Session → List Call → ModuleGraph → Session → Prop
  | done (id : String) (g : ModuleGraph) (s : Session) : Follows chain env id [] g s [] g s
  | known {id specifier target : String} {specifiers : List String} {g g' : ModuleGraph}
      {s s₁ s' : Session} {calls : List Call}
      (resolved : resolveImport chain id specifier env s = (.ok target, s₁)) (h : target ∈ g.ids)
      (rest : Follows chain env id specifiers (g.resolve id specifier target) s₁ calls g' s') :
      Follows chain env id (specifier :: specifiers) g s calls g' s'
  | new {id specifier target source code : String} {specifiers : List String}
      {syntax_ : ModuleSyntax} {g g₁ g' : ModuleGraph} {s s₁ s₂ s₃ s₄ s' : Session}
      {below calls : List Call}
      (resolved : resolveImport chain id specifier env s = (.ok target, s₁)) (h : target ∉ g.ids)
      (loaded : Chain.load chain target env s₁ = (.ok (some source), s₂))
      (transformed : Chain.transform chain source target env s₂ = (.ok code, s₃))
      (read : ModuleSyntax.parse target code = .ok syntax_)
      (walk : Follows chain env target syntax_.dependencies
        (g.add ⟨target, code, syntax_, false, Dict.empty⟩) s₃ below g₁ s₄)
      (rest : Follows chain env id specifiers (g₁.resolve id specifier target) s₄ calls g' s') :
      Follows chain env id (specifier :: specifiers) g s
        (.load target source :: .transform target source code :: (below ++ calls)) g' s'

variable {id : String} {g g' : ModuleGraph} {s s' : Session}

/-- A new module that imports nothing is followed by what is imported behind it. -/
lemma Follows.alone {specifier target source code : String} {specifiers : List String}
    {syntax_ : ModuleSyntax} {s₁ s₂ s₃ : Session} {calls : List Call}
    (resolved : resolveImport chain id specifier env s = (.ok target, s₁)) (h : target ∉ g.ids)
    (loaded : Chain.load chain target env s₁ = (.ok (some source), s₂))
    (transformed : Chain.transform chain source target env s₂ = (.ok code, s₃))
    (read : ModuleSyntax.parse target code = .ok syntax_) (hnone : syntax_.dependencies = [])
    (rest : Follows chain env id specifiers
      ((g.add ⟨target, code, syntax_, false, Dict.empty⟩).resolve id specifier target) s₃ calls
      g' s') :
    Follows chain env id (specifier :: specifiers) g s
      (.load target source :: .transform target source code :: calls) g' s' := by
  have walk : Follows chain env target syntax_.dependencies
      (g.add ⟨target, code, syntax_, false, Dict.empty⟩) s₃ []
      (g.add ⟨target, code, syntax_, false, Dict.empty⟩) s₃ := by
    rw [hnone]
    exact .done _ _ s₃
  exact .new resolved h loaded transformed read walk rest

/-- A visit that succeeds finds its module in the graph, or it prepares the module and follows its
imports. -/
lemma visit_eq_ok {depth : Nat} {isEntry : Bool}
    (h : visit chain depth isEntry id g env s = (.ok g', s')) :
    (id ∈ g.ids ∧ g' = g ∧ s' = s) ∨
      id ∉ g.ids ∧ ∃ below source code syntax_ s₁ s₂, depth = below + 1 ∧
        Chain.load chain id env s = (.ok (some source), s₁) ∧
        Chain.transform chain source id env s₁ = (.ok code, s₂) ∧
        ModuleSyntax.parse id code = .ok syntax_ ∧
        followImports chain (visit chain below false) id syntax_.dependencies
          (g.add ⟨id, code, syntax_, isEntry, Dict.empty⟩) env s₂ = (.ok g', s') := by
  cases depth with
  | zero =>
    rw [visit] at h
    split at h
    · rename_i hid
      obtain ⟨rfl, rfl⟩ : g = g' ∧ s = s' := by simpa using h
      exact Or.inl ⟨g.contains_iff id |>.mp hid, rfl, rfl⟩
    · cases h
  | succ below =>
    rw [visit] at h
    split at h
    · rename_i hid
      obtain ⟨rfl, rfl⟩ : g = g' ∧ s = s' := by simpa using h
      exact Or.inl ⟨g.contains_iff id |>.mp hid, rfl, rfl⟩
    · rename_i hid
      rw [ModuleGraph.contains_iff] at hid
      rw [Action.run_inModule_eq_ok, Action.run_bind_eq_ok] at h
      obtain ⟨⟨code, syntax_⟩, s₂, hprepare, hfollow⟩ := h
      obtain ⟨source, s₁, hload, htransform, hparse⟩ := prepare_eq_ok.mp hprepare
      exact Or.inr
        ⟨hid, below, source, code, syntax_, s₁, s₂, rfl, hload, htransform, hparse, hfollow⟩

/-- Imports that are followed with success are followed with some calls. -/
lemma exists_follows (depth : Nat) {specifiers : List String}
    (h : followImports chain (visit chain depth false) id specifiers g env s = (.ok g', s')) :
    ∃ calls, Follows chain env id specifiers g s calls g' s' := by
  induction depth using Nat.strongRecOn generalizing id specifiers g g' s s' with
  | ind depth ihdepth =>
    induction specifiers generalizing g s with
    | nil =>
      obtain ⟨rfl, rfl⟩ : g = g' ∧ s = s' := by simpa [followImports] using h
      exact ⟨[], .done id g s⟩
    | cons specifier specifiers ih =>
      rw [followImports, Action.run_bind_eq_ok] at h
      obtain ⟨target, s₁, hresolve, h⟩ := h
      rw [Action.run_bind_eq_ok] at h
      obtain ⟨g₁, s₄, hvisit, h⟩ := h
      obtain ⟨calls, hrest⟩ := ih h
      rcases visit_eq_ok hvisit with ⟨hmem, rfl, rfl⟩ |
        ⟨hnew, below, source, code, syntax_, s₂, s₃, rfl, hload, htransform, hparse, hfollow⟩
      · exact ⟨calls, .known hresolve hmem hrest⟩
      · obtain ⟨inner, hwalk⟩ := ihdepth below (Nat.lt_succ_self below) hfollow
        exact ⟨_, .new hresolve hnew hload htransform hparse hwalk hrest⟩

lemma visit_of_mem {depth : Nat} {isEntry : Bool} (h : id ∈ g.ids) :
    visit chain depth isEntry id g env s = (.ok g, s) := by
  have hcontains : g.contains id = true := (g.contains_iff id).mpr h
  cases depth <;> rw [visit, if_pos hcontains] <;> rfl

lemma visit_of_prepared {depth : Nat} {isEntry : Bool} {code : String} {syntax_ : ModuleSyntax}
    {s₁ : Session} (h : id ∉ g.ids) (hprepare : prepare chain id env s = (.ok (code, syntax_), s₁))
    (hfollow : followImports chain (visit chain depth false) id syntax_.dependencies
      (g.add ⟨id, code, syntax_, isEntry, Dict.empty⟩) env s₁ = (.ok g', s')) :
    visit chain (depth + 1) isEntry id g env s = (.ok g', s') := by
  have hcontains : ¬ g.contains id = true := (g.contains_iff id).not.mpr h
  rw [visit, if_neg hcontains, Action.run_inModule_eq_ok, Action.run_bind_of_ok hprepare]
  exact hfollow

/-- Conversely, a course with some calls is a visit of its imports, at any depth that leaves room
for the calls. -/
theorem Follows.run {specifiers : List String} {calls : List Call}
    (h : Follows chain env id specifiers g s calls g' s') {depth : Nat}
    (hdepth : calls.length ≤ depth) :
    followImports chain (visit chain depth false) id specifiers g env s = (.ok g', s') := by
  induction h generalizing depth with
  | done => rfl
  | known resolved hmem _ ih =>
    rw [followImports, Action.run_bind_of_ok resolved, Action.run_bind_of_ok (visit_of_mem hmem)]
    exact ih hdepth
  | @new id specifier target source code specifiers syntax_ g g₁ g' s s₁ s₂ s₃ s₄ s' below calls
      resolved hnew loaded transformed read _ _ ihwalk ihrest =>
    rw [List.length_cons, List.length_cons, List.length_append] at hdepth
    obtain ⟨depth, rfl⟩ : ∃ depth', depth = depth' + 1 := ⟨depth - 1, by omega⟩
    have hprepare : prepare chain target env s₁ = (.ok (code, syntax_), s₃) :=
      prepare_eq_ok.mpr ⟨source, s₂, loaded, transformed, read⟩
    have hvisit : visit chain (depth + 1) false target g env s₁ = (.ok g₁, s₄) :=
      visit_of_prepared hnew hprepare (ihwalk (by omega))
    rw [followImports, Action.run_bind_of_ok resolved, Action.run_bind_of_ok hvisit]
    exact ihrest (by omega)

/-! ## What is found -/

/-- A target that is noted stays when the imports behind it note theirs. -/
lemma get?_of_note {m : Module} {resolved : Dict String} {specifier target : String}
    {specifiers : List String} (hspecifier : specifier ∉ specifiers)
    (h : ∀ key ∉ specifiers, resolved.get? key = (m.note specifier target).resolved.get? key) :
    resolved.get? specifier = some target ∧
      ∀ key ∉ specifier :: specifiers, resolved.get? key = m.resolved.get? key := by
  refine ⟨?_, fun key hkey => ?_⟩
  · rw [h specifier hspecifier, Module.note, Dict.get?_insert, if_pos rfl]
  · obtain ⟨hne, hkey⟩ := not_or.mp (List.mem_cons.not.mp hkey)
    rw [h key hkey, Module.note, Dict.get?_insert, if_neg (Ne.symm hne)]

/-- Following the imports of a module notes their targets in it and puts modules behind all others.
These are called for in the order in which a depth-first walk finds them. -/
lemma Follows.found {specifiers : List String} {calls : List Call}
    (h : Follows chain env id specifiers g s calls g' s') {front back : List Module} {m : Module}
    (hg : g.modules = front ++ m :: back) (hm : m.id = id) (hnodup : specifiers.Nodup) :
    ∃ (resolved : Dict String) (found : List (Module × String)),
      g'.modules = front ++ { m with resolved } :: (back ++ found.map (·.1)) ∧
      (∀ key ∉ specifiers, resolved.get? key = m.resolved.get? key) ∧
      calls = found.flatMap callsFor ∧
      ∀ successors : String → List String, (∀ x ∈ found, successors x.1.id = x.1.targets) →
        DepthFirst successors g.ids (specifiers.filterMap resolved.get?)
          (found.map fun x => x.1.id) := by
  induction h generalizing front back m with
  | done id g s =>
    exact ⟨m.resolved, [], by simpa using hg, fun _ _ => rfl, rfl, fun _ _ => .nil _⟩
  | @known id specifier target specifiers g g' s s₁ s' calls resolved hmem rest ih =>
    subst hm
    obtain ⟨hspecifier, hspecifiers⟩ := List.nodup_cons.mp hnodup
    obtain ⟨resolved, found, hg', hkeys, hcalls, hwalk⟩ :=
      ih (ModuleGraph.modules_resolve hg specifier target) rfl hspecifiers
    obtain ⟨htarget, hothers⟩ := get?_of_note hspecifier hkeys
    refine ⟨resolved, found, hg', hothers, hcalls, fun successors hsuccessors => ?_⟩
    rw [List.filterMap_cons, htarget]
    refine .seen hmem ?_
    rw [← ModuleGraph.ids_resolve g m.id specifier target]
    exact hwalk successors hsuccessors
  | @new id specifier target source code specifiers syntax_ g g₁ g' s s₁ s₂ s₃ s₄ s' below calls
      resolved hnew loaded transformed read walk rest ihwalk ihrest =>
    subst hm
    obtain ⟨hspecifier, hspecifiers⟩ := List.nodup_cons.mp hnodup
    obtain ⟨inner, foundBelow, hg₁, -, hbelow, hwalk⟩ :=
      ihwalk (ModuleGraph.modules_add hnew) rfl (ModuleSyntax.dependencies_nodup read)
    -- The new module with all its imports noted, and what was found below it.
    set x : Module × String := (⟨target, code, syntax_, false, inner⟩, source) with hx
    have hg₁' : g₁.modules = front ++ m :: (back ++ (x :: foundBelow).map (·.1)) := by
      rw [hg₁, hg]
      simp [hx]
    obtain ⟨resolved, found, hg', hkeys, hcalls, hrest⟩ :=
      ihrest (ModuleGraph.modules_resolve hg₁' specifier target) rfl hspecifiers
    obtain ⟨htarget, hkept⟩ := get?_of_note hspecifier hkeys
    refine ⟨resolved, x :: (foundBelow ++ found), ?_, hkept, ?_, fun successors hsuccessors => ?_⟩
    · rw [hg']
      simp [Module.note]
    · rw [hbelow, hcalls]
      simp [hx, callsFor]
    · obtain ⟨hself, hothers⟩ := List.forall_mem_cons.mp hsuccessors
      obtain ⟨hinner, houter⟩ := List.forall_mem_append.mp hothers
      have hself : successors target = syntax_.dependencies.filterMap inner.get? := hself
      have hids : g₁.ids = g.ids ++ target :: foundBelow.map fun x => x.1.id := by
        simp [ModuleGraph.ids, hg₁]
      have hwalk := hwalk successors hinner
      have hrest := hrest successors houter
      rw [ModuleGraph.ids_add hnew, ← hself] at hwalk
      rw [ModuleGraph.ids_resolve, hids] at hrest
      rw [List.filterMap_cons, htarget, List.map_cons, List.map_append]
      exact .new hnew hwalk hrest

/-- The course of a visit of the entry, with its calls. -/
structure Enters (chain : List (Provider Action)) (env : Environment) (s : Session)
    (calls : List Call) (g : ModuleGraph) (s' : Session) : Prop where
  exists_follows : ∃ source code syntax_ s₁ s₂ rest,
    Chain.load chain entryId env s = (.ok (some source), s₁) ∧
    Chain.transform chain source entryId env s₁ = (.ok code, s₂) ∧
    ModuleSyntax.parse entryId code = .ok syntax_ ∧
    Follows chain env entryId syntax_.dependencies
      (ModuleGraph.empty.add ⟨entryId, code, syntax_, true, Dict.empty⟩) s₂ rest g s' ∧
    calls = .load entryId source :: .transform entryId source code :: rest

lemma exists_enters {depth : Nat}
    (h : visit chain depth true entryId ModuleGraph.empty env s = (.ok g, s')) :
    ∃ calls, Enters chain env s calls g s' := by
  rcases visit_eq_ok h with ⟨hmem, -, -⟩ |
    ⟨-, below, source, code, syntax_, s₁, s₂, -, hload, htransform, hparse, hfollow⟩
  · exact absurd hmem List.not_mem_nil
  · obtain ⟨rest, hrest⟩ := exists_follows below hfollow
    exact ⟨_, ⟨source, code, syntax_, s₁, s₂, rest, hload, htransform, hparse, hrest, rfl⟩⟩

/-- The graph of a pass has its modules in depth-first order, and each was called for once. -/
theorem Enters.found {calls : List Call} (h : Enters chain env s calls g s') :
    ∃ found : List (Module × String), g.modules = found.map (·.1) ∧
      calls = found.flatMap callsFor ∧ DepthFirst g.successors [] [entryId] g.ids := by
  obtain ⟨source, code, syntax_, s₁, s₂, rest, hload, htransform, hparse, hrest, rfl⟩ :=
    h.exists_follows
  obtain ⟨resolved, found, hg, -, hcalls, hwalk⟩ :=
    hrest.found (ModuleGraph.modules_add List.not_mem_nil) rfl
      (ModuleSyntax.dependencies_nodup hparse)
  set x : Module × String := (⟨entryId, code, syntax_, true, resolved⟩, source) with hx
  have hmodules : g.modules = (x :: found).map (·.1) := by simpa [hx] using hg
  have hsuccessors : ∀ y ∈ x :: found, g.successors y.1.id = y.1.targets := by
    intro y hy
    exact ModuleGraph.successors_eq (hmodules ▸ List.mem_map_of_mem hy)
  obtain ⟨hself, hothers⟩ := List.forall_mem_cons.mp hsuccessors
  refine ⟨x :: found, hmodules, by rw [hcalls]; rfl, ?_⟩
  have hids : g.ids = entryId :: (found.map (fun x => x.1.id) ++ []) := by
    simp [ModuleGraph.ids, hmodules, hx]
  have hwalk := hwalk g.successors hothers
  rw [ModuleGraph.ids_add List.not_mem_nil] at hwalk
  rw [hids]
  refine .new List.not_mem_nil ?_ (.nil _)
  have hself : g.successors entryId = syntax_.dependencies.filterMap resolved.get? := hself
  rw [hself]
  exact hwalk

end Pass

end LiveBundle
