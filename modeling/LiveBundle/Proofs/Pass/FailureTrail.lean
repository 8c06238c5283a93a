import LiveBundle.Proofs.Pass.Served
import Mathlib.Data.List.Chain

/-!
# The trail of a failure

A pass that fails was in the middle of some modules, each of which imports the one below it. The
failure collects their ids on its way out, once each, and tells nothing else of them.

* `BundleError.IsCause`: failures without a module around them; the class, the text and the first
  line of the report are those of the cause;
* `Pass.Breaks` is the course of a visit that fails, from module to module down to the cause;
  `Pass.exists_breaks` finds it;
* `Breaks.nodup`, `Breaks.imports` and `Breaks.raises` are what its modules have to do with each
  other and with the cause;
* `trail_of_failure` is all of this for passes.
-/

namespace LiveBundle

/-! ## Causes -/

namespace BundleError

/-- The failure has no module around it. -/
def IsCause (e : BundleError) : Prop := ∀ id inner, e ≠ .inModule id inner

variable {e : BundleError}

lemma root_isCause (e : BundleError) : e.root.IsCause := by
  induction e with
  | inModule id inner ih => exact ih
  | _ => exact fun _ _ h => by cases h

lemma IsCause.root_eq (h : e.IsCause) : e.root = e := by
  cases e with
  | inModule id inner => exact absurd rfl (h id inner)
  | _ => rfl

lemma IsCause.trail_eq (h : e.IsCause) : e.trail = [] := by
  cases e with
  | inModule id inner => exact absurd rfl (h id inner)
  | _ => rfl

lemma IsResolve.isCause {specifier : String} (h : e.IsResolve specifier) : e.IsCause := by
  obtain ⟨cause, rfl⟩ := h
  exact fun _ _ h => by cases h

lemma IsFetch.isCause {url : String} (h : e.IsFetch url) : e.IsCause := by
  obtain ⟨cause, rfl⟩ | ⟨status, reason, rfl⟩ := h <;> exact fun _ _ h => by cases h

lemma IsCompile.isCause (h : e.IsCompile) : e.IsCause := by
  obtain ⟨diagnostic, rfl⟩ := h
  exact fun _ _ h => by cases h

/-- The modules around a cause do not change its class. -/
lemma kind_root (e : BundleError) : e.root.kind = e.kind := by
  induction e with
  | inModule id inner ih => exact ih
  | _ => rfl

/-- The modules around a cause do not change its text. -/
lemma text_root (e : BundleError) : e.root.text = e.text := by
  induction e with
  | inModule id inner ih => exact ih
  | _ => rfl

/-- The first line of a text. -/
def firstLine (text : String) : String := String.ofList (text.toList.takeWhile (· != '\n'))

/-- Nothing behind a line break belongs to the first line. -/
lemma firstLine_append (front back : String) :
    firstLine (front ++ ("\n" ++ back)) = firstLine front := by
  have hback : ("\n" ++ back).toList = '\n' :: back.toList := by
    rw [String.toList_append]
    rfl
  have htake : ∀ cs : List Char, (cs ++ '\n' :: back.toList).takeWhile (· != '\n') =
      cs.takeWhile (· != '\n') := by
    intro cs
    induction cs with
    | nil => rfl
    | cons c cs ih =>
      rw [List.cons_append, List.takeWhile_cons, List.takeWhile_cons, ih]
  rw [firstLine, firstLine, String.toList_append, hback, htake]

/-- The first line of the report tells the cause. -/
lemma firstLine_report (e : BundleError) :
    firstLine e.report = firstLine ("Error: " ++ e.root.text) := by
  have hbreak : "\n\nStack trace:\n" = "\n" ++ "\nStack trace:\n" := rfl
  rw [text_root, report, hbreak, String.append_assoc, String.append_assoc,
    @String.append_assoc "\n"]
  exact firstLine_append _ _

end BundleError

open LiveBundle.Action (FailsOnly failsOnly_fail failsOnly_pure run_bind_eq_error
  run_inModule_eq_failed)

open Session (Passes)

namespace Pass

variable {config : Config} {registry : Registry} {env : Environment} {id : String}

/-- A module that is not prepared fails without a module around it. -/
lemma prepare_fails_isCause (id : String) :
    (prepare (providers config registry) id).FailsOnly BundleError.IsCause env := by
  refine FailsOnly.bind ((load_fails config registry id).mono
    fun _ => BundleError.IsFetch.isCause) fun loaded => ?_
  cases loaded with
  | none => exact failsOnly_fail fun _ _ h => by cases h
  | some source =>
    refine FailsOnly.bind ((transform_fails config registry source id).mono
      fun _ => BundleError.IsCompile.isCause) fun code => ?_
    cases ModuleSyntax.parse id code with
    | error d => exact failsOnly_fail fun _ _ h => by cases h
    | ok syntax_ => exact failsOnly_pure _

lemma resolveImport_fails_isCause (id specifier : String) :
    (resolveImport (providers config registry) id specifier).FailsOnly BundleError.IsCause env :=
  resolveImport_sequential Action.failsOnly_sequential (failsOnly_fail fun _ _ h => by cases h)
    ((resolve_fails config registry specifier (some id)).mono
      fun _ => BundleError.IsResolve.isCause)

/-! ## The course of a failure -/

section

variable {chain : List (Provider Action)}

/-- A visit of a module fails with a cause: the module is not prepared, an import of it is not
resolved, or what it imports fails. The trail has the modules from the cause outwards. -/
inductive Breaks (chain : List (Provider Action)) (env : Environment) :
    String → ModuleGraph → Session → List String → BundleError → Session → Prop
  | prepare {id : String} {g : ModuleGraph} {s s' : Session} {cause : BundleError}
      (new : id ∉ g.ids)
      (raised : Pass.prepare chain id env s = (.error (.failed cause), s')) :
      Breaks chain env id g s [id] cause s'
  | resolve {id code specifier : String} {syntax_ : ModuleSyntax} {isEntry : Bool} {depth : Nat}
      {done rest : List String} {g g₁ : ModuleGraph} {s s₁ s₂ s' : Session} {cause : BundleError}
      (new : id ∉ g.ids) (prepared : Pass.prepare chain id env s = (.ok (code, syntax_), s₁))
      (dependencies : syntax_.dependencies = done ++ specifier :: rest)
      (followed : followImports chain (visit chain depth false) id done
        (g.add ⟨id, code, syntax_, isEntry, Dict.empty⟩) env s₁ = (.ok g₁, s₂))
      (raised : resolveImport chain id specifier env s₂ = (.error (.failed cause), s')) :
      Breaks chain env id g s [id] cause s'
  | deeper {id code specifier target : String} {syntax_ : ModuleSyntax} {isEntry : Bool}
      {depth : Nat} {done rest trail : List String} {g g₁ : ModuleGraph}
      {s s₁ s₂ s₃ s' : Session} {cause : BundleError}
      (new : id ∉ g.ids) (prepared : Pass.prepare chain id env s = (.ok (code, syntax_), s₁))
      (dependencies : syntax_.dependencies = done ++ specifier :: rest)
      (followed : followImports chain (visit chain depth false) id done
        (g.add ⟨id, code, syntax_, isEntry, Dict.empty⟩) env s₁ = (.ok g₁, s₂))
      (resolved : resolveImport chain id specifier env s₂ = (.ok target, s₃))
      (inner : Breaks chain env target g₁ s₃ trail cause s') :
      Breaks chain env id g s (trail ++ [id]) cause s'

variable {g g' : ModuleGraph} {s s' : Session} {e : BundleError}

/-- Imports fail at the first one that is not resolved or cannot be visited. -/
lemma followImports_eq_failed {depth : Nat} {specifiers : List String}
    (h : followImports chain (visit chain depth false) id specifiers g env s =
      (.error (.failed e), s')) :
    ∃ done specifier rest g₁ s₂, specifiers = done ++ specifier :: rest ∧
      followImports chain (visit chain depth false) id done g env s = (.ok g₁, s₂) ∧
      (resolveImport chain id specifier env s₂ = (.error (.failed e), s') ∨
        ∃ target s₃, resolveImport chain id specifier env s₂ = (.ok target, s₃) ∧
          visit chain depth false target g₁ env s₃ = (.error (.failed e), s')) := by
  induction specifiers generalizing g s with
  | nil => cases h
  | cons specifier rest ih =>
    rcases run_bind_eq_error.mp h with hresolve | ⟨target, s₁, hresolve, h⟩
    · exact ⟨[], specifier, rest, g, s, rfl, rfl, .inl hresolve⟩
    · rcases run_bind_eq_error.mp h with hvisit | ⟨g₁, s₂, hvisit, h⟩
      · exact ⟨[], specifier, rest, g, s, rfl, rfl, .inr ⟨target, s₁, hresolve, hvisit⟩⟩
      · obtain ⟨done, failing, rest', g₂, s₃, rfl, hdone, hfail⟩ := ih h
        refine ⟨specifier :: done, failing, rest', g₂, s₃, rfl, ?_, hfail⟩
        rw [followImports, Action.run_bind_of_ok hresolve, Action.run_bind_of_ok hvisit]
        exact hdone

lemma followImports_adds {depth : Nat} {specifiers : List String}
    (h : followImports chain (visit chain depth false) id specifiers g env s = (.ok g', s')) :
    g.ids ⊆ g'.ids := by
  induction specifiers generalizing g s with
  | nil =>
    obtain ⟨rfl, -⟩ : g = g' ∧ s = s' := by simpa [followImports] using h
    exact List.Subset.refl _
  | cons specifier rest ih =>
    rw [followImports, Action.run_bind_eq_ok] at h
    obtain ⟨target, s₁, -, h⟩ := h
    rw [Action.run_bind_eq_ok] at h
    obtain ⟨g₁, s₂, hvisit, h⟩ := h
    have hrest := ih h
    rw [ModuleGraph.ids_resolve] at hrest
    exact List.Subset.trans (visit_adds depth false hvisit) hrest

namespace Breaks

variable {trail : List String} {cause : BundleError}

/-- The modules of the trail are those that were not there. -/
lemma not_mem (h : Breaks chain env id g s trail cause s') : ∀ x ∈ trail, x ∉ g.ids := by
  induction h with
  | prepare new => exact fun x hx => List.mem_singleton.mp hx ▸ new
  | resolve new => exact fun x hx => List.mem_singleton.mp hx ▸ new
  | deeper new prepared dependencies followed resolved inner ih =>
    intro x hx hmem
    rcases List.mem_append.mp hx with hx | hx
    · -- The graph of the inner visit has all that was there.
      refine ih x hx (followImports_adds followed ?_)
      rw [ModuleGraph.ids_add new]
      exact List.mem_append_left _ hmem
    · exact new (List.mem_singleton.mp hx ▸ hmem)

/-- No module of the trail comes twice: while its imports are followed, it is in the graph. -/
lemma nodup (h : Breaks chain env id g s trail cause s') : trail.Nodup := by
  induction h with
  | prepare => exact List.nodup_singleton _
  | resolve => exact List.nodup_singleton _
  | @deeper id _ _ _ _ _ _ _ _ _ g g₁ _ _ _ _ _ _ new _ _ followed _ inner ih =>
    have hid : id ∈ g₁.ids := by
      refine followImports_adds followed ?_
      rw [ModuleGraph.ids_add new]
      exact List.mem_append_right _ List.mem_cons_self
    refine List.nodup_append.mpr ⟨ih, List.nodup_singleton _, fun a ha b hb => ?_⟩
    rintro rfl
    exact inner.not_mem a ha (List.mem_singleton.mp hb ▸ hid)

/-- The trail ends with the module that was visited. -/
lemma getLast?_eq (h : Breaks chain env id g s trail cause s') : trail.getLast? = some id := by
  cases h with
  | prepare => rfl
  | resolve => rfl
  | deeper => exact List.getLast?_concat

end Breaks

end

/-- A visit that fails does so from module to module down to the cause, and its failure has these
modules as its trail. -/
theorem exists_breaks {depth : Nat} {isEntry : Bool} {g : ModuleGraph} {s s' : Session}
    {e : BundleError}
    (h : visit (providers config registry) depth isEntry id g env s = (.error (.failed e), s')) :
    Breaks (providers config registry) env id g s e.trail e.root s' := by
  induction depth generalizing isEntry id g s e with
  | zero =>
    rw [visit] at h
    split at h <;> cases h
  | succ depth ih =>
    rw [visit] at h
    split at h
    · cases h
    · rename_i hnew
      rw [ModuleGraph.contains_iff] at hnew
      obtain ⟨inner, rfl, hinner⟩ := run_inModule_eq_failed.mp h
      show Breaks _ env id g s (inner.trail ++ [id]) inner.root s'
      rcases run_bind_eq_error.mp hinner with hprepare | ⟨⟨code, syntax_⟩, s₁, hprepare, hfollow⟩
      · obtain ⟨_, ⟨⟩, hcause⟩ := prepare_fails_isCause id _ _ _ hprepare
        rw [hcause.trail_eq, hcause.root_eq]
        exact .prepare hnew hprepare
      · obtain ⟨done, specifier, rest, g₁, s₂, hdependencies, hdone, hfail⟩ :=
          followImports_eq_failed hfollow
        rcases hfail with hresolve | ⟨target, s₃, hresolve, hvisit⟩
        · obtain ⟨_, ⟨⟩, hcause⟩ := resolveImport_fails_isCause id specifier _ _ _ hresolve
          rw [hcause.trail_eq, hcause.root_eq]
          exact .resolve hnew hprepare hdependencies hdone hresolve
        · exact .deeper hnew hprepare hdependencies hdone hresolve (ih hvisit)

/-! ## Within a pass -/

/-- Between the two sessions the module was prepared, and then one of its dependencies was resolved
to the target. -/
def ImportsWithin (chain : List (Provider Action)) (env : Environment) (s s' : Session)
    (id target : String) : Prop :=
  ∃ code syntax_ specifier t₀ t₁ t₂ t₃, Passes env s t₀ ∧
    Pass.prepare chain id env t₀ = (.ok (code, syntax_), t₁) ∧
    specifier ∈ syntax_.dependencies ∧ Passes env t₁ t₂ ∧
    resolveImport chain id specifier env t₂ = (.ok target, t₃) ∧ Passes env t₃ s'

/-- What happened last between the two sessions is that the cause was raised, when the module was
loaded, changed and read, or when one of its dependencies was resolved. -/
def RaisesWithin (chain : List (Provider Action)) (env : Environment) (s s' : Session)
    (id : String) (cause : BundleError) : Prop :=
  ∃ t₀, Passes env s t₀ ∧
    (Pass.prepare chain id env t₀ = (.error (.failed cause), s') ∨
      ∃ code syntax_ specifier t₁ t₂,
        Pass.prepare chain id env t₀ = (.ok (code, syntax_), t₁) ∧
        specifier ∈ syntax_.dependencies ∧ Passes env t₁ t₂ ∧
        resolveImport chain id specifier env t₂ = (.error (.failed cause), s'))

namespace Breaks

variable {g : ModuleGraph} {s s₀ s' : Session} {trail : List String} {cause : BundleError}

lemma passes (h : Breaks (providers config registry) env id g s trail cause s') :
    Passes env s s' := by
  induction h with
  | prepare new raised => exact (prepare_passes _).of_run raised
  | resolve new prepared dependencies followed raised =>
    exact IsTrans.trans _ _ _ ((prepare_passes _).of_run prepared) (IsTrans.trans _ _ _
      ((followImports_passes _ _ _ _).of_run followed) ((resolveImport_passes _ _).of_run raised))
  | deeper new prepared dependencies followed resolved inner ih =>
    exact IsTrans.trans _ _ _ ((prepare_passes _).of_run prepared) (IsTrans.trans _ _ _
      ((followImports_passes _ _ _ _).of_run followed)
      (IsTrans.trans _ _ _ ((resolveImport_passes _ _).of_run resolved) ih))

/-- Each module of the trail imports the one in front of it. -/
lemma imports (h : Breaks (providers config registry) env id g s trail cause s')
    (hs : Passes env s₀ s) :
    trail.IsChain fun target id => ImportsWithin (providers config registry) env s₀ s' id target :=
    by
  induction h with
  | prepare => exact List.isChain_singleton _
  | resolve => exact List.isChain_singleton _
  | deeper new prepared dependencies followed resolved inner ih =>
    have hfollowed := (followImports_passes _ _ _ _).of_run followed
    have hbelow := IsTrans.trans _ _ _ hs (IsTrans.trans _ _ _
      ((prepare_passes _).of_run prepared) (IsTrans.trans _ _ _ hfollowed
        ((resolveImport_passes _ _).of_run resolved)))
    refine List.isChain_append.mpr ⟨ih hbelow, List.isChain_singleton _, ?_⟩
    intro target htarget id hid
    -- The inner trail ends with the module that the import was resolved to.
    rw [inner.getLast?_eq] at htarget
    cases htarget
    cases hid
    exact ⟨_, _, _, _, _, _, _, hs, prepared, by simp [dependencies], hfollowed, resolved,
      inner.passes⟩

/-- The first module of the trail is the one that the cause came from. -/
lemma raises (h : Breaks (providers config registry) env id g s trail cause s')
    (hs : Passes env s₀ s) :
    ∃ first, trail.head? = some first ∧
      RaisesWithin (providers config registry) env s₀ s' first cause := by
  induction h with
  | prepare new raised => exact ⟨_, rfl, _, hs, .inl raised⟩
  | resolve new prepared dependencies followed raised =>
    exact ⟨_, rfl, _, hs, .inr ⟨_, _, _, _, _, prepared, by simp [dependencies],
      (followImports_passes _ _ _ _).of_run followed, raised⟩⟩
  | deeper new prepared dependencies followed resolved inner ih =>
    obtain ⟨first, hfirst, hraises⟩ := ih (IsTrans.trans _ _ _ hs (IsTrans.trans _ _ _
      ((prepare_passes _).of_run prepared) (IsTrans.trans _ _ _
        ((followImports_passes _ _ _ _).of_run followed)
        ((resolveImport_passes _ _).of_run resolved))))
    exact ⟨first, by rw [List.head?_append, hfirst, Option.some_or], hraises⟩

end Breaks

end Pass

/-! ## Passes -/

/-- The trail of a pass that fails goes from the module that the cause came from out to the entry,
without a module twice; each of its modules imports the one in front of it by a dependency that was
resolved in the pass. Whatever modules are around a cause, the class and the text of the failure and
the first line of its report are those of the cause. -/
theorem trail_of_failure (env : Environment) (source : String) :
    (∀ s s' e, bundle source env s = (.error (.failed e), s') →
      let chain := providers env.config (passFiles env source s)
      e.trail.Nodup ∧ e.trail.getLast? = some entryId ∧
        (e.trail.IsChain fun target id => Pass.ImportsWithin chain env s s' id target) ∧
        ∃ first, e.trail.head? = some first ∧ Pass.RaisesWithin chain env s s' first e.root) ∧
    ∀ e : BundleError, (∀ id inner, e.root ≠ .inModule id inner) ∧ e.kind = e.root.kind ∧
      e.text = e.root.text ∧
      BundleError.firstLine e.report = BundleError.firstLine ("Error: " ++ e.root.text) := by
  refine ⟨fun s s' e h => ?_, fun e => ⟨e.root_isCause, e.kind_root.symm, e.text_root.symm,
    e.firstLine_report⟩⟩
  rcases run_bind_eq_error.mp h with hgraph | ⟨g, s₁, -, hlink⟩
  · have hvisit : buildGraphWithin env.importDepth source env s = (.error (.failed e), s') := hgraph
    rw [run_buildGraphWithin] at hvisit
    have hbreaks := Pass.exists_breaks hvisit
    have hreset : Passes env s (Session.Event.stylesForgotten.apply s) :=
      .of_event True.intro True.intro
    exact ⟨hbreaks.nodup, hbreaks.getLast?_eq, hbreaks.imports hreset, hbreaks.raises hreset⟩
  · cases hlink

/-- A script imports a module that comes from another place; its neighbour there is missing. -/
theorem trail_of_failure_redirected :
    let env := Relay.environment
    let s : Session := .start .empty
    let chain := providers env.config (passFiles env Relay.source s)
    (bundle Relay.source env s).1 = .error (.failed Relay.failure) ∧
      Relay.failure.trail = [Relay.neighbour, Relay.url, entryId] ∧
      Pass.ImportsWithin chain env s Relay.session entryId Relay.url ∧
      Pass.ImportsWithin chain env s Relay.session Relay.url Relay.neighbour ∧
      Pass.RaisesWithin chain env s Relay.session Relay.neighbour
        (.httpStatus Relay.neighbour 404 "Not Found") := by
  intro env s chain
  have hfail : (bundle Relay.source env s).1 = .error (.failed Relay.failure) := by decide +kernel
  obtain ⟨-, -, hchain, first, hfirst, hraises⟩ := (trail_of_failure env Relay.source).1 s
    Relay.session Relay.failure (Prod.ext hfail (by rw [Relay.session]))
  have htrail : Relay.failure.trail = [Relay.neighbour, Relay.url, entryId] := rfl
  rw [htrail] at hchain hfirst
  obtain rfl : Relay.neighbour = first := Option.some.inj hfirst
  obtain ⟨hneighbour, hurl⟩ := List.isChain_cons_cons.mp hchain
  exact ⟨hfail, htrail, (List.isChain_cons_cons.mp hurl).1, hneighbour, hraises⟩

end LiveBundle
