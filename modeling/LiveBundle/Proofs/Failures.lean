import LiveBundle.Proofs.Sequence

/-!
# How the steps of a pass fail

Each hook of the providers fails in ways of its own: names with the entry points of packages,
contents with the network, changes with what does not compile. None of them is ever cut off, as
visits are.

* `Action.FailsOnly` says which failures an action can stop with;
* `resolve_fails`, `load_fails`, `transform_fails` do so for the three hooks of the chain of a pass.
-/

namespace LiveBundle

variable {env : Environment} {α β : Type}

/-- The action stops in no other way than with such a failure. -/
def Action.FailsOnly (P : BundleError → Prop) (env : Environment) (x : Action α) : Prop :=
  ∀ s h s', x env s = (.error h, s') → ∃ e, h = .failed e ∧ P e

namespace Action

variable {P P' : BundleError → Prop} {x : Action α} {f : α → Action β}

/-- Failures may be described less exactly. -/
lemma FailsOnly.mono (h : x.FailsOnly P env) (hP : ∀ e, P e → P' e) : x.FailsOnly P' env := by
  intro s halt s' hx
  obtain ⟨e, rfl, he⟩ := h s halt s' hx
  exact ⟨e, rfl, hP e he⟩

/-- An action that succeeds has no failures. -/
lemma FailsOnly.of_ok (h : ∀ s, ∃ a s', x env s = (.ok a, s')) : x.FailsOnly P env := by
  intro s halt s' hx
  obtain ⟨a, s'', hok⟩ := h s
  rw [hx] at hok
  cases hok

/-- What gives a value does not fail. -/
lemma failsOnly_pure (a : α) : (Pure.pure a : Action α).FailsOnly P env :=
  .of_ok fun s => ⟨a, s, rfl⟩

/-- A failure is the one that is raised. -/
lemma failsOnly_fail {e : BundleError} (he : P e) : (fail e : Action α).FailsOnly P env := by
  rintro s halt s' ⟨⟩
  exact ⟨e, rfl, he⟩

/-- A result that is at hand fails as it says. -/
lemma failsOnly_ofExcept {r : Except BundleError α} (h : ∀ e, r = .error e → P e) :
    (ofExcept r).FailsOnly P env := by
  cases r with
  | error e => exact failsOnly_fail (h e rfl)
  | ok a => exact failsOnly_pure a

/-- The second action is looked at only for values that the first one gives. -/
lemma failsOnly_bind (hx : x.FailsOnly P env)
    (hf : ∀ {s a s'}, x env s = (.ok a, s') → (f a).FailsOnly P env) :
    (x >>= f).FailsOnly P env := by
  intro s halt s' h
  rcases hrun : x env s with ⟨halt' | a, s₁⟩
  · rw [run_bind_of_error hrun] at h
    cases h
    exact hx _ _ _ hrun
  · rw [run_bind_of_ok hrun] at h
    exact hf hrun _ _ _ h

/-- Two steps fail as one of them does. -/
lemma FailsOnly.bind (hx : x.FailsOnly P env) (hf : ∀ a, (f a).FailsOnly P env) :
    (x >>= f).FailsOnly P env :=
  failsOnly_bind hx fun {_ a _} _ => hf a

/-- Two actions stop early when the first one does, or the second one does from there. -/
lemma run_bind_eq_error {h : Halt} {s s' : Session} : (x >>= f) env s = (.error h, s') ↔
    x env s = (.error h, s') ∨ ∃ a s₁, x env s = (.ok a, s₁) ∧ f a env s₁ = (.error h, s') := by
  rcases hrun : x env s with ⟨halt | a, s₁⟩
  · rw [run_bind_of_error hrun]
    simp
  · rw [run_bind_of_ok hrun]
    refine ⟨fun hf => .inr ⟨a, s₁, rfl, hf⟩, ?_⟩
    rintro (⟨⟨⟩⟩ | ⟨a, s₁, ⟨⟩, hf⟩)
    exact hf

/-- A failure on behalf of a module is one of the action with the module noted. -/
lemma run_inModule_eq_failed {id : String} {e : BundleError} {s s' : Session} :
    inModule id x env s = (.error (.failed e), s') ↔
      ∃ inner, e = .inModule id inner ∧ x env s = (.error (.failed inner), s') := by
  unfold inModule
  rcases x env s with ⟨(inner | _) | _, s₁⟩
  · constructor
    · rintro ⟨⟩
      exact ⟨inner, rfl, rfl⟩
    · rintro ⟨inner, rfl, ⟨⟩⟩
      rfl
  · simp
  · simp

/-- The property passes through what runs step after step. -/
lemma failsOnly_sequential : Sequential fun _ x => FailsOnly P env x :=
  ⟨failsOnly_pure, .bind⟩

lemma failsOnly_modify (g : Session → Session) : (modify g).FailsOnly P env :=
  .of_ok fun s => ⟨(), g s, rfl⟩

lemma failsOnly_environment : environment.FailsOnly P env := .of_ok fun s => ⟨env, s, rfl⟩

lemma failsOnly_session : session.FailsOnly P env := .of_ok fun s => ⟨s, s, rfl⟩

lemma failsOnly_fetch (url : String) : (fetch url).FailsOnly P env := .of_ok fun _ => ⟨_, _, rfl⟩

end Action

open LiveBundle.Action hiding pure bind

/-! ## Names -/

/-- The failure is about what a specifier means. -/
def BundleError.IsResolve (specifier : String) (e : BundleError) : Prop :=
  ∃ cause, e = .resolve specifier cause

/-- The failure is about the response to the request for a URL. -/
def BundleError.IsFetch (url : String) (e : BundleError) : Prop :=
  (∃ cause, e = .fetch url cause) ∨ ∃ status reason, e = .httpStatus url status reason

/-- Something does not compile. -/
def BundleError.IsCompile (e : BundleError) : Prop := ∃ diagnostic, e = .compile diagnostic

namespace Remote

/-- Following an import fails only as resolving its specifier does. -/
lemma follow_fails (specifier importer : String) :
    (follow specifier importer).FailsOnly (·.IsResolve specifier) env := by
  refine failsOnly_session.bind fun s => ?_
  simp only
  split
  · exact failsOnly_pure _
  · exact failsOnly_fail ⟨_, rfl⟩

/-- Looking for an entry point fails only as resolving does. -/
lemma entryPoint_fails (package : Package) (specifier : String) :
    (entryPoint package specifier).FailsOnly (·.IsResolve specifier) env := by
  refine failsOnly_session.bind fun s => ?_
  cases s.entryPoints.get? package.cacheKey with
  | some entry => exact failsOnly_pure _
  | none =>
    refine failsOnly_environment.bind fun _ => (failsOnly_fetch _).bind fun answer => ?_
    cases answer with
    | error fault => exact failsOnly_fail ⟨_, rfl⟩
    | ok response =>
      simp only
      split
      · exact failsOnly_pure _
      · split
        · exact failsOnly_fail ⟨_, rfl⟩
        · split
          · exact failsOnly_fail ⟨_, rfl⟩
          · exact (failsOnly_modify _).bind fun _ => failsOnly_pure _

/-- A request fails only as fetching its URL does. -/
lemma request_fails (url : String) : (request url).FailsOnly (·.IsFetch url) env := by
  refine (failsOnly_fetch url).bind fun answer => ?_
  cases answer with
  | error fault => exact failsOnly_fail (.inl ⟨_, rfl⟩)
  | ok response =>
    refine FailsOnly.bind ?_ fun _ => ?_
    · unfold noteRedirect
      split
      · exact failsOnly_pure _
      · exact failsOnly_modify _
    · split
      · exact (failsOnly_modify _).bind fun _ => failsOnly_pure _
      · exact failsOnly_fail (.inr ⟨_, _, rfl⟩)

/-- Loading a remote module fails only as fetching it does. -/
lemma load_fails (id : String) : (load id).FailsOnly (·.IsFetch id) env := by
  unfold load
  split
  · refine failsOnly_session.bind fun s => ?_
    cases s.contents.get? id with
    | some content => exact failsOnly_pure _
    | none => exact (request_fails id).bind fun _ => failsOnly_pure _
  · exact failsOnly_pure _

end Remote

/-- A library file fails only to compile. -/
lemma LibraryFile.transform_fails {registry : Registry} {code id : String} {e : BundleError}
    (h : LibraryFile.transform registry code id = .error e) : e.IsCompile := by
  unfold LibraryFile.transform at h
  split at h
  · cases h
  · split at h
    · cases h
    · split at h
      · split at h
        · cases h
        · cases h
          exact ⟨_, rfl⟩
      · cases h

/-! ## The chain of a pass -/

variable (config : Config) (registry : Registry)

/-- Naming a module fails with the package. -/
lemma resolve_fails (specifier : String) (importer : Option String) :
    (Chain.resolve (providers config registry) specifier importer).FailsOnly
      (·.IsResolve specifier) env := by
  refine Chain.resolve_sequential failsOnly_sequential ?_
  simp only [providers, List.forall_mem_cons]
  refine ⟨failsOnly_pure _, failsOnly_pure _, failsOnly_pure _, ?_, failsOnly_pure _,
    fun _ h => absurd h List.not_mem_nil⟩
  exact Remote.resolve_sequential failsOnly_sequential failsOnly_environment
    (fun id _ _ => Remote.follow_fails specifier id) fun package =>
    Remote.entryPoint_fails package specifier

/-- Loading a module fails with the request for it. -/
lemma load_fails (id : String) :
    (Chain.load (providers config registry) id).FailsOnly (·.IsFetch id) env := by
  refine Chain.load_sequential failsOnly_sequential ?_
  simp only [providers, List.forall_mem_cons]
  exact ⟨failsOnly_pure _, failsOnly_pure _, failsOnly_pure _, Remote.load_fails id,
    failsOnly_pure _, fun _ h => absurd h List.not_mem_nil⟩

/-- Changing a module fails with what does not compile. -/
lemma transform_fails (code id : String) :
    (Chain.transform (providers config registry) code id).FailsOnly (·.IsCompile) env := by
  refine Chain.transform_sequential failsOnly_sequential ?_ code
  simp only [providers, List.forall_mem_cons]
  refine ⟨fun _ => failsOnly_pure _,
    fun _ => failsOnly_ofExcept fun _ => LibraryFile.transform_fails, fun code => ?_,
    fun _ => failsOnly_pure _, fun _ => failsOnly_pure _, fun _ h => absurd h List.not_mem_nil⟩
  exact componentProvider_sequential failsOnly_sequential code id failsOnly_environment
    (fun d => failsOnly_fail ⟨d, rfl⟩) fun _ => failsOnly_modify _

end LiveBundle
