import LiveBundle.Proofs.Chain
import LiveBundle.Proofs.Pass.Growth
import LiveBundle.Proofs.Session.Providers
import LiveBundle.Worker

/-!
# Caches do not show

With a network that always answers in the same way, what a session keeps of earlier passes makes no
difference to the outcome of a pass. A pass in which the caches answer and a pass that asks the
network for everything take the same steps: each step is determined, and what a step needs to know
of the session the steps before it have brought about.

* `Pass.prepare_knows`: a remote module that was prepared is known from then on, which is what
  following its imports relies on;
* `Pass.visit_determined`: a visit has one outcome in all faithful sessions, errors included;
* `Pass.faithful` is the invariant of the sessions of a pass;
* `compile_agree`: two faithful sessions with one registry give one outcome;
* `compile_faithful` and `Worker.handleAll_faithful`: whatever messages a worker handles, its
  session stays faithful;
* `compile_handleAll_eq_start`: after any messages, a source compiles as in a new session, and
  compiling it once more gives the same.
-/

namespace LiveBundle.Pass

open Web (RequestFault Response)
open LiveBundle.Action (Determined determined_pure determined_halt determined_sequential)

variable {answers : String → Except RequestFault Response} {env : Environment}
  {chain : List (Provider Action)} {registry : Registry} {s s' : Session}

/-! ## Preparing and resolving -/

lemma prepare_determined (h : ∀ p ∈ chain, p.Determined answers env) (id : String) :
    Determined answers env none (prepare chain id) :=
  prepare_sequential determined_sequential (fun _ => determined_halt _)
    (Chain.determined_load h id) fun code => Chain.determined_transform h code id

lemma resolveImport_determined (h : ∀ p ∈ chain, p.Determined answers env)
    (id specifier : String) :
    Determined answers env (some id) (resolveImport chain id specifier) :=
  resolveImport_sequential determined_sequential (determined_halt _)
    (Chain.determined_resolve h specifier (some id))

/-- A remote module that was prepared is known. -/
lemma prepare_knows (steady : env.network = .steady answers) {id : String}
    {r : String × ModuleSyntax} (hs : s.Faithful answers env.config.cdnBase)
    (h : prepare (providers env.config registry) id env s = (.ok r, s')) : s'.Knows (some id) := by
  intro id' hid' hremote
  obtain rfl : id = id' := Option.some.inj hid'
  obtain ⟨source, s₁, hload, htransform, -⟩ := prepare_eq_ok.mp h
  -- The text was loaded by the provider of packages, which keeps it.
  obtain ⟨s₂, hrun, hc₂, hknows⟩ := Remote.run_load steady hs hremote
  rw [load_remote hremote, Chain.load, Action.run_bind_eq_ok] at hload
  obtain ⟨found, s₃, hfound, hrest⟩ := hload
  obtain ⟨htext, rfl⟩ := Prod.mk.inj (hrun.symm.trans hfound)
  cases htextOf : Remote.textOf id (answers id) with
  | error halt =>
    rw [htextOf] at htext
    cases htext
  | ok content =>
    rw [htextOf] at htext
    obtain rfl : some content = found := Except.ok.inj htext
    obtain ⟨-, rfl⟩ := Prod.mk.inj hrest
    -- What is left of the preparation forgets nothing.
    obtain ⟨css, hc⟩ := (Chain.determined_transform (providers_determined steady registry) source
      id).continues hc₂.faithful s₂.knows_none htransform
    exact hc.knows (hknows htextOf) id rfl hremote

/-! ## Visits -/

lemma followImports_determined (h : ∀ p ∈ chain, p.Determined answers env)
    {visitor : String → ModuleGraph → Action ModuleGraph}
    (hv : ∀ target g, Determined answers env none (visitor target g)) (id : String)
    (specifiers : List String) (g : ModuleGraph) :
    Determined answers env (some id) (followImports chain visitor id specifiers g) := by
  induction specifiers generalizing g with
  | nil => exact determined_pure g
  | cons specifier rest ih =>
    refine (resolveImport_determined h id specifier).bind fun target => ?_
    exact (hv target g).mono.bind fun g' => ih (g'.resolve id specifier target)

/-- A visit has one outcome in all faithful sessions. -/
theorem visit_determined (steady : env.network = .steady answers) (depth : Nat) (isEntry : Bool)
    (id : String) (g : ModuleGraph) :
    Determined answers env none
      (visit (providers env.config registry) depth isEntry id g) := by
  have hchain := providers_determined steady registry
  induction depth generalizing isEntry id g with
  | zero =>
    rw [visit]
    split
    · exact determined_pure g
    · exact determined_halt _
  | succ depth ih =>
    rw [visit]
    split
    · exact determined_pure g
    · refine Determined.inModule ?_ id
      refine (prepare_determined hchain id).bind_knows (fun r => ?_)
        fun hs _ hrun => prepare_knows steady hs hrun
      exact followImports_determined hchain (fun target g => ih false target g) id _ _

/-- All through a pass sessions are faithful, and modules that were prepared are known. -/
def faithful (steady : env.network = .steady answers) (registry : Registry) :
    Invariant (providers env.config registry) env where
  Holds := fun s => s.Faithful answers env.config.cdnBase
  Ready := fun id s => s.Knows (some id)
  prepare := fun {id r s s'} hs h => by
    obtain ⟨css, hc⟩ := (prepare_determined (providers_determined steady registry) id).continues hs
      s.knows_none h
    exact ⟨hc.faithful, prepare_knows steady hs h, fun other ho => hc.knows ho⟩
  resolve := fun {id specifier r s s'} hs hready h => by
    obtain ⟨css, hc⟩ := (resolveImport_determined (providers_determined steady registry) id
      specifier).continues hs hready h
    exact ⟨hc.faithful, fun other ho => hc.knows ho⟩

end LiveBundle.Pass

namespace LiveBundle

open Web (RequestFault Response)

variable {answers : String → Except RequestFault Response} {env : Environment} {s t : Session}

/-! ## Passes in two sessions -/

/-- The pass of a source, as an action that depends on the session's registry only. -/
lemma bundle_determined (steady : env.network = .steady answers) (source : String)
    (registry : Registry) : Action.Determined answers env none (do
      let graph ← Pass.visit
        (providers env.config (registry.overlay (overlayEntries env source))) env.importDepth true
        entryId ModuleGraph.empty
      pure (link graph env.config.output.name)) :=
  (Pass.visit_determined steady env.importDepth true entryId ModuleGraph.empty).bind fun _ =>
    Action.determined_pure _

/-- A pass starts from the session without styles. -/
lemma run_bundle (source : String) (s : Session) :
    bundle source env s = (do
      let graph ← Pass.visit
        (providers env.config (s.registry.overlay (overlayEntries env source))) env.importDepth true
        entryId ModuleGraph.empty
      pure (link graph env.config.output.name) : Action String) env s.resetStyles := by
  unfold bundle
  rfl

/-- What is reported of a pass are its outcome and the styles in the session that it leaves. -/
lemma compile_fst (source : String) (s : Session) :
    (compile env source s).1 = match (bundle source env s).1 with
      | .ok code => .success code (bundle source env s).2.styles
      | .error h => .failure h.report := by
  rw [compile]
  rcases bundle source env s with ⟨_ | code, s'⟩ <;> rfl

/-- Two faithful sessions with one registry give one outcome, with the same styles. -/
theorem compile_agree (steady : env.network = .steady answers)
    (hs : s.Faithful answers env.config.cdnBase) (ht : t.Faithful answers env.config.cdnBase)
    (hregistry : s.registry = t.registry) (source : String) :
    (compile env source s).1 = (compile env source t).1 := by
  obtain ⟨houtcome, css, hcs, hct⟩ := (bundle_determined steady source s.registry).agree
    (s := s.resetStyles) (t := t.resetStyles) (hs.congr rfl rfl rfl) (ht.congr rfl rfl rfl)
    (Session.knows_none _) (Session.knows_none _)
  -- The action is the same for both sessions because the registries are.
  rw [← run_bundle] at houtcome hcs
  rw [hregistry, ← run_bundle] at houtcome hct
  have hstyles : (bundle source env s).2.styles = (bundle source env t).2.styles := by
    rw [hcs.styles, hct.styles]
    rfl
  rw [compile_fst, compile_fst, houtcome, hstyles]

/-- A pass keeps the session faithful, whether it succeeds or not, and leaves the registry. -/
lemma compile_faithful (steady : env.network = .steady answers)
    (hs : s.Faithful answers env.config.cdnBase) (source : String) :
    (compile env source s).2.Faithful answers env.config.cdnBase ∧
      (compile env source s).2.registry = s.registry := by
  obtain ⟨-, css, hc, -⟩ := (bundle_determined steady source s.registry).agree
    (s := s.resetStyles) (t := s.resetStyles) (hs.congr rfl rfl rfl) (hs.congr rfl rfl rfl)
    (Session.knows_none _) (Session.knows_none _)
  rw [← run_bundle] at hc
  rw [compile]
  generalize bundle source env s = run at hc
  rcases run with ⟨_ | code, s'⟩
  · exact ⟨hc.faithful, hc.registry⟩
  · exact ⟨hc.faithful.congr rfl rfl rfl, hc.registry⟩

/-! ## Workers -/

namespace Worker

/-- A message keeps the session faithful. -/
lemma handle_faithful (steady : env.network = .steady answers)
    (hs : s.Faithful answers env.config.cdnBase) (r : Request) :
    (handle env r s).2.Faithful answers env.config.cdnBase := by
  unfold handle
  split
  · exact hs.congr rfl rfl rfl
  · split
    · exact hs.congr rfl rfl rfl
    · simp only
      split
      · exact hs
      · exact (compile_faithful steady hs _).1

lemma handleText_faithful (steady : env.network = .steady answers)
    (hs : s.Faithful answers env.config.cdnBase) (text : String) :
    (handleText env text s).2.Faithful answers env.config.cdnBase := by
  unfold handleText
  split
  · exact hs
  · exact handle_faithful steady hs _

/-- Whatever messages are handled, the session stays faithful. -/
theorem handleAll_faithful (steady : env.network = .steady answers) (texts : List String)
    (hs : s.Faithful answers env.config.cdnBase) :
    (handleAll env texts s).2.Faithful answers env.config.cdnBase := by
  induction texts generalizing s with
  | nil => exact hs
  | cons text rest ih => exact ih (handleText_faithful steady hs text)

end Worker

/-- After any messages a source compiles as in a new session with the current registry, and
compiling it again gives the same. -/
theorem compile_handleAll_eq_start (steady : env.network = .steady answers) (registry : Registry)
    (texts : List String) (source : String) :
    let s := (Worker.handleAll env texts (Session.start registry)).2
    (compile env source s).1 = (compile env source (Session.start s.registry)).1 ∧
      (compile env source (compile env source s).2).1 = (compile env source s).1 := by
  intro s
  have hs : s.Faithful answers env.config.cdnBase :=
    Worker.handleAll_faithful steady texts (Session.Faithful.start registry)
  obtain ⟨hs', hregistry⟩ := compile_faithful steady hs source
  exact ⟨compile_agree steady hs (Session.Faithful.start s.registry) rfl source,
    compile_agree steady hs' hs hregistry source⟩

/-- A session that knows a redirected module compiles an import of it as a new session does. -/
theorem compile_handleAll_redirected :
    let env : Environment :=
      { config := {}, styleCompiler := .ok
        network := .steady fun url => .ok ⟨url ++ "/index.js", 200, "OK", "export default 1;"⟩ }
    let source := "import one from 'https://unpkg.com/one';"
    let s := (Worker.handleAll env ["\x7b\"code\": \"import 'https://unpkg.com/one';\"\x7d"]
      (Session.start .empty)).2
    s.redirects.isEmpty = false ∧
      (compile env source s).1 = (compile env source (Session.start s.registry)).1 ∧
      (compile env source (compile env source s).2).1 = (compile env source s).1 :=
  ⟨by decide +kernel, compile_handleAll_eq_start rfl _ _ _⟩

end LiveBundle
