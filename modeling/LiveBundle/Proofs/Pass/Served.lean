import LiveBundle.Proofs.Pass.Depth
import LiveBundle.Proofs.Routing

/-!
# Every module of a pass has content

A pass goes from module to module by the answers that it gets for imports. What is answered has
content, so a pass may fail in many ways, but not because nobody has the content of a module.

* `Session.Retains`: what is known of a module that was loaded stays;
* `Pass.visit_fails`: a visit does not fail for want of content;
* `routing_complete`: which imports are answered, that the answers have content, and what an import
  of a package comes to.
-/

namespace LiveBundle

open Session (Event Course Passes)

variable {env : Environment} {registry : Registry} {s s' : Session} {id : String}

/-! ## What is known of loaded modules -/

/-- Everything that is known of the modules that were loaded stays. -/
def Session.Retains (s s' : Session) : Prop :=
  ∀ id, (s.contents.get? id).isSome → (s'.contents.get? id).isSome ∧
    s'.redirects.get? id = s.redirects.get? id

namespace Session

lemma Retains.trans {s'' : Session} (h : s.Retains s') (h' : s'.Retains s'') : s.Retains s'' := by
  intro id hid
  obtain ⟨hid', hredirect⟩ := h id hid
  obtain ⟨hid'', hredirect'⟩ := h' id hid'
  exact ⟨hid'', hredirect'.trans hredirect⟩

/-- A text is asked for only if it is not kept. -/
lemma Event.retains {e : Event} (happens : e.Happens env s) : s.Retains (e.apply s) := by
  intro id hid
  have hne : ∀ answer, e ≠ .loaded id answer := by
    rintro answer rfl
    rw [happens.2.1] at hid
    cases hid
  obtain ⟨hcontents, hredirects⟩ := Event.apply_of_ne hne s
  exact ⟨hcontents ▸ hid, hredirects⟩

lemma Passes.retains (h : Passes env s s') : s.Retains s' := by
  obtain ⟨events, -, h⟩ := h
  induction h with
  | nil => exact fun _ hid => ⟨hid, rfl⟩
  | cons happens _ ih => exact (Event.retains happens).trans ih

end Session

/-- A text that was loaded is kept. -/
lemma Remote.kept_of_load {text : String} (hremote : Specifier.isRemote id = true)
    (h : load id env s = (.ok (some text), s')) : s'.contents.get? id = some text := by
  cases hkept : s.contents.get? id with
  | some kept =>
    rw [load_of_kept hremote hkept] at h
    cases h
    exact hkept
  | none =>
    rw [load_of_new hremote hkept] at h
    obtain ⟨htext, rfl⟩ := Prod.mk.inj h
    cases hanswer : env.network s.requests id with
    | error fault =>
      rw [hanswer] at htext
      cases htext
    | ok r =>
      rw [hanswer, textOf] at htext
      rw [Event.apply, Event.receive_contents]
      cases hsuccess : r.isSuccess with
      | true =>
        rw [hsuccess] at htext
        cases htext
        rfl
      | false =>
        rw [hsuccess] at htext
        cases htext

/-- A remote module that was prepared is kept. -/
lemma Pass.kept_of_prepare {config : Config} {r : String × ModuleSyntax}
    (hremote : Specifier.isRemote id = true)
    (h : prepare (providers config registry) id env s = (.ok r, s')) :
    (s'.contents.get? id).isSome := by
  obtain ⟨source, s₁, hload, htransform, -⟩ := prepare_eq_ok.mp h
  -- Nobody but the provider of packages has loaded it.
  rw [load_remote hremote, Chain.load, Action.run_bind_eq_ok] at hload
  obtain ⟨found, s₂, hfound, hload⟩ := hload
  cases found with
  | none => exact absurd (congrArg Prod.fst hfound) (Remote.load_ne_none hremote s)
  | some text =>
    cases hload
    have hpasses : Passes env s₁ s' :=
      (moves_transform (fun _ _ => .of_event True.intro True.intro) source id).of_run htransform
    refine (hpasses.retains id ?_).1
    rw [Remote.kept_of_load hremote hfound]
    rfl

/-! ## Failures of a pass -/

/-- The failure is not that nobody had the content of a module. -/
def BundleError.NotUnloaded (e : BundleError) : Prop := ∀ id, e.root ≠ .unloaded id

namespace BundleError

variable {e : BundleError} {specifier : String}

lemma IsResolve.notUnloaded (h : e.IsResolve specifier) : e.NotUnloaded := by
  obtain ⟨cause, rfl⟩ := h
  exact fun id h => by cases h

lemma IsFetch.notUnloaded (h : e.IsFetch id) : e.NotUnloaded := by
  obtain ⟨cause, rfl⟩ | ⟨status, reason, rfl⟩ := h <;> exact fun id h => by cases h

lemma IsCompile.notUnloaded (h : e.IsCompile) : e.NotUnloaded := by
  obtain ⟨diagnostic, rfl⟩ := h
  exact fun id h => by cases h

end BundleError

open LiveBundle.Action (FailsOnly failsOnly_pure failsOnly_fail failsOnly_bind run_bind_eq_error
  run_inModule_eq_failed)

namespace Pass

variable {config : Config}

/-- A module whose id has content is prepared, or fails in another way. -/
lemma prepare_fails (hid : Served id) :
    (prepare (providers config registry) id).FailsOnly (·.NotUnloaded) env := by
  refine failsOnly_bind ((load_fails config registry id).mono
    fun _ => BundleError.IsFetch.notUnloaded) fun {s loaded s₁} hload => ?_
  cases loaded with
  | none => exact absurd (congrArg Prod.fst hload) (hid.load_ne_none config registry env s)
  | some source =>
    refine FailsOnly.bind ((transform_fails config registry source id).mono
      fun _ => BundleError.IsCompile.notUnloaded) fun code => ?_
    cases ModuleSyntax.parse id code with
    | error d => exact failsOnly_fail (BundleError.IsCompile.notUnloaded ⟨d, rfl⟩)
    | ok syntax_ => exact failsOnly_pure _

lemma resolveImport_fails (specifier : String) :
    (resolveImport (providers config registry) id specifier).FailsOnly (·.NotUnloaded) env :=
  resolveImport_sequential Action.failsOnly_sequential (failsOnly_fail fun _ h => by cases h)
    ((resolve_fails config registry specifier (some id)).mono
      fun _ => BundleError.IsResolve.notUnloaded)

lemma followImports_passes (depth : Nat) (id : String) (specifiers : List String)
    (g : ModuleGraph) :
    (followImports (providers config registry) (visit (providers config registry) depth false) id
      specifiers g).Moves (Passes env) env :=
  followImports_moves (R := fun _ => Passes env) (visit_adds depth false) (fun _ h => h)
    (fun _ id specifier => resolveImport_passes id specifier) (visit_passes depth false) id
    specifiers g

/-- What a loaded module imports has content, if what is known of the module at the end is on the
web. -/
lemma served_of_resolveImport (hcdn : Specifier.isRemote env.config.cdnBase = true)
    (hkept : Specifier.isRemote id = true → (s.contents.get? id).isSome) {t : Session}
    (hpasses : Passes env s t) (hweb : t.OnWeb) {specifier target : String}
    (h : resolveImport (providers config registry) id specifier env s = (.ok target, s')) :
    Served target := by
  obtain ⟨found, s₁, hresolve, h⟩ := Action.run_bind_eq_ok.mp h
  cases found with
  | none => cases h
  | some found =>
    cases h
    refine resolve_served hcdn ?_ hresolve
    rintro i ⟨⟩ hremote final hfinal
    rw [← (hpasses.retains id (hkept hremote)).2] at hfinal
    exact hweb id final hfinal

/-- Following the imports of a loaded module does not fail for want of content, when visits do
not. -/
lemma followImports_fails (hcdn : Specifier.isRemote env.config.cdnBase = true) {depth : Nat}
    (hvisit : ∀ {target g s e}, Served target →
      visit (providers config registry) depth false target g env s = (.error (.failed e), s') →
      e.NotUnloaded)
    {specifiers : List String} {g : ModuleGraph} {e : BundleError}
    (hkept : Specifier.isRemote id = true → (s.contents.get? id).isSome) (hweb : s'.OnWeb)
    (h : followImports (providers config registry)
      (visit (providers config registry) depth false) id specifiers g env s =
        (.error (.failed e), s')) : e.NotUnloaded := by
  induction specifiers generalizing g s with
  | nil => cases h
  | cons specifier rest ih =>
    have hpasses : Passes env s s' := (followImports_passes depth id _ g).of_run h
    rcases run_bind_eq_error.mp h with hresolve | ⟨target, s₁, hresolve, hrest⟩
    · obtain ⟨_, ⟨⟩, he⟩ := resolveImport_fails specifier _ _ _ hresolve
      exact he
    · rcases run_bind_eq_error.mp hrest with hfail | ⟨g₁, s₂, hvisited, hrest⟩
      · exact hvisit (served_of_resolveImport hcdn hkept hpasses hweb hresolve) hfail
      · -- The module is still kept after the visit.
        have hthere : Passes env s s₂ := IsTrans.trans _ _ _
          ((resolveImport_passes id specifier).of_run hresolve)
          ((visit_passes depth false target g).of_run hvisited)
        exact ih (fun hremote => (hthere.retains id (hkept hremote)).1) hrest

/-- A visit of a module whose id has content does not fail for want of content. -/
theorem visit_fails (hcdn : Specifier.isRemote env.config.cdnBase = true) (depth : Nat)
    {isEntry : Bool} {g : ModuleGraph} {e : BundleError} (hid : Served id) (hweb : s'.OnWeb)
    (h : visit (providers config registry) depth isEntry id g env s = (.error (.failed e), s')) :
    e.NotUnloaded := by
  induction depth generalizing isEntry id g s e with
  | zero =>
    rw [visit] at h
    split at h <;> cases h
  | succ depth ih =>
    rw [visit] at h
    split at h
    · cases h
    · obtain ⟨inner, rfl, hinner⟩ := run_inModule_eq_failed.mp h
      -- Noting the module keeps the root of the failure.
      show inner.NotUnloaded
      rcases run_bind_eq_error.mp hinner with hprepare | ⟨⟨code, syntax_⟩, s₁, hprepare, hfollow⟩
      · obtain ⟨_, ⟨⟩, he⟩ := prepare_fails hid _ _ _ hprepare
        exact he
      · exact followImports_fails hcdn (fun hid h => ih hid h)
          (fun hremote => kept_of_prepare hremote hprepare) hweb hfollow

end Pass

/-- No pass fails because nobody has the content of a module. -/
theorem bundle_fails (hcdn : Specifier.isRemote env.config.cdnBase = true) {source : String}
    {e : BundleError} (hweb : s'.OnWeb) (h : bundle source env s = (.error (.failed e), s')) :
    e.NotUnloaded := by
  rcases run_bind_eq_error.mp h with hgraph | ⟨g, s₁, -, hlink⟩
  · have hvisit : buildGraphWithin env.importDepth source env s = (.error (.failed e), s') := hgraph
    rw [run_buildGraphWithin] at hvisit
    exact Pass.visit_fails hcdn env.importDepth (.file entryPath) hweb hvisit
  · cases hlink

/-! ## All imports -/

/-- Nobody answers for an import if and only if it is no stylesheet, not the facade and no id of a
file, and is addressed with `virtual:` or is a path that does not lead from a file to a file. As
long as the network stays on the web, whatever is answered has content in every session, so no pass
fails for want of it. An import of a package whose entry point is not known becomes a stub when the
description is missing, and fails when it cannot be had or read. -/
theorem routing_complete (env : Environment) (registry : Registry) :
    (∀ specifier importer s,
      (Chain.resolve (providers env.config registry) specifier importer env s).1 = .ok none ↔
        Specifier.isStylesheet specifier = false ∧ specifier ≠ env.config.facade.specifier ∧
        Text.hasPrefix Specifier.filePrefix specifier = false ∧
        (Text.hasPrefix "virtual:" specifier = true ∨
          Specifier.isRelative specifier = true ∧ importer.any Specifier.isRemote = false ∧
            (importer.bind Specifier.filePath?).bind (Path.resolve · specifier) = none)) ∧
    (Specifier.isRemote env.config.cdnBase = true →
      (∀ specifier importer id s s', s.OnWeb →
        Chain.resolve (providers env.config registry) specifier importer env s =
          (.ok (some id), s') →
        ∀ t, (Chain.load (providers env.config registry) id env t).1 ≠ .ok none) ∧
      ∀ source e s s', s'.OnWeb → bundle source env s = (.error (.failed e), s') →
        ∀ id, e.root ≠ .unloaded id) ∧
    ∀ specifier importer package s,
      NamesPackage env.config.facade specifier importer package → package.subpath = none →
      s.entryPoints.get? package.cacheKey = none →
      let url := package.baseUrl env.config.cdnBase ++ "/package.json"
      let resolved := (Chain.resolve (providers env.config registry) specifier importer env s).1
      let failed := fun cause => Except.error (.failed (.resolve specifier cause))
      (∀ r, env.network s.requests url = .ok r → r.status = 404 →
        resolved = .ok (some (stubPrefix ++ specifier))) ∧
      (∀ fault, env.network s.requests url = .error fault → resolved = failed fault.message) ∧
      (∀ r, env.network s.requests url = .ok r → r.status ≠ 404 → r.isSuccess = false →
        resolved = failed (url ++ " returned " ++ toString r.status ++ " " ++ r.reason)) ∧
      ∀ r fault, env.network s.requests url = .ok r → r.isSuccess = true →
        Manifest.decode r.body = .error fault →
        resolved = failed ("invalid package.json: " ++ fault.message r.body) := by
  refine ⟨fun specifier importer s => resolve_eq_none_iff, fun hcdn => ⟨?_, ?_⟩, ?_⟩
  · intro specifier importer id s s' hweb h t
    have hserved : Served id := resolve_served hcdn (fun i _ _ => hweb i) h
    exact hserved.load_ne_none env.config registry env t
  · exact fun source e s s' hweb h => bundle_fails hcdn hweb h
  · intro specifier importer package s hnames hsubpath hnew url resolved failed
    have hresolved : resolved = _ := congrArg Prod.fst (hnames.resolve_eq hsubpath hnew)
    rw [hresolved]
    refine ⟨fun r hr hstatus => ?_, fun fault hr => ?_, fun r hr hstatus hsuccess => ?_,
      fun r fault hr hsuccess hdecode => ?_⟩
    · simp [Remote.entryPointOf, url, hr, hstatus, Except.map]
    · simp [Remote.entryPointOf, url, hr, failed, Except.map]
    · simp [Remote.entryPointOf, url, hr, hstatus, hsuccess, failed, Except.map]
    · have hstatus : r.status ≠ 404 := Remote.status_ne_of_isSuccess hsuccess
      simp [Remote.entryPointOf, url, hr, hstatus, hsuccess, hdecode, failed, Except.map]

namespace Relay

/-- The URL of a module. -/
def url : String := "https://unpkg.com/one@1.0.0/index.js"

/-- The place that it comes from. -/
def place : String := "https://unpkg.com/one@2.0.0/lib/index.js"

/-- A module next to it there. -/
def neighbour : String := "https://unpkg.com/one@2.0.0/lib/two.js"

/-- The network has one module, at another place than it is asked for. -/
def environment : Environment :=
  { config := {}, styleCompiler := .ok
    network := fun _ asked => .ok <|
      if asked = url then ⟨place, 200, "OK", "import './two.js';"⟩
      else ⟨asked, 404, "Not Found", ""⟩ }

/-- The providers of a pass without a library. -/
def chain : List (Provider Action) := providers environment.config .empty

/-- The script that imports the module. -/
def source : String := "import 'https://unpkg.com/one@1.0.0/index.js';"

/-- The failure of its pass. -/
def failure : BundleError :=
  .inModule entryId (.inModule url (.inModule neighbour (.httpStatus neighbour 404 "Not Found")))

/-- The session after its pass. -/
def session : Session := (bundle source environment (Session.start .empty)).2

lemma session_onWeb : session.OnWeb := by
  have hentries : session.redirects.entries = [(url, place)] := by decide +kernel
  intro asked final h
  rw [Dict.get?, hentries, Dict.lookup] at h
  split at h
  · cases h
    decide
  · cases h

end Relay

/-- A module that comes from another place than it was asked for imports its neighbour there, which
is not to be had; a script imports a path above the root, and a package that does not exist. -/
theorem routing_complete_redirected :
    (Chain.resolve Relay.chain "../x.js" (some entryId) Relay.environment (.start .empty)).1 =
        .ok none ∧
      (Chain.resolve Relay.chain "./two.js" (some Relay.url) Relay.environment Relay.session).1 =
        .ok (some Relay.neighbour) ∧
      (∀ t, (Chain.load Relay.chain Relay.neighbour Relay.environment t).1 ≠ .ok none) ∧
      (bundle Relay.source Relay.environment (Session.start .empty)).1 =
        .error (.failed Relay.failure) ∧
      (∀ id, Relay.failure.root ≠ .unloaded id) ∧
      (Chain.resolve Relay.chain "gone" (some entryId) Relay.environment (.start .empty)).1 =
        .ok (some "\x00empty:gone") := by
  obtain ⟨hnone, hserved, hpackage⟩ := routing_complete Relay.environment .empty
  obtain ⟨hload, hpass⟩ := hserved (by decide +kernel)
  have htwo : (Chain.resolve Relay.chain "./two.js" (some Relay.url) Relay.environment
      Relay.session).1 = .ok (some Relay.neighbour) := by decide +kernel
  have hfail : (bundle Relay.source Relay.environment (Session.start .empty)).1 =
      .error (.failed Relay.failure) := by decide +kernel
  have hgone : NamesPackage Relay.environment.config.facade "gone" (some entryId)
      ⟨"gone", "latest", none⟩ :=
    ⟨by decide +kernel, by decide +kernel, by decide +kernel, by decide +kernel, by decide +kernel,
      by decide +kernel, by decide +kernel⟩
  refine ⟨(hnone _ _ _).mpr (by decide +kernel), htwo, ?_, hfail, ?_, ?_⟩
  · rcases hrun : Chain.resolve Relay.chain "./two.js" (some Relay.url) Relay.environment
        Relay.session with ⟨outcome, s'⟩
    rw [hrun] at htwo
    subst htwo
    exact hload _ _ _ _ _ Relay.session_onWeb hrun
  · have hrun : bundle Relay.source Relay.environment (Session.start .empty) =
        (.error (.failed Relay.failure), Relay.session) := Prod.ext hfail (by rw [Relay.session])
    exact hpass Relay.source Relay.failure _ Relay.session Relay.session_onWeb hrun
  · exact (hpackage _ _ _ (.start .empty) hgone rfl rfl).1
      ⟨"https://unpkg.com/gone@latest/package.json", 404, "Not Found", ""⟩ (by decide +kernel) rfl

end LiveBundle
