import LiveBundle.Proofs.Sequence
import LiveBundle.Provider.Remote
import Mathlib.Tactic.Lemma

/-!
# Actions whose outcome does not depend on what a session keeps

A session keeps three kinds of answers: texts, entry points of packages, and the final URLs of
requests that were redirected. It is faithful to a network that always answers in the same way when
everything that it keeps is what the network answers. An action is determined when it has one
outcome, and adds the same styles, in every session that is faithful to the network. An action that
works for an importer may rely on the text of the importer having been fetched.

* `Session.Faithful` is the invariant; a new session has it. `Faithful.keepRedirect`,
  `Faithful.keepContent` and `Faithful.keepEntryPoint` are the three ways in which a session learns.
* `Session.Knows` says that the text of a remote module was fetched.
* `Session.Continues` is what any action of a pass does to a faithful session.
* `Action.Determined` is preserved by sequencing (`Determined.bind`) and by the chain of providers
  (`Chain.determined_resolve` and its companions).
-/

namespace LiveBundle

open Web (RequestFault Response)

/-! ## Faithful sessions -/

/-- What a session keeps is what the network answers; `base` is the base URL of packages. -/
structure Session.Faithful (answers : String → Except RequestFault Response) (base : String)
    (s : Session) : Prop where
  /-- A text came with success, and its URL is known to lead to where it came from. -/
  contents : ∀ {url text}, s.contents.get? url = some text →
    ∃ r, answers url = .ok r ∧ r.isSuccess = true ∧ r.body = text ∧
      (s.redirects.get? url).getD url = r.url
  /-- The status of a response does not matter here. -/
  redirects : ∀ {url final}, s.redirects.get? url = some final →
    ∃ r, answers url = .ok r ∧ r.url = final
  entryPoints : ∀ {package : Package} {entry}, s.entryPoints.get? package.cacheKey = some entry →
    ∃ r manifest, answers (package.baseUrl base ++ "/package.json") = .ok r ∧
      r.isSuccess = true ∧ Manifest.decode r.body = .ok manifest ∧ manifest.entryPoint = entry

/-- The text of the importer was fetched, if the importer is a remote module. -/
def Session.Knows (s : Session) (importer : Option String) : Prop :=
  ∀ id ∈ importer, Specifier.isRemote id = true → (s.contents.get? id).isSome

namespace Session

variable {answers : String → Except RequestFault Response} {base url : String} {s t : Session}
  {r : Response}

@[simp] lemma knows_none (s : Session) : s.Knows none := fun _ h => absurd h (by simp)

/-- A new session keeps nothing. -/
lemma Faithful.start (registry : Registry) : (Session.start registry).Faithful answers base :=
  ⟨fun h => absurd h (by simp [Session.start]), fun h => absurd h (by simp [Session.start]),
    fun h => absurd h (by simp [Session.start])⟩

/-- Only what the session keeps of the network matters. -/
lemma Faithful.congr (h : s.Faithful answers base) (hcontents : t.contents = s.contents)
    (hredirects : t.redirects = s.redirects) (hentryPoints : t.entryPoints = s.entryPoints) :
    t.Faithful answers base := by
  refine ⟨?_, ?_, ?_⟩
  · rw [hcontents, hredirects]
    exact h.contents
  · rw [hredirects]
    exact h.redirects
  · rw [hentryPoints]
    exact h.entryPoints

/-- The final URL of a response may be kept, whatever its status. -/
lemma Faithful.keepRedirect (h : s.Faithful answers base) (hr : answers url = .ok r) :
    (s.keepRedirect url r.url).Faithful answers base := by
  refine ⟨?_, ?_, h.entryPoints⟩
  · intro url' text htext
    obtain ⟨r', hr', hsuccess, hbody, hurl⟩ := h.contents htext
    refine ⟨r', hr', hsuccess, hbody, ?_⟩
    rw [Session.keepRedirect, Dict.get?_insert]
    by_cases heq : url = url'
    · -- The text was in the answer that the redirect is taken from.
      subst heq
      rw [if_pos rfl, Option.getD_some]
      rw [hr] at hr'
      rw [Except.ok.inj hr']
    · rw [if_neg heq]
      exact hurl
  · intro url' final hfinal
    rw [Session.keepRedirect, Dict.get?_insert] at hfinal
    by_cases heq : url = url'
    · subst heq
      rw [if_pos rfl] at hfinal
      exact ⟨r, hr, Option.some.inj hfinal⟩
    · rw [if_neg heq] at hfinal
      exact h.redirects hfinal

/-- The text of a response may be kept once a redirect is. -/
lemma Faithful.keepContent (h : s.Faithful answers base) (hr : answers url = .ok r)
    (hsuccess : r.isSuccess = true) (hurl : (s.redirects.get? url).getD url = r.url) :
    (s.keepContent url r.body).Faithful answers base := by
  refine ⟨?_, h.redirects, h.entryPoints⟩
  intro url' text htext
  rw [Session.keepContent, Dict.get?_insert] at htext
  by_cases heq : url = url'
  · subst heq
    rw [if_pos rfl] at htext
    exact ⟨r, hr, hsuccess, Option.some.inj htext, hurl⟩
  · rw [if_neg heq] at htext
    exact h.contents htext

/-- The entry point that a package description names may be kept. Packages with one key have one
description. -/
lemma Faithful.keepEntryPoint {package : Package} {manifest : Manifest}
    (h : s.Faithful answers base)
    (hr : answers (package.baseUrl base ++ "/package.json") = .ok r) (hsuccess : r.isSuccess = true)
    (hmanifest : Manifest.decode r.body = .ok manifest) :
    (s.keepEntryPoint package.cacheKey manifest.entryPoint).Faithful answers base := by
  refine ⟨h.contents, h.redirects, ?_⟩
  intro other entry hentry
  rw [Session.keepEntryPoint, Dict.get?_insert] at hentry
  -- Packages with one key have the URL of their description in common.
  by_cases heq : package.cacheKey = other.cacheKey
  · rw [if_pos heq] at hentry
    rw [Package.baseUrl, heq] at hr
    exact ⟨r, manifest, hr, hsuccess, hmanifest, Option.some.inj hentry⟩
  · rw [if_neg heq] at hentry
    exact h.entryPoints hentry

/-- Where a response came from is known once its final URL is kept, or need not be kept. -/
lemma Faithful.final_eq (h : s.Faithful answers base) (hr : answers url = .ok r)
    (hself : r.url = url) : (s.redirects.get? url).getD url = r.url := by
  cases hget : s.redirects.get? url with
  | none => exact hself.symm
  | some final =>
    obtain ⟨r', hr', hfinal⟩ := h.redirects hget
    rw [hr] at hr'
    rw [Option.getD_some, ← hfinal, Except.ok.inj hr']

end Session

variable {answers : String → Except RequestFault Response} {base : String}

/-! ## What actions leave as it is -/

/-- The session `s'` is `s` after more was learned and the styles `css` were added. -/
structure Session.Continues (answers : String → Except RequestFault Response) (base : String)
    (s s' : Session) (css : String) : Prop where
  faithful : s'.Faithful answers base
  registry : s'.registry = s.registry
  styles : s'.styles = s.styles ++ css
  contents : ∀ {url}, (s.contents.get? url).isSome → (s'.contents.get? url).isSome

namespace Session

variable {s s' s'' : Session} {css css' : String}

lemma Continues.refl (h : s.Faithful answers base) : s.Continues answers base s "" :=
  ⟨h, rfl, (String.append_empty).symm, fun h => h⟩

lemma Continues.trans (h : s.Continues answers base s' css)
    (h' : s'.Continues answers base s'' css') : s.Continues answers base s'' (css ++ css') :=
  ⟨h'.faithful, h'.registry.trans h.registry,
    by rw [h'.styles, h.styles, String.append_assoc], fun hurl => h'.contents (h.contents hurl)⟩

/-- What was fetched stays known. -/
lemma Continues.knows (h : s.Continues answers base s' css) {importer : Option String}
    (hs : s.Knows importer) : s'.Knows importer :=
  fun id hid hremote => h.contents (hs id hid hremote)

end Session

/-! ## Determined actions -/

variable {env : Environment} {importer : Option String} {α β : Type}

/-- The action has one outcome in all faithful sessions that know the importer. -/
def Action.Determined (answers : String → Except RequestFault Response) (env : Environment)
    (importer : Option String) (x : Action α) : Prop :=
  ∃ outcome css, ∀ s : Session, s.Faithful answers env.config.cdnBase → s.Knows importer →
    ∃ s', x env s = (outcome, s') ∧ s.Continues answers env.config.cdnBase s' css

namespace Action

variable {x : Action α} {f : α → Action β}

/-- Two faithful sessions give one outcome and one continuation of the styles. -/
lemma Determined.agree (h : Determined answers env importer x) {s t : Session}
    (hs : s.Faithful answers env.config.cdnBase) (ht : t.Faithful answers env.config.cdnBase)
    (hsk : s.Knows importer) (htk : t.Knows importer) :
    (x env s).1 = (x env t).1 ∧
      ∃ css, s.Continues answers env.config.cdnBase (x env s).2 css ∧
        t.Continues answers env.config.cdnBase (x env t).2 css := by
  obtain ⟨outcome, css, hrun⟩ := h
  obtain ⟨s', hs', hcs⟩ := hrun s hs hsk
  obtain ⟨t', ht', hct⟩ := hrun t ht htk
  rw [hs', ht']
  exact ⟨rfl, css, hcs, hct⟩

lemma Determined.continues (h : Determined answers env importer x) {s s' : Session}
    {outcome : Except Halt α} (hs : s.Faithful answers env.config.cdnBase)
    (hknows : s.Knows importer) (hx : x env s = (outcome, s')) :
    ∃ css, s.Continues answers env.config.cdnBase s' css := by
  obtain ⟨_, css, hrun⟩ := h
  obtain ⟨s₁, hs₁, hc⟩ := hrun s hs hknows
  obtain ⟨-, rfl⟩ := Prod.mk.inj (hx.symm.trans hs₁)
  exact ⟨css, hc⟩

/-- What is determined without an importer is determined with one. -/
lemma Determined.mono (h : Determined answers env none x) : Determined answers env importer x := by
  obtain ⟨outcome, css, hrun⟩ := h
  exact ⟨outcome, css, fun s hs _ => hrun s hs s.knows_none⟩

/-- An action that leaves the session as it is, with an outcome that does not depend on it. -/
lemma Determined.of_unchanged {outcome : Except Halt α} (h : ∀ s, x env s = (outcome, s)) :
    Determined answers env importer x :=
  ⟨outcome, "", fun s hs _ => ⟨s, h s, .refl hs⟩⟩

lemma determined_pure (a : α) : Determined answers env importer (Pure.pure a : Action α) :=
  .of_unchanged fun _ => rfl

lemma determined_halt (h : Halt) : Determined answers env importer (halt h : Action α) :=
  .of_unchanged fun _ => rfl

lemma determined_ofExcept (a : Except BundleError α) :
    Determined answers env importer (ofExcept a) := by
  cases a with
  | error e => exact determined_halt _
  | ok a => exact determined_pure a

/-- Styles are added in the same way to all sessions. -/
lemma determined_appendStyles (css : String) :
    Determined answers env importer (modify (·.appendStyles css)) :=
  ⟨.ok (), css, fun s hs _ => ⟨s.appendStyles css, rfl, hs.congr rfl rfl rfl, rfl, rfl, fun h => h⟩⟩

/-- The second action may rely on what the first one has fetched. -/
lemma Determined.bind_knows {known : Option String} (hx : Determined answers env importer x)
    (hf : ∀ a, Determined answers env known (f a))
    (hknown : ∀ {a s s'}, s.Faithful answers env.config.cdnBase → s.Knows importer →
      x env s = (.ok a, s') → s'.Knows known) :
    Determined answers env importer (x >>= f) := by
  obtain ⟨outcome, css, hrun⟩ := hx
  -- The outcome of the first action is the same in all sessions, so one case is left for all.
  cases outcome with
  | error h =>
    refine ⟨.error h, css, fun s hs hi => ?_⟩
    obtain ⟨s', hx, hc⟩ := hrun s hs hi
    exact ⟨s', run_bind_of_error hx, hc⟩
  | ok a =>
    obtain ⟨outcome, css', hrun'⟩ := hf a
    refine ⟨outcome, css ++ css', fun s hs hi => ?_⟩
    obtain ⟨s', hx, hc⟩ := hrun s hs hi
    obtain ⟨s'', hfa, hc'⟩ := hrun' s' hc.faithful (hknown hs hi hx)
    exact ⟨s'', (run_bind_of_ok hx).trans hfa, hc.trans hc'⟩

/-- One determined action after the other is determined. -/
lemma Determined.bind (hx : Determined answers env importer x)
    (hf : ∀ a, Determined answers env importer (f a)) :
    Determined answers env importer (x >>= f) :=
  hx.bind_knows hf fun hs hi hrun => by
    obtain ⟨css, hc⟩ := hx.continues hs hi hrun
    exact hc.knows hi

lemma determined_sequential : Sequential fun _ x => Determined answers env importer x :=
  ⟨determined_pure, .bind⟩

/-- Noting the module of an error keeps an action determined. -/
lemma Determined.inModule (hx : Determined answers env importer x) (id : String) :
    Determined answers env importer (inModule id x) := by
  obtain ⟨outcome, css, hrun⟩ := hx
  -- The error with its module does not depend on the session, so any session gives it.
  refine ⟨(Action.inModule id (fun _ s => (outcome, s)) env (.start .empty)).1, css,
    fun s hs hi => ?_⟩
  obtain ⟨s', hx, hc⟩ := hrun s hs hi
  refine ⟨s', ?_, hc⟩
  rw [Action.inModule, hx]
  rcases outcome with (_ | _) | _ <;> rfl

end Action

/-! ## Determined providers -/

/-- The hooks of the provider are determined; names may depend on the importer. -/
structure Provider.Determined (answers : String → Except RequestFault Response)
    (env : Environment) (p : Provider Action) : Prop where
  resolve : ∀ specifier importer,
    Action.Determined answers env importer (p.resolve specifier importer)
  load : ∀ id, Action.Determined answers env none (p.load id)
  transform : ∀ code id, Action.Determined answers env none (p.transform code id)

namespace Chain

open LiveBundle.Action

variable {chain : List (Provider Action)}

lemma determined_resolve (h : ∀ p ∈ chain, p.Determined answers env) (specifier : String)
    (importer : Option String) :
    Action.Determined answers env importer (resolve chain specifier importer) :=
  resolve_sequential determined_sequential fun p hp => (h p hp).resolve specifier importer

lemma determined_load (h : ∀ p ∈ chain, p.Determined answers env) (id : String) :
    Action.Determined answers env none (load chain id) :=
  load_sequential determined_sequential fun p hp => (h p hp).load id

lemma determined_transform (h : ∀ p ∈ chain, p.Determined answers env) (code id : String) :
    Action.Determined answers env none (transform chain code id) :=
  transform_sequential determined_sequential (fun p hp code => (h p hp).transform code id) code

end Chain

end LiveBundle
