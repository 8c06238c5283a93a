import LiveBundle.Bundle.Pass
import LiveBundle.Proofs.Session.Determined

/-!
# The providers of a pass are determined

Only the provider of packages looks at what the session keeps. Each of its three look-ups gives what
the network answers, whether the answer is kept or asked for:

* `Remote.run_follow`: imports of a fetched module are followed from where its text came from;
* `Remote.run_entryPoint`: the entry point of a package is `Remote.entryPointOf` its answer;
* `Remote.run_load`: the text of a URL is `Remote.textOf` its answer.

`providers_determined` puts them together with the providers that keep nothing.
-/

namespace LiveBundle

open Web (RequestFault Response)

variable {answers : String → Except RequestFault Response} {env : Environment}

/-! ## Packages and remote modules -/

namespace Remote

variable {s : Session}

/-- What the answer to the request for a package description tells of the entry point. -/
def entryPointOf (url specifier : String) (answer : Except RequestFault Response) :
    Except Halt (Option String) :=
  match answer with
  | .error fault => .error (.failed (.resolve specifier fault.message))
  | .ok r =>
    if r.status = 404 then .ok none
    else if !r.isSuccess then
      .error (.failed (.resolve specifier
        (url ++ " returned " ++ toString r.status ++ " " ++ r.reason)))
    else match Manifest.decode r.body with
      | .error fault => .error (.failed (.resolve specifier
          ("invalid package.json: " ++ fault.message r.body)))
      | .ok manifest => .ok (some manifest.entryPoint)

/-- The text in the answer to the request for a URL. -/
def textOf (url : String) (answer : Except RequestFault Response) : Except Halt String :=
  match answer with
  | .error fault => .error (.failed (.fetch url fault.message))
  | .ok r =>
    if r.isSuccess then .ok r.body
    else .error (.failed (.httpStatus url r.status r.reason))

/-- A success is no missing page. -/
lemma status_ne_of_isSuccess {r : Response} (h : r.isSuccess = true) : r.status ≠ 404 := by
  intro h404
  rw [Response.isSuccess, h404] at h
  exact absurd h (by decide)

/-- Once a response is noted, its URL is known to lead to where it came from. -/
lemma run_noteRedirect {s₁ : Session} {url : String} {r : Response}
    (hs : s.Continues answers env.config.cdnBase s₁ "") (hr : answers url = .ok r) :
    ∃ s₂, noteRedirect url r env s₁ = (.ok (), s₂) ∧
      s.Continues answers env.config.cdnBase s₂ "" ∧ (s₂.redirects.get? url).getD url = r.url := by
  rw [noteRedirect]
  by_cases hself : r.url = url
  · rw [if_pos hself]
    exact ⟨s₁, rfl, hs, hs.faithful.final_eq hr hself⟩
  · rw [if_neg hself]
    refine ⟨s₁.keepRedirect url r.url, rfl, ?_, ?_⟩
    · exact ⟨hs.faithful.keepRedirect hr, hs.registry, hs.styles, hs.contents⟩
    · rw [Session.keepRedirect, Dict.get?_insert, if_pos rfl, Option.getD_some]

variable (steady : env.network = .steady answers)

include steady

lemma run_fetch (url : String) :
    Action.fetch url env s = (.ok (answers url), { s with requests := s.requests ++ [url] }) := by
  rw [Action.fetch, steady]
  rfl

/-- The entry point of a package does not depend on what the session keeps. -/
lemma run_entryPoint (hs : s.Faithful answers env.config.cdnBase) (package : Package)
    (specifier : String) :
    ∃ s', entryPoint package specifier env s =
        (entryPointOf (package.baseUrl env.config.cdnBase ++ "/package.json") specifier
          (answers (package.baseUrl env.config.cdnBase ++ "/package.json")), s') ∧
      s.Continues answers env.config.cdnBase s' "" := by
  cases hkept : s.entryPoints.get? package.cacheKey with
  | some entry =>
    -- What is kept is what the network would answer.
    obtain ⟨r, manifest, hr, hsuccess, hmanifest, hentry⟩ := hs.entryPoints hkept
    refine ⟨s, ?_, .refl hs⟩
    have hrun : entryPoint package specifier env s = (.ok (some entry), s) := by
      rw [entryPoint, Action.run_bind_of_ok Action.run_session, hkept]
      rfl
    rw [hrun, hr, entryPointOf, if_neg (status_ne_of_isSuccess hsuccess)]
    simp only [hsuccess, Bool.not_true, Bool.false_eq_true, ↓reduceIte, hmanifest, hentry]
  | none =>
    generalize hurl : package.baseUrl env.config.cdnBase ++ "/package.json" = url
    have hfetched : Session.Continues answers env.config.cdnBase s
        { s with requests := s.requests ++ [url] } "" :=
      ⟨hs.congr rfl rfl rfl, rfl, (String.append_empty).symm, fun h => h⟩
    rw [entryPoint, Action.run_bind_of_ok Action.run_session, hkept]
    simp only
    rw [Action.run_bind_of_ok Action.run_environment, hurl,
      Action.run_bind_of_ok (run_fetch steady url)]
    cases hr : answers url with
    | error fault => exact ⟨_, rfl, hfetched⟩
    | ok r =>
      rw [entryPointOf]
      by_cases h404 : r.status = 404
      · simp only [if_pos h404]
        exact ⟨_, rfl, hfetched⟩
      · simp only [if_neg h404]
        cases hsuccess : r.isSuccess with
        | false => exact ⟨_, rfl, hfetched⟩
        | true =>
          cases hmanifest : Manifest.decode r.body with
          | error fault => exact ⟨_, rfl, hfetched⟩
          | ok manifest =>
            refine ⟨_, rfl, ?_, rfl, (String.append_empty).symm, fun h => h⟩
            exact hfetched.faithful.keepEntryPoint (hurl ▸ hr) hsuccess hmanifest

/-- A request for the text of a URL gives what the network answers, and keeps it. -/
lemma run_request (hs : s.Faithful answers env.config.cdnBase) (url : String) :
    ∃ s', request url env s = (textOf url (answers url), s') ∧
      s.Continues answers env.config.cdnBase s' "" ∧
      ∀ {content}, textOf url (answers url) = .ok content → s'.Knows (some url) := by
  rw [request, Action.run_bind_of_ok (run_fetch steady url)]
  generalize hs₁ : { s with requests := s.requests ++ [url] } = s₁
  have hfetched : s.Continues answers env.config.cdnBase s₁ "" :=
    hs₁ ▸ ⟨hs.congr rfl rfl rfl, rfl, (String.append_empty).symm, fun h => h⟩
  cases hr : answers url with
  | error fault => exact ⟨s₁, rfl, hfetched, fun h => by cases h⟩
  | ok r =>
    -- The redirect is kept before the status is looked at, so also when the load fails.
    obtain ⟨s₂, hnote, hnoted, hfinal⟩ := run_noteRedirect hfetched hr
    simp only
    rw [Action.run_bind_of_ok hnote, textOf]
    cases hsuccess : r.isSuccess with
    | false => exact ⟨s₂, rfl, hnoted, fun h => by cases h⟩
    | true =>
      refine ⟨s₂.keepContent url r.body, rfl, ⟨?_, hnoted.registry, hnoted.styles, ?_⟩, ?_⟩
      · exact hnoted.faithful.keepContent hr hsuccess hfinal
      · intro url' hurl'
        rw [Session.keepContent, Dict.get?_insert]
        split
        · rfl
        · exact hnoted.contents hurl'
      · intro content _ id hid _
        cases hid
        rw [Session.keepContent, Dict.get?_insert, if_pos rfl]
        rfl

/-- The text of a URL does not depend on what the session keeps. -/
lemma run_load (hs : s.Faithful answers env.config.cdnBase) {url : String}
    (hremote : Specifier.isRemote url = true) :
    ∃ s', load url env s = ((textOf url (answers url)).map some, s') ∧
      s.Continues answers env.config.cdnBase s' "" ∧
      ∀ {content}, textOf url (answers url) = .ok content → s'.Knows (some url) := by
  rw [load, if_pos hremote, Action.run_bind_of_ok Action.run_session]
  cases hkept : s.contents.get? url with
  | some text =>
    obtain ⟨r, hr, hsuccess, hbody, -⟩ := hs.contents hkept
    refine ⟨s, ?_, .refl hs, fun _ id hid _ => ?_⟩
    · rw [hr, textOf, if_pos hsuccess, hbody]
      rfl
    · cases hid
      rw [hkept]
      rfl
  | none =>
    obtain ⟨s', hrun, hc, hknows⟩ := run_request steady hs url
    refine ⟨s', ?_, hc, hknows⟩
    simp only
    cases htext : textOf url (answers url) with
    | error h =>
      rw [htext] at hrun
      exact Action.run_bind_of_error hrun
    | ok content =>
      rw [htext] at hrun
      exact Action.run_bind_of_ok hrun

/-- The entry point of a package is determined. -/
lemma determined_entryPoint (package : Package) (specifier : String) :
    Action.Determined answers env none (entryPoint package specifier) :=
  ⟨_, "", fun _ hs _ => run_entryPoint steady hs package specifier⟩

/-- The text of a module is determined. -/
lemma determined_load (id : String) : Action.Determined answers env none (load id) := by
  cases hremote : Specifier.isRemote id with
  | false => exact .of_unchanged fun s => by rw [load, hremote]; rfl
  | true =>
    refine ⟨(textOf id (answers id)).map some, "", fun s hs _ => ?_⟩
    obtain ⟨s', hrun, hc, -⟩ := run_load steady hs hremote
    exact ⟨s', hrun, hc⟩

omit steady in
/-- Imports of a module that was fetched are followed from where its text came from, whether that is
known from this pass or from an earlier one. -/
lemma determined_follow (specifier : String) {importer : String}
    (hremote : Specifier.isRemote importer = true) :
    Action.Determined answers env (some importer) (follow specifier importer) := by
  by_cases hfetched : ∃ r, answers importer = .ok r ∧ r.isSuccess = true
  · obtain ⟨r, hr, -⟩ := hfetched
    let joined := (Web.Url.parse r.url).bind (·.join specifier)
    refine ⟨(joined.map (·.text)).mapError fun fault =>
      .failed (.resolve specifier fault.message), "", fun s hs hi => ?_⟩
    obtain ⟨text, htext⟩ := Option.isSome_iff_exists.mp (hi importer rfl hremote)
    obtain ⟨r', hr', -, -, hfinal⟩ := hs.contents htext
    obtain rfl : r = r' := Except.ok.inj (hr.symm.trans hr')
    refine ⟨s, ?_, .refl hs⟩
    rw [follow, Action.run_bind_of_ok Action.run_session]
    simp only [hfinal, joined]
    cases (Web.Url.parse r.url).bind (·.join specifier) <;> rfl
  · -- No faithful session has the text of the importer.
    refine ⟨.error .importDepthExceeded, "", fun s hs hi => absurd ?_ hfetched⟩
    obtain ⟨text, htext⟩ := Option.isSome_iff_exists.mp (hi importer rfl hremote)
    obtain ⟨r, hr, hsuccess, -⟩ := hs.contents htext
    exact ⟨r, hr, hsuccess⟩

/-- The URL that a specifier means is determined. -/
lemma determined_resolve (specifier : String) (importer : Option String) :
    Action.Determined answers env importer (resolve specifier importer) :=
  resolve_sequential Action.determined_sequential (.of_unchanged fun _ => rfl)
    (fun _ hid hremote => Option.mem_def.mp hid ▸ determined_follow specifier hremote)
    fun package => (determined_entryPoint steady package specifier).mono

end Remote

/-! ## The chain of a pass -/

/-- A provider that does nothing but answer from its own data is determined. -/
lemma Provider.Determined.of_hooks {p : Provider Action}
    (hresolve : ∀ specifier importer, ∃ found, p.resolve specifier importer = pure found)
    (hload : ∀ id, ∃ content, p.load id = pure content)
    (htransform : ∀ code id, ∃ changed, p.transform code id = Action.ofExcept changed) :
    p.Determined answers env := by
  refine ⟨fun specifier importer => ?_, fun id => ?_, fun code id => ?_⟩
  · obtain ⟨found, h⟩ := hresolve specifier importer
    exact h ▸ Action.determined_pure found
  · obtain ⟨content, h⟩ := hload id
    exact h ▸ Action.determined_pure content
  · obtain ⟨changed, h⟩ := htransform code id
    exact h ▸ Action.determined_ofExcept changed

/-- Compiling a component is determined: it adds the same styles to every session. -/
lemma componentProvider_determined : componentProvider.Determined answers env where
  resolve := fun _ _ => Action.determined_pure _
  load := fun _ => Action.determined_pure _
  transform := fun code id =>
    componentProvider_sequential Action.determined_sequential code id (.of_unchanged fun _ => rfl)
      (fun _ => Action.determined_halt _) Action.determined_appendStyles

/-- Every provider of a pass is determined. -/
theorem providers_determined (steady : env.network = .steady answers) (registry : Registry) :
    ∀ p ∈ providers env.config registry, p.Determined answers env := by
  have hremote : remoteProvider.Determined answers env :=
    ⟨Remote.determined_resolve steady, Remote.determined_load steady,
      fun _ _ => Action.determined_pure _⟩
  simp only [providers, List.forall_mem_cons]
  refine ⟨?_, ?_, componentProvider_determined, hremote, ?_, fun _ h => absurd h List.not_mem_nil⟩
  · exact .of_hooks (fun _ _ => ⟨_, rfl⟩) (fun _ => ⟨_, rfl⟩) fun _ _ => ⟨.ok none, rfl⟩
  · exact .of_hooks (fun _ _ => ⟨_, rfl⟩) (fun _ => ⟨_, rfl⟩) fun _ _ => ⟨_, rfl⟩
  · exact .of_hooks (fun _ _ => ⟨_, rfl⟩) (fun _ => ⟨_, rfl⟩) fun _ _ => ⟨.ok none, rfl⟩

end LiveBundle
