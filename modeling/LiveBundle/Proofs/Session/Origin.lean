import LiveBundle.Proofs.ModuleId
import LiveBundle.Proofs.Session.Course

/-!
# Where kept texts came from

A text is kept with the success of a response, while the final URL of a response is noted with any
status and is never taken back. So the two agree for the response that supplied a text, unless an
earlier response for its URL was redirected and this one was not.

* `Session.Traced` ties what is kept of a URL to the course of the session; `Traced.step` is its
  step lemma, `Course.traced` the run lemma;
* `kept_origin_iff`: after any operations, the URL known for a text is the one that its response
  came from if and only if that response was redirected or no earlier one was; imports of the module
  are then followed from there;
* `not_origin_after_failure`: a redirect noted by a load that failed is kept for a text that came
  without one.
-/

namespace LiveBundle

open Web (RequestFault Response)

namespace Session

open Session (Event Course)

variable {env : Environment} {s s' : Session} {url : String} {events : List Event}

/-! ## What one event does to a URL -/

lemma Event.receive_contents (r : Response) (s : Session) :
    (Event.receive url r s).contents.get? url =
      if r.isSuccess then some r.body else s.contents.get? url := by
  unfold Event.receive
  by_cases hself : r.url = url <;> by_cases hsuccess : r.isSuccess = true <;>
    simp [hself, hsuccess, keepContent, keepRedirect, Dict.get?_insert]

lemma Event.receive_redirects (r : Response) (s : Session) :
    (Event.receive url r s).redirects.get? url =
      if r.url = url then s.redirects.get? url else some r.url := by
  unfold Event.receive
  by_cases hself : r.url = url <;> by_cases hsuccess : r.isSuccess = true <;>
    simp [hself, hsuccess, keepContent, keepRedirect, Dict.get?_insert]

/-- Only answers to requests for a text change what is kept of its URL. -/
lemma Event.apply_of_ne {e : Event} (h : ∀ answer, e ≠ .loaded url answer) (s : Session) :
    (e.apply s).contents.get? url = s.contents.get? url ∧
      (e.apply s).redirects.get? url = s.redirects.get? url := by
  cases e with
  | loaded url' answer =>
    have hne : url' ≠ url := fun heq => h answer (heq ▸ rfl)
    cases answer with
    | error fault => exact ⟨rfl, rfl⟩
    | ok r =>
      simp only [apply, receive]
      by_cases hself : r.url = url' <;> by_cases hsuccess : r.isSuccess = true <;>
        simp [hself, hsuccess, keepContent, keepRedirect, Dict.get?_insert, hne, ask]
  | described package url' answer =>
    cases answer with
    | error fault => exact ⟨rfl, rfl⟩
    | ok r =>
      simp only [apply, learn]
      split
      · split <;> exact ⟨rfl, rfl⟩
      · exact ⟨rfl, rfl⟩
  | styled css => exact ⟨rfl, rfl⟩
  | stylesForgotten => exact ⟨rfl, rfl⟩
  | wentStale => exact ⟨rfl, rfl⟩
  | refreshed => exact ⟨rfl, rfl⟩
  | delivered registry => exact ⟨rfl, rfl⟩

/-! ## Tracing what is kept -/

/-- The response supplied the text of the URL: it came with success, there was none after it, and it
is noted if it was redirected. -/
structure Supplied (s : Session) (url : String) (r : Response) (after : List Event) : Prop where
  remote : Specifier.isRemote url = true
  success : r.isSuccess = true
  body : s.contents.get? url = some r.body
  last : ∀ answer, .loaded url answer ∉ after
  noted : r.url ≠ url → s.redirects.get? url = some r.url

/-- What is kept of a URL is what the events brought. -/
structure Traced (url : String) (events : List Event) (s : Session) : Prop where
  /-- The redirect that is noted is one of a response, of whatever status. -/
  redirect : ∀ {final}, s.redirects.get? url = some final →
    ∃ r, .loaded url (.ok r) ∈ events ∧ r.url = final ∧ r.url ≠ url
  /-- Once there was a redirect, one is noted for ever. -/
  keeps : ∀ {r}, .loaded url (.ok r) ∈ events → r.url ≠ url →
    ∃ final, s.redirects.get? url = some final ∧ final ≠ url
  contents : ∀ {text}, s.contents.get? url = some text →
    ∃ before r after, events = before ++ .loaded url (.ok r) :: after ∧ s.Supplied url r after

lemma Traced.start (registry : Registry) : Traced url [] (Session.start registry) :=
  ⟨fun h => absurd h (by simp [Session.start]), fun h => absurd h List.not_mem_nil,
    fun h => absurd h (by simp [Session.start])⟩

/-- An event about something else leaves what is kept of a URL traced. -/
lemma Traced.step_of_ne {e : Event} (h : Traced url events s)
    (hne : ∀ answer, e ≠ .loaded url answer) : Traced url (events ++ [e]) (e.apply s) := by
  obtain ⟨hcontents, hredirects⟩ := Event.apply_of_ne hne s
  refine ⟨fun hget => ?_, fun hmem hr => ?_, fun hget => ?_⟩
  · rw [hredirects] at hget
    obtain ⟨r, hmem, hr⟩ := h.redirect hget
    exact ⟨r, List.mem_append_left _ hmem, hr⟩
  · rw [hredirects]
    rcases List.mem_append.mp hmem with hmem | hmem
    · exact h.keeps hmem hr
    · exact absurd (List.mem_singleton.mp hmem).symm (hne _)
  · rw [hcontents] at hget
    obtain ⟨before, r, after, rfl, hsupplied⟩ := h.contents hget
    refine ⟨before, r, after ++ [e], by simp, hsupplied.remote, hsupplied.success, ?_,
      fun answer hmem => ?_, ?_⟩
    · rw [hcontents]
      exact hsupplied.body
    · rcases List.mem_append.mp hmem with hmem | hmem
      · exact hsupplied.last answer hmem
      · exact hne answer (List.mem_singleton.mp hmem).symm
    · rw [hredirects]
      exact hsupplied.noted

/-- The answer to a request for a text leaves what is kept of its URL traced. -/
lemma Traced.step_loaded {answer : Except RequestFault Response} (h : Traced url events s)
    (hremote : Specifier.isRemote url = true) (hnew : s.contents.get? url = none) :
    Traced url (events ++ [.loaded url answer]) ((Event.loaded url answer).apply s) := by
  cases answer with
  | error fault =>
    refine ⟨fun hget => ?_, fun hmem hr => ?_, fun hget => ?_⟩
    · obtain ⟨r, hmem, hr⟩ := h.redirect hget
      exact ⟨r, List.mem_append_left _ hmem, hr⟩
    · rcases List.mem_append.mp hmem with hmem | hmem
      · exact h.keeps hmem hr
      · cases List.mem_singleton.mp hmem
    · rw [Event.apply, Event.ask, hnew] at hget
      cases hget
  | ok r =>
    have hredirects : ((Event.loaded url (.ok r)).apply s).redirects.get? url =
        if r.url = url then s.redirects.get? url else some r.url := Event.receive_redirects r _
    have hcontents : ((Event.loaded url (.ok r)).apply s).contents.get? url =
        if r.isSuccess then some r.body else s.contents.get? url := Event.receive_contents r _
    refine ⟨fun {final} hget => ?_, fun {r'} hmem hr' => ?_, fun {text} hget => ?_⟩
    · rw [hredirects] at hget
      by_cases hself : r.url = url
      · rw [if_pos hself] at hget
        obtain ⟨r', hmem, hr'⟩ := h.redirect hget
        exact ⟨r', List.mem_append_left _ hmem, hr'⟩
      · rw [if_neg hself] at hget
        exact ⟨r, List.mem_append_right _ List.mem_cons_self, Option.some.inj hget, hself⟩
    · rw [hredirects]
      by_cases hself : r.url = url
      · -- The response itself was not redirected, so it was an earlier one.
        rw [if_pos hself]
        rcases List.mem_append.mp hmem with hmem | hmem
        · exact h.keeps hmem hr'
        · cases List.mem_singleton.mp hmem
          exact absurd hself hr'
      · rw [if_neg hself]
        exact ⟨r.url, rfl, hself⟩
    · rw [hcontents, hnew] at hget
      by_cases hsuccess : r.isSuccess = true
      · refine ⟨events, r, [], rfl, hremote, hsuccess, ?_, fun _ => List.not_mem_nil,
          fun hself => ?_⟩
        · rw [hcontents, if_pos hsuccess]
        · rw [hredirects, if_neg hself]
      · rw [if_neg hsuccess] at hget
        cases hget

/-- Every event leaves what is kept of a URL traced. -/
lemma Traced.step {e : Event} (h : Traced url events s) (happens : e.Happens env s) :
    Traced url (events ++ [e]) (e.apply s) := by
  by_cases hloaded : ∃ answer, e = .loaded url answer
  · obtain ⟨answer, rfl⟩ := hloaded
    exact h.step_loaded happens.1 happens.2.1
  · exact h.step_of_ne fun answer heq => hloaded ⟨answer, heq⟩

/-- What is kept of a URL is traced all along a course. -/
lemma Course.traced (h : Course env s events s') {past : List Event} (hs : Traced url past s) :
    Traced url (past ++ events) s' := by
  induction h generalizing past with
  | nil => simpa using hs
  | @cons _ _ e _ happens _ ih =>
    have hnext := ih (hs.step happens)
    rwa [List.append_assoc] at hnext

/-! ## Origins -/

/-- The URL that a session knows for the text of a URL. -/
def originOf (s : Session) (url : String) : String := (s.redirects.get? url).getD url

/-- The URL that is known for a text is the one that its response came from if and only if that
response was redirected or no earlier one was. -/
lemma Supplied.origin_iff {before after : List Event} {r : Response}
    (h : s.Supplied url r after)
    (htraced : Traced url (before ++ .loaded url (.ok r) :: after) s) :
    s.originOf url = r.url ↔ r.url ≠ url ∨ ∀ r', .loaded url (.ok r') ∈ before → r'.url = url := by
  rw [originOf]
  constructor
  · intro horigin
    refine or_iff_not_imp_left.mpr fun hself r' hmem => ?_
    by_contra hr'
    -- The redirect of the earlier response is still noted.
    obtain ⟨final, hfinal, hne⟩ := htraced.keeps (List.mem_append_left _ hmem) hr'
    rw [hfinal, Option.getD_some] at horigin
    exact hne (horigin.trans (not_not.mp hself))
  · intro hcase
    by_cases hself : r.url = url
    · have hbefore := hcase.resolve_left (not_not.mpr hself)
      cases hget : s.redirects.get? url with
      | none => exact hself.symm
      | some final =>
        -- Nothing could have noted it.
        obtain ⟨r', hmem, -, hr'⟩ := htraced.redirect hget
        exfalso
        rcases List.mem_append.mp hmem with hmem | hmem
        · exact hr' (hbefore r' hmem)
        · rcases List.mem_cons.mp hmem with heq | hmem
          · cases heq
            exact hr' hself
          · exact h.last _ hmem
    · rw [h.noted hself, Option.getD_some]

end Session

/-! ## Imports of a module -/

namespace Remote

/-- The URL that a path means, seen from a URL. -/
def followed (specifier base : String) : Except BundleError String :=
  match (Web.Url.parse base).bind (·.join specifier) with
  | .ok url => .ok url.text
  | .error fault => .error (.resolve specifier fault.message)

/-- A path is no URL and not addressed in another way. -/
lemma unaddressed_of_path {specifier : String}
    (hpath : (Specifier.isRelative specifier || Text.hasPrefix "/" specifier) = true) :
    Specifier.isRemote specifier = false ∧ Text.hasPrefix "virtual:" specifier = false ∧
      Text.hasPrefix "\x00" specifier = false := by
  rw [Specifier.isRelative, Bool.or_eq_true, Bool.or_eq_true] at hpath
  have hother : ∀ {q : String} {d : Char}, q.toList.head? = some d → '.' ≠ d → '/' ≠ d →
      Text.hasPrefix q specifier = false := by
    intro q d hq hdot hslash
    rcases hpath with (h | h) | h
    · exact Text.hasPrefix_eq_false h rfl hq hdot
    · exact Text.hasPrefix_eq_false h rfl hq hdot
    · exact Text.hasPrefix_eq_false h rfl hq hslash
  refine ⟨?_, hother (d := 'v') rfl (by decide) (by decide),
    hother (d := '\x00') rfl (by decide) (by decide)⟩
  rw [Specifier.isRemote, hother (d := 'h') rfl (by decide) (by decide),
    hother (d := 'h') rfl (by decide) (by decide)]
  rfl

variable {env : Environment} {s : Session}

/-- Imports are followed from the URL that is known for the text of the importer. -/
lemma follow_eq (specifier importer : String) :
    follow specifier importer env s =
      Action.ofExcept (followed specifier (s.originOf importer)) env s := by
  rw [follow, Action.run_bind_of_ok Action.run_session, followed, Session.originOf]
  cases (Web.Url.parse ((s.redirects.get? importer).getD importer)).bind (·.join specifier) <;> rfl

/-- A path that a remote module imports is followed. -/
lemma resolve_path {specifier importer : String}
    (hpath : (Specifier.isRelative specifier || Text.hasPrefix "/" specifier) = true)
    (himporter : Specifier.isRemote importer = true) :
    resolve specifier (some importer) env s =
      Action.ofExcept ((followed specifier (s.originOf importer)).map some) env s := by
  obtain ⟨hremote, hvirtual, hnull⟩ := unaddressed_of_path hpath
  have hfollow : follow specifier importer env s = _ := follow_eq specifier importer
  rw [resolve, hremote, hvirtual, hnull, hpath, Option.filter_some, himporter]
  cases hbase : followed specifier (s.originOf importer) with
  | error e =>
    rw [hbase] at hfollow
    exact Action.run_bind_of_error hfollow
  | ok url =>
    rw [hbase] at hfollow
    exact Action.run_bind_of_ok hfollow

end Remote

/-! ## Any history of a session -/

open Session (Operation Course runAll)

/-- After any operations, a text that is kept was supplied by the last response to a request for it.
The URL that is known for the text is the one that this response came from if and only if the
response was redirected or no earlier one was; then imports of the module are followed from
there. -/
theorem kept_origin_iff (env : Environment) (registry : Registry) (operations : List Operation) :
    let s := runAll env operations (Session.start registry)
    ∃ events, Course env (Session.start registry) events s ∧
      ∀ url text, s.contents.get? url = some text →
        ∃ before r after, events = before ++ .loaded url (.ok r) :: after ∧
          r.isSuccess = true ∧ r.body = text ∧ (∀ answer, .loaded url answer ∉ after) ∧
          (s.originOf url = r.url ↔
            r.url ≠ url ∨ ∀ r', .loaded url (.ok r') ∈ before → r'.url = url) ∧
          (s.originOf url = r.url → ∀ specifier,
            (Specifier.isRelative specifier || Text.hasPrefix "/" specifier) = true →
            Remote.resolve specifier (some url) env s =
              Action.ofExcept ((Remote.followed specifier r.url).map some) env s) := by
  intro s
  obtain ⟨events, hcourse⟩ : ∃ events, Course env (Session.start registry) events s :=
    Session.runAll_course operations (Session.start registry)
  refine ⟨events, hcourse, fun url text htext => ?_⟩
  have htraced : Session.Traced url events s := hcourse.traced (Session.Traced.start registry)
  obtain ⟨before, r, after, rfl, hsupplied⟩ := htraced.contents htext
  refine ⟨before, r, after, rfl, hsupplied.success, ?_, hsupplied.last,
    hsupplied.origin_iff htraced, fun horigin specifier hpath => ?_⟩
  · exact Option.some.inj (hsupplied.body.symm.trans htext)
  · rw [Remote.resolve_path hpath hsupplied.remote, horigin]

namespace Relocation

/-- The URL of a module. -/
def url : String := "https://unpkg.com/one@1.0.0/index.js"

/-- The network refuses the first request, at another place than it was made for; it answers later
requests at `place`. -/
def environment (place : String) : Environment :=
  { config := {}, styleCompiler := .ok
    network := fun log _ => .ok <|
      if log = [] then ⟨"https://unpkg.com/one@2.0.0/lib/index.js", 503, "Service Unavailable", ""⟩
      else ⟨place, 200, "OK", "import './two.js';"⟩ }

/-- The session after two attempts to load the module. -/
def session (place : String) : Session :=
  runAll (environment place) [.load url, .load url] (Session.start .empty)

end Relocation

/-- A module that was loaded after a failure, with a redirect of its own. -/
theorem kept_origin_iff_redirected :
    let place := "https://unpkg.com/one@3.0.0/main/index.js"
    let s := Relocation.session place
    s.contents.get? Relocation.url = some "import './two.js';" ∧ s.originOf Relocation.url = place ∧
      ∃ events before r after,
        Course (Relocation.environment place) (Session.start .empty) events s ∧
        events = before ++ .loaded Relocation.url (.ok r) :: after ∧
        r.body = "import './two.js';" ∧ (s.originOf Relocation.url = r.url ↔
          r.url ≠ Relocation.url ∨
            ∀ r', .loaded Relocation.url (.ok r') ∈ before → r'.url = Relocation.url) := by
  intro place s
  have hkept : s.contents.get? Relocation.url = some "import './two.js';" := by decide +kernel
  obtain ⟨events, hcourse, horigin⟩ := kept_origin_iff (Relocation.environment place) .empty
    [.load Relocation.url, .load Relocation.url]
  obtain ⟨before, r, after, hevents, -, hbody, -, hiff, -⟩ := horigin _ _ hkept
  exact ⟨hkept, by decide +kernel, events, before, r, after, hcourse, hevents, hbody, hiff⟩

/-- A redirect that is noted by a load that fails is kept for the text that a later load gets
without a redirect, and imports of that text are followed from the wrong place. -/
theorem not_origin_after_failure :
    let s := Relocation.session Relocation.url
    s.contents.get? Relocation.url = some "import './two.js';" ∧
      (Relocation.environment Relocation.url).network [Relocation.url] Relocation.url =
        .ok ⟨Relocation.url, 200, "OK", "import './two.js';"⟩ ∧
      s.originOf Relocation.url ≠ Relocation.url ∧
      (Remote.resolve "./two.js" (some Relocation.url) (Relocation.environment Relocation.url) s).1 =
        .ok (some "https://unpkg.com/one@2.0.0/lib/two.js") ∧
      Remote.followed "./two.js" Relocation.url = .ok "https://unpkg.com/one@1.0.0/two.js" := by
  refine ⟨?_, ?_, ?_, ?_, ?_⟩
  · decide +kernel
  · decide +kernel
  · decide +kernel
  · decide +kernel
  · decide +kernel

end LiveBundle
