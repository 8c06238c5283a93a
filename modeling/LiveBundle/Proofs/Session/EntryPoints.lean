import LiveBundle.Proofs.Session.Keeping
import LiveBundle.Proofs.Specifier.Spelling
import LiveBundle.Proofs.Web.Below

/-!
# Where entry points came from and where they lead

A session keeps the entry points of packages under their keys. The key of a package tells its name
and its version, so what is found under it was never said of another package. What is found is the
first text in the description that is not empty, and this need not name a file of the package.

* `Session.Described` says that the network named an entry point for a key when it was asked for
  the description at the URL of the package itself;
* `Session.Event.keeps_described` is the step lemma, `Session.Course.keeps_described` the run lemma;
* `package_keys_faithful`: a package is read back from its key and its path, its key tells name and
  version, and the entry point it is resolved to is its own;
* `Manifest.Selects` says which entry point a description means, given which texts name files;
* `entry_file_iff`: the entry point is the one that is meant, and names a file of the package, if
  and only if the first text that is not empty leads to a file.
-/

namespace LiveBundle

open Session (Event Course Operation runAll)

variable {env : Environment} {s s' : Session} {key entry : String}

namespace Session

/-- The network was asked for the description of the package with the key, at the URL of this
package, and the description names the entry point. -/
def Described (env : Environment) (s : Session) (key entry : String) : Prop :=
  ∃ earlier later response manifest,
    s.requests = earlier ++ (env.config.cdnBase ++ "/" ++ key ++ "/package.json") :: later ∧
    env.network earlier (env.config.cdnBase ++ "/" ++ key ++ "/package.json") = .ok response ∧
    response.isSuccess = true ∧ Manifest.decode response.body = .ok manifest ∧
    manifest.entryPoint = entry

/-- All entry points that are kept were named in descriptions. -/
def KeepsDescribed (env : Environment) (s : Session) : Prop :=
  ∀ key entry, s.entryPoints.get? key = some entry → s.Described env key entry

/-- Later requests take nothing back. -/
lemma Described.mono (h : s.Described env key entry) (hlog : s.requests <+: s'.requests) :
    s'.Described env key entry := by
  obtain ⟨earlier, later, response, manifest, hrequests, hanswer⟩ := h
  obtain ⟨more, hmore⟩ := hlog
  refine ⟨earlier, later ++ more, response, manifest, ?_, hanswer⟩
  rw [← hmore, hrequests, List.append_assoc, List.cons_append]

/-- An event adds to the requests. -/
lemma Event.requests_extend (e : Event) (s : Session) : s.requests <+: (e.apply s).requests := by
  cases e with
  | loaded url answer =>
    cases answer with
    | error fault => exact List.prefix_append _ _
    | ok r =>
      simp only [apply, receive]
      split <;> split <;> exact List.prefix_append _ _
  | described package url answer =>
    cases answer with
    | error fault => exact List.prefix_append _ _
    | ok r =>
      simp only [apply, learn]
      split
      · split <;> exact List.prefix_append _ _
      · exact List.prefix_append _ _
  | styled css => exact List.prefix_refl _
  | stylesForgotten => exact List.prefix_refl _
  | wentStale => exact List.prefix_refl _
  | refreshed => exact List.prefix_refl _
  | delivered registry => exact List.prefix_refl _

/-- The entry point that is learned from an answer is the one that the description names. -/
lemma Event.learned {package : Package} {r : Web.Response}
    (hnew : s.entryPoints.get? package.cacheKey = none)
    (h : (learn package r s).entryPoints.get? package.cacheKey = some entry) :
    r.isSuccess = true ∧ ∃ manifest, Manifest.decode r.body = .ok manifest ∧
      manifest.entryPoint = entry ∧ (learn package r s).requests = s.requests := by
  unfold learn at h ⊢
  cases hsuccess : r.isSuccess with
  | false => simp [hsuccess, hnew] at h
  | true =>
    cases hdecode : Manifest.decode r.body with
    | error fault => simp [hsuccess, hdecode, hnew] at h
    | ok manifest =>
      simp only [hsuccess, hdecode, if_true, keepEntryPoint, Dict.get?_insert,
        Option.some.injEq] at h
      exact ⟨rfl, manifest, rfl, h, rfl⟩

/-- What is kept after an event was kept before, or it is what was just described. -/
lemma Event.keeps_described {e : Event} (happens : e.Happens env s) (h : KeepsDescribed env s) :
    KeepsDescribed env (e.apply s) := by
  intro key entry hkept
  by_cases hdescribed : ∃ package url answer, e = .described package url answer ∧
      package.cacheKey = key
  · obtain ⟨package, url, answer, rfl, rfl⟩ := hdescribed
    obtain ⟨rfl, hnew, rfl⟩ := happens
    cases hanswer : env.network s.requests (package.baseUrl env.config.cdnBase ++ "/package.json")
      with
    | error fault =>
      rw [hanswer, apply, ask, hnew] at hkept
      cases hkept
    | ok r =>
      rw [hanswer] at hkept
      obtain ⟨hsuccess, manifest, hdecode, hentry, hrequests⟩ := learned (s := ask _ s) hnew hkept
      exact ⟨s.requests, [], r, manifest, hrequests, hanswer, hsuccess, hdecode, hentry⟩
  · rw [apply_entryPoints fun package url answer heq hkey =>
      hdescribed ⟨package, url, answer, heq, hkey⟩] at hkept
    exact (h key entry hkept).mono (requests_extend e s)

/-- All along a course, the entry points that are kept were named in descriptions. -/
lemma Course.keeps_described {events : List Event} (h : Course env s events s')
    (hs : KeepsDescribed env s) : KeepsDescribed env s' := by
  induction h with
  | nil => exact hs
  | cons happens _ ih => exact ih (Event.keeps_described happens hs)

lemma keepsDescribed_start (registry : Registry) : KeepsDescribed env (.start registry) :=
  fun _ _ hkept => absurd hkept (by simp [start])

end Session

open Session (KeepsDescribed)

/-- The entry point of a package, asked for or kept, was named in the description of the package. -/
lemma Remote.described_of_entryPoint {package : Package} {specifier : String}
    (hs : KeepsDescribed env s)
    (h : entryPoint package specifier env s = (.ok (some entry), s')) :
    s'.Described env package.cacheKey entry := by
  refine (?_ : KeepsDescribed env s') _ _ (kept_of_entryPoint h)
  have hmoves : (entryPoint package specifier).Moves (Session.Passes env) env :=
    moves_entryPoint (fun _ _ _ _ happens => .of_event True.intro happens) package specifier
  obtain ⟨events, -, hcourse⟩ : Session.Passes env s s' := hmoves.of_run h
  exact hcourse.keeps_described hs

/-- A package that was read from a specifier is read back from its key, followed by its path. Two
packages with one key, or with one root on a content delivery network, have the same name and the
same version. So whatever was done with a session, the entry point to which a package is resolved
was named when the network was asked for the description of this package. -/
theorem package_keys_faithful :
    (∀ specifier p, Package.parse specifier = some p → Package.parse p.full = some p) ∧
    (∀ specifier specifier' p q, Package.parse specifier = some p →
      Package.parse specifier' = some q →
      (p.cacheKey = q.cacheKey ↔ p.name = q.name ∧ p.version = q.version) ∧
      ∀ cdn, p.baseUrl cdn = q.baseUrl cdn ↔ p.name = q.name ∧ p.version = q.version) ∧
    ∀ (env : Environment) (registry : Registry) (operations : List Operation) (p : Package)
      (specifier entry : String) (s' : Session),
      Remote.entryPoint p specifier env (runAll env operations (.start registry)) =
        (.ok (some entry), s') →
      s'.Described env p.cacheKey entry := by
  refine ⟨fun _ _ => Package.parse_full, fun specifier specifier' p q h h' => ⟨?_, fun cdn => ?_⟩,
    fun env registry operations p specifier entry s' h => ?_⟩
  · exact Package.cacheKey_inj h h'
  · rw [Package.baseUrl_inj, Package.cacheKey_inj h h']
  · obtain ⟨events, hcourse⟩ : ∃ events, Course env (.start registry) events
        (runAll env operations (.start registry)) := Session.runAll_course operations _
    exact Remote.described_of_entryPoint
      (hcourse.keeps_described (Session.keepsDescribed_start registry)) h

/-- A scope, a version and a path with all marks in them, and the same package under other
spellings; and a package that was resolved before. -/
theorem package_keys_faithful_marked :
    let p : Package := ⟨"@a@/b", "1@2", some "/c@3/"⟩
    let one : Package := ⟨"one", "latest", none⟩
    let s := runAll Fickle.environment [.resolve "one@" none] (.start .empty)
    Package.parse "@a@/b@1@2//c@3/" = some p ∧ Package.parse p.full = some p ∧
      Package.parse "@a@/b@1@2/" = some ⟨"@a@/b", "1@2", none⟩ ∧
      p.cacheKey = Package.cacheKey ⟨"@a@/b", "1@2", none⟩ ∧
      Remote.entryPoint one "one" Fickle.environment s = (.ok (some "a.js"), s) ∧
      s.Described Fickle.environment one.cacheKey "a.js" := by
  intro p one s
  obtain ⟨hfull, hkey, hown⟩ := package_keys_faithful
  have hp : Package.parse "@a@/b@1@2//c@3/" = some p := by decide
  have hq : Package.parse "@a@/b@1@2/" = some ⟨"@a@/b", "1@2", none⟩ := by decide
  have hkept : s.entryPoints.get? one.cacheKey = some "a.js" := by decide +kernel
  have hentry : Remote.entryPoint one "one" Fickle.environment s = (.ok (some "a.js"), s) :=
    Remote.entryPoint_of_kept "one" hkept
  exact ⟨hp, hfull _ _ hp, hq, (hkey _ _ _ _ hp hq).1.mpr ⟨rfl, rfl⟩, hentry,
    hown _ _ _ _ _ _ _ hentry⟩

/-! ## The entry point that is meant -/

namespace Manifest

variable {m : Manifest} {names : String → Prop}

/-- The members that are texts, in the order of their rank. -/
def strings (m : Manifest) : List String :=
  [m.browser, m.module_, m.main].filterMap (·.bind Json.asString?)

/-- The first text that is not empty. -/
def first? (m : Manifest) : Option String := m.strings.find? (· != "")

/-- The entry point that a description means, if `names` tells which texts name a file: the first
text that names one, without any `./` in front. If there is none, it is the usual one. -/
inductive Selects (names : String → Prop) (m : Manifest) : String → Prop
  | member {before after : List String} {value entry : String} {times : Nat}
      (strings : m.strings = before ++ value :: after) (others : ∀ text ∈ before, ¬ names text)
      (file : names value)
      (dots : value.toList = (List.replicate times "./".toList).flatten ++ entry.toList)
      (bare : Text.hasPrefix "./" entry = false) : Selects names m entry
  | usual (others : ∀ text ∈ m.strings, ¬ names text) : Selects names m "index.js"

lemma entryPoint_eq (m : Manifest) :
    m.entryPoint = Text.trimDotSlash (m.first?.getD defaultEntry) := rfl

/-- The texts in front of the first one that is not empty are empty, and all are if there is
none. -/
lemma first?_cases (m : Manifest) :
    (m.first? = none ∧ ∀ text ∈ m.strings, text = "") ∨
      ∃ value before after, m.first? = some value ∧ m.strings = before ++ value :: after ∧
        (∀ text ∈ before, text = "") ∧ value ≠ "" := by
  cases hfirst : m.first? with
  | none => exact .inl ⟨rfl, by simpa using List.find?_eq_none.mp hfirst⟩
  | some value =>
    obtain ⟨hvalue, before, after, hstrings, hbefore⟩ := List.find?_eq_some_iff_append.mp hfirst
    exact .inr ⟨value, before, after, rfl, hstrings, by simpa using hbefore, by simpa using hvalue⟩

/-- The entry point is empty if and only if the first text that is not is made up of `./`. -/
lemma entryPoint_eq_empty_iff (m : Manifest) :
    m.entryPoint = "" ↔ ∃ value ∈ m.first?, ∃ times,
      value.toList = (List.replicate times "./".toList).flatten := by
  rw [entryPoint_eq]
  rcases m.first?_cases with ⟨hfirst, -⟩ | ⟨value, -, -, hfirst, -⟩
  · rw [hfirst]
    exact iff_of_false (by decide) (by simp)
  · rw [hfirst, Option.getD_some, trimDotSlash_eq_empty_iff]
    simp

/-- Dots and slashes in front make no difference. -/
lemma names_of_dots (hdots : ∀ text, names ("./" ++ text) ↔ names text) {value entry : String}
    {times : Nat}
    (h : value.toList = (List.replicate times "./".toList).flatten ++ entry.toList) :
    names value ↔ names entry := by
  induction times generalizing value with
  | zero => rw [String.toList_injective (h : value.toList = entry.toList)]
  | succ times ih =>
    rw [List.replicate_succ, List.flatten_cons, List.append_assoc] at h
    have hvalue : value = "./" ++ String.ofList
        ((List.replicate times "./".toList).flatten ++ entry.toList) :=
      String.toList_injective (by rw [h]; simp)
    rw [hvalue, hdots]
    exact ih String.toList_ofList

/-- What is meant names a file. -/
lemma Selects.named (hdots : ∀ text, names ("./" ++ text) ↔ names text)
    (husual : names defaultEntry) {entry : String} (h : m.Selects names entry) : names entry := by
  cases h with
  | member _ _ hfile htext _ => exact (names_of_dots hdots htext).mp hfile
  | usual _ => exact husual

/-- If the first text that is not empty names a file, the entry point is the one that is meant. -/
lemma selects_of_first (hempty : ¬ names "") (h : ∀ value ∈ m.first?, names value) :
    m.Selects names m.entryPoint := by
  have hother : ∀ text, text = "" → ¬ names text := fun text htext => by rwa [htext]
  rw [entryPoint_eq]
  rcases m.first?_cases with ⟨hfirst, hall⟩ | ⟨value, before, after, hfirst, hstrings, hbefore, -⟩
  · have hentry : Text.trimDotSlash defaultEntry = "index.js" := by decide
    rw [hfirst, Option.getD_none, hentry]
    exact .usual fun text htext => hother text (hall text htext)
  · obtain ⟨times, htimes⟩ := exists_replicate_trimDotSlash value
    rw [hfirst, Option.getD_some]
    exact .member hstrings (fun text htext => hother text (hbefore text htext))
      (h value hfirst) htimes (hasPrefix_trimDotSlash value)

/-- As it is chosen, a text that is not empty counts as one that names a file. -/
lemma selects_nonempty (m : Manifest) : m.Selects (· ≠ "") m.entryPoint := by
  refine selects_of_first (not_not_intro rfl) fun value hvalue => ?_
  rcases m.first?_cases with ⟨hfirst, -⟩ | ⟨value', -, -, hfirst, -, -, hne⟩
  · rw [hfirst] at hvalue
    cases hvalue
  · rw [hfirst] at hvalue
    cases hvalue
    exact hne

/-- The entry point names a file, and is the one that is meant, if and only if the first text that
is not empty names a file. -/
theorem selects_iff (hdots : ∀ text, names ("./" ++ text) ↔ names text)
    (husual : names defaultEntry) (hempty : ¬ names "") :
    (m.Selects names m.entryPoint ↔ ∀ value ∈ m.first?, names value) ∧
      (names m.entryPoint ↔ ∀ value ∈ m.first?, names value) := by
  have hnames : names m.entryPoint ↔ ∀ value ∈ m.first?, names value := by
    rw [entryPoint_eq]
    cases m.first? with
    | none =>
      have hentry : Text.trimDotSlash defaultEntry = defaultEntry := by decide
      rw [Option.getD_none, hentry]
      exact iff_of_true husual nofun
    | some value =>
      obtain ⟨times, htimes⟩ := exists_replicate_trimDotSlash value
      rw [Option.getD_some, ← names_of_dots hdots htimes]
      simp
  exact ⟨⟨fun h => hnames.mp (h.named hdots husual), selects_of_first hempty⟩, hnames⟩

end Manifest

/-! ## The files of entry points -/

/-- The description of a package is asked for, and the import leads to the entry point that it
names. -/
lemma Remote.resolve_described {specifier : String} {importer : Option String} {package : Package}
    {response : Web.Response} {manifest : Manifest} (h : package.DenotedBy specifier)
    (hnew : s.entryPoints.get? package.cacheKey = none)
    (hanswer : env.network s.requests
      (package.baseUrl env.config.cdnBase ++ "/package.json") = .ok response)
    (hsuccess : response.isSuccess = true)
    (hdecode : Manifest.decode response.body = .ok manifest) :
    ∃ s', Remote.resolve specifier importer env s =
      (.ok (some (package.baseUrl env.config.cdnBase ++ "/" ++ manifest.entryPoint)), s') := by
  have hentry : Remote.entryPoint package specifier env s = _ :=
    Remote.entryPoint_of_new specifier rfl hnew
  have hfound : Remote.entryPointOf (package.baseUrl env.config.cdnBase ++ "/package.json")
      specifier (.ok response) = .ok (some manifest.entryPoint) := by
    rw [Remote.entryPointOf, if_neg (Remote.status_ne_of_isSuccess hsuccess)]
    simp only [hsuccess, hdecode]
    rfl
  rw [hanswer, hfound] at hentry
  rw [Remote.resolve_denoted h, Remote.resolvePackage,
    Action.run_bind_of_ok Action.run_environment, h.whole]
  exact ⟨_, Action.run_bind_of_ok hentry⟩

/-- A package as a whole is resolved to an entry point that was named in its description. -/
lemma Remote.described_of_resolve {specifier target : String} {importer : Option String}
    {package : Package} (hs : KeepsDescribed env s) (h : package.DenotedBy specifier)
    (hrun : Remote.resolve specifier importer env s = (.ok (some target), s')) :
    ∃ entry, target = package.baseUrl env.config.cdnBase ++ "/" ++ entry ∧
      s'.Described env package.cacheKey entry := by
  obtain ⟨entry, htarget, hkept⟩ := Remote.kept_of_resolve h hrun
  have hmoves : (Remote.resolve specifier importer).Moves (Session.Passes env) env :=
    Remote.moves_resolve (fun _ _ _ _ happens => .of_event True.intro happens) specifier importer
  obtain ⟨events, -, hcourse⟩ : Session.Passes env s s' := hmoves.of_run hrun
  exact ⟨entry, htarget, hcourse.keeps_described hs _ _ hkept⟩

/-- From a directory, the entry point leads to a file, and is the one that is meant, if and only if
the first text that is not empty leads to a file. -/
lemma Manifest.selects_leadsToFile_iff (root : Web.Url) (m : Manifest) :
    (m.Selects root.LeadsToFile m.entryPoint ↔ ∀ value ∈ m.first?, root.LeadsToFile value) ∧
      (root.LeadsToFile m.entryPoint ↔ ∀ value ∈ m.first?, root.LeadsToFile value) := by
  have hname : Web.Url.IsName "index.js".toList := ⟨by decide, by decide, by decide⟩
  exact selects_iff (fun _ => Web.Url.leadsToFile_dotSlash)
    (Web.Url.leadsToFile_name (by decide) hname) Web.Url.not_leadsToFile_empty

/-- The entry point of a package is chosen as if every text named a file but the empty one. So it is
empty if the first text that is not is made up of `./` alone. It is the entry point that the
description means, and names a file below the address of the package, if and only if that text leads
to a file from there; and that address must be the one of a directory.

Imports lead to the entry point of every description that decodes; and whatever was done with a
session, a package as a whole is resolved to the entry point in a description of this package. -/
theorem entry_file_iff (m : Manifest) (env : Environment) :
    (m.Selects (· ≠ "") m.entryPoint ∧
      (m.entryPoint = "" ↔ ∃ value ∈ m.first?, ∃ times,
        value.toList = (List.replicate times "./".toList).flatten) ∧
      ∀ base, Specifier.isRemote base = true →
        (∀ root, Web.Url.IsDirectory base root →
          (m.Selects (Web.Url.NamesFile base) m.entryPoint ↔
            ∀ value ∈ m.first?, root.LeadsToFile value)) ∧
        (Web.Url.NamesFile base m.entryPoint ↔
          ∃ root, Web.Url.IsDirectory base root ∧ ∀ value ∈ m.first?, root.LeadsToFile value)) ∧
    (∀ (s : Session) (p : Package) specifier importer response,
      p.DenotedBy specifier → s.entryPoints.get? p.cacheKey = none →
      env.network s.requests (p.baseUrl env.config.cdnBase ++ "/package.json") = .ok response →
      response.isSuccess = true → Manifest.decode response.body = .ok m →
      ∃ s', Remote.resolve specifier importer env s =
        (.ok (some (p.baseUrl env.config.cdnBase ++ "/" ++ m.entryPoint)), s')) ∧
    ∀ (registry : Registry) (operations : List Operation) (p : Package) specifier importer target
      s', p.DenotedBy specifier →
      Remote.resolve specifier importer env (runAll env operations (.start registry)) =
        (.ok (some target), s') →
      ∃ entry, target = p.baseUrl env.config.cdnBase ++ "/" ++ entry ∧
        s'.Described env p.cacheKey entry := by
  refine ⟨⟨m.selects_nonempty, m.entryPoint_eq_empty_iff,
      fun base hremote => ⟨fun root hroot => ?_, ?_⟩⟩,
    fun s p specifier importer response => Remote.resolve_described,
    fun registry operations p specifier importer target s' hdenoted hrun => ?_⟩
  · rw [hroot.namesFile_eq hremote]
    exact (m.selects_leadsToFile_iff root).1
  · simp only [Web.Url.namesFile_iff hremote, (m.selects_leadsToFile_iff _).2]
  · obtain ⟨events, hcourse⟩ : ∃ events, Course env (.start registry) events
        (runAll env operations (.start registry)) := Session.runAll_course operations _
    exact Remote.described_of_resolve
      (hcourse.keeps_described (Session.keepsDescribed_start registry)) hdenoted hrun

namespace LeftPad

/-- The address of a package. -/
def base : String := "https://unpkg.com/left-pad@latest"

/-- The URL of its directory. -/
def root : Web.Url :=
  ⟨"https".toList, some ⟨[], [], .domain "unpkg.com".toList, none⟩,
    .segments ["left-pad@latest".toList, []], none, none⟩

/-- The package. -/
def package : Package := ⟨"left-pad", "latest", none⟩

/-- A network that answers all requests with one description. -/
def environment (description : String) : Environment :=
  { config := {}, styleCompiler := .ok
    network := .steady fun url => .ok ⟨url, 200, "OK", description⟩ }

/-- A member that is no text, and a text with dots, a directory that is left again and a query. -/
def detour : String :=
  "\x7b\"browser\":\x7b\"./x.js\":false\x7d,\"module\":\"././a/../b.js?c/\"\x7d"

/-- A text that is not empty but leads nowhere, and one that names a file. -/
def nowhere : String := "\x7b\"browser\":\"./\",\"main\":\"main.js\"\x7d"

lemma isDirectory_base : Web.Url.IsDirectory base root := ⟨by decide +kernel, rfl, rfl⟩

lemma denotedBy : package.DenotedBy "left-pad" :=
  ⟨by decide, rfl, by decide, by decide, by decide⟩

lemma baseUrl_package (description : String) :
    package.baseUrl (environment description).config.cdnBase = base := by
  show package.baseUrl ({} : Config).cdnBase = base
  decide

end LeftPad

open LeftPad in
/-- The first text that is not empty names a file by a detour. -/
theorem entry_file_iff_detour :
    let m : Manifest :=
      ⟨some (.object [("./x.js", .bool false)]), some (.string "././a/../b.js?c/"), none⟩
    let env := environment detour
    Manifest.decode detour = .ok m ∧ m.first? = some "././a/../b.js?c/" ∧
      m.entryPoint = "a/../b.js?c/" ∧ m.Selects (Web.Url.NamesFile base) m.entryPoint ∧
      Web.Url.NamesFile base m.entryPoint ∧
      ∃ s', Remote.resolve "left-pad" none env (.start .empty) =
          (.ok (some (base ++ "/" ++ m.entryPoint)), s') ∧
        ∃ entry, base ++ "/" ++ m.entryPoint = base ++ "/" ++ entry ∧
          s'.Described env package.cacheKey entry := by
  intro m env
  obtain ⟨⟨-, -, hfile⟩, hresolve, hdescribed⟩ := entry_file_iff m env
  have hdecode : Manifest.decode detour = .ok m := by rfl
  have hleads : ∀ value ∈ m.first?, root.LeadsToFile value := by
    rintro _ ⟨⟩
    exact ⟨[['.'], ['.'], ['a'], ['.', '.']], "b.js".toList, by decide,
      ⟨by decide, by decide, by decide⟩, by decide⟩
  obtain ⟨hselects, hnames⟩ := hfile base (by decide)
  obtain ⟨s', hrun⟩ := hresolve (.start .empty) package "left-pad" none
    ⟨package.baseUrl env.config.cdnBase ++ "/package.json", 200, "OK", detour⟩ denotedBy rfl rfl
    rfl hdecode
  have hdescribed := hdescribed .empty [] package "left-pad" none _ s' denotedBy hrun
  rw [baseUrl_package] at hrun hdescribed
  exact ⟨hdecode, by decide, by decide, (hselects root isDirectory_base).mpr hleads,
    hnames.mpr ⟨root, isDirectory_base, hleads⟩, s', hrun, hdescribed⟩

open LeftPad in
/-- A text that leads nowhere is not passed over for one that names a file, and the import leads to
the directory of the package. -/
theorem not_entry_file :
    let m : Manifest := ⟨some (.string "./"), none, some (.string "main.js")⟩
    Manifest.decode nowhere = .ok m ∧ m.entryPoint = "" ∧
      m.Selects (Web.Url.NamesFile base) "main.js" ∧
      ¬ m.Selects (Web.Url.NamesFile base) m.entryPoint ∧
      ¬ Web.Url.NamesFile base m.entryPoint ∧
      (Remote.resolve "left-pad" none (environment nowhere) (.start .empty)).1 =
        .ok (some (base ++ "/")) := by
  intro m
  have hdecode : Manifest.decode nowhere = .ok m := by rfl
  have hdots : ¬ root.LeadsToFile "./" := by
    have hsplit : "./" = "./" ++ "" := by decide
    rw [hsplit, Web.Url.leadsToFile_dotSlash]
    exact Web.Url.not_leadsToFile_empty
  have hno : ¬ ∀ value ∈ m.first?, root.LeadsToFile value := fun h => hdots (h "./" rfl)
  obtain ⟨hselects, hleads⟩ := m.selects_leadsToFile_iff root
  rw [isDirectory_base.namesFile_eq (by decide)]
  have hentry : m.entryPoint = "" := by decide
  obtain ⟨s', hrun⟩ : ∃ s', Remote.resolve "left-pad" none (environment nowhere) (.start .empty) =
      (.ok (some (package.baseUrl (environment nowhere).config.cdnBase ++ "/" ++ m.entryPoint)),
        s') :=
    Remote.resolve_described denotedBy rfl rfl rfl hdecode
  rw [baseUrl_package, hentry, String.append_empty] at hrun
  refine ⟨hdecode, hentry, ?_, mt hselects.mp hno, mt hleads.mp hno, congrArg Prod.fst hrun⟩
  have hname : Web.Url.IsName "main.js".toList := ⟨by decide, by decide, by decide⟩
  have hstrings : m.strings = ["./"] ++ "main.js" :: [] := rfl
  have hbare : "main.js".toList = (List.replicate 0 "./".toList).flatten ++ "main.js".toList := rfl
  refine .member hstrings ?_ (Web.Url.leadsToFile_name (by decide) hname) hbare (by decide)
  simpa using hdots

end LiveBundle
