import LiveBundle.Proofs.Chain
import LiveBundle.Proofs.Failures
import LiveBundle.Proofs.Session.Origin
import LiveBundle.Proofs.Web.Join

/-!
# Who answers for an import

The tests that the providers make of a specifier and its importer leave every import to exactly one
of them, or to none.

* `Served` are the ids that some provider has the content of: `Served.load_ne_none`;
* `resolve_eq_none_iff`: the imports that nobody answers for;
* `resolve_served`: what is answered has content, as long as the network stays on the web;
* `NamesPackage.resolve_eq`: an import of a package is decided by the answer to the request for its
  description.
-/

namespace LiveBundle

open Session (Event)

variable {env : Environment} {config : Config} {registry : Registry} {s s' : Session}
  {id specifier : String} {importer : Option String}

/-! ## Ids with content -/

/-- A chain has the content of a module when one of its providers always has. -/
lemma Chain.load_ne_none {chain : List (Provider Action)} {p : Provider Action} (hp : p ∈ chain)
    (h : ∀ s, (p.load id env s).1 ≠ .ok none) (s : Session) :
    (load chain id env s).1 ≠ .ok none := by
  induction chain generalizing s with
  | nil => exact absurd hp List.not_mem_nil
  | cons q qs ih =>
    rw [load]
    rcases hq : q.load id env s with ⟨halt | _ | content, s₁⟩
    · rw [Action.run_bind_of_error hq]
      exact fun h => by cases h
    · -- The first provider passes, so it is not the one that has the content.
      rw [Action.run_bind_of_ok hq]
      rcases List.mem_cons.mp hp with rfl | hmem
      · exact absurd (congrArg Prod.fst hq) (h s)
      · exact ih hmem s₁
    · rw [Action.run_bind_of_ok hq]
      exact fun h => by cases h

/-- The ids that some provider has the content of. -/
inductive Served : String → Prop
  | remote {url : String} (h : Specifier.isRemote url = true) : Served url
  | file (path : String) : Served (Specifier.fileId path)
  | styleStub (specifier : String) : Served (styleStubPrefix ++ specifier)
  | stub (specifier : String) : Served (stubPrefix ++ specifier)

/-- Requests give a text or fail. -/
lemma Remote.load_ne_none (hremote : Specifier.isRemote id = true) (s : Session) :
    (load id env s).1 ≠ .ok none := by
  cases hkept : s.contents.get? id with
  | some text =>
    rw [load_of_kept hremote hkept]
    exact fun h => by cases h
  | none =>
    rw [load_of_new hremote hkept]
    cases textOf id (env.network s.requests id) <;> exact fun h => by cases h

/-- Whatever the session, the content of such a module is there or cannot be fetched. -/
theorem Served.load_ne_none (h : Served id) (config : Config) (registry : Registry)
    (env : Environment) (s : Session) :
    (Chain.load (providers config registry) id env s).1 ≠ .ok none := by
  cases h with
  | remote hremote =>
    exact Chain.load_ne_none (p := remoteProvider) (by simp [providers])
      (Remote.load_ne_none hremote) s
  | file path =>
    rw [load_file]
    exact fun h => by cases h
  | styleStub specifier =>
    refine Chain.load_ne_none (p := styleStubProvider) (by simp [providers]) (fun s h => ?_) s
    simp [styleStubProvider, Text.hasPrefix_iff.mpr ⟨specifier, rfl⟩] at h
  | stub specifier =>
    refine Chain.load_ne_none (p := catchAllProvider) (by simp [providers]) (fun s h => ?_) s
    simp [catchAllProvider, Text.hasPrefix_iff.mpr ⟨specifier, rfl⟩] at h

/-! ## The order of the providers -/

lemma resolve_catchAll :
    (Chain.resolve [catchAllProvider] specifier importer : Action (Option String)) =
      pure (if isAddressed specifier then none else some (stubPrefix ++ specifier)) := by
  have hhook : (catchAllProvider : Provider Action).resolve specifier importer =
      pure (if isAddressed specifier then none else some (stubPrefix ++ specifier)) := rfl
  by_cases haddressed : isAddressed specifier = true
  · rw [if_pos haddressed] at hhook ⊢
    exact Chain.resolve_skip hhook
  · rw [if_neg haddressed] at hhook ⊢
    exact Chain.resolve_done hhook

/-- What names no file of the library is left to the network, and what names nothing there becomes a
stub unless it says where it is to be found. -/
lemma resolve_outside (hstyle : Specifier.isStylesheet specifier = false)
    (h : LibraryFile.resolve config.facade specifier importer = none) :
    Chain.resolve (providers config registry) specifier importer =
      (do match ← Remote.resolve specifier importer with
        | some url => pure (some url)
        | none =>
          pure (if isAddressed specifier then none else some (stubPrefix ++ specifier))) := by
  rw [providers, Chain.resolve_skip (styleStubProvider_resolve hstyle),
    Chain.resolve_skip (congrArg pure h), Chain.resolve_skip rfl, Chain.resolve, resolve_catchAll]
  rfl

/-! ## Imports that nobody answers for -/

/-- Each of the providers has to pass. -/
lemma resolve_eq_none_iff_each :
    (Chain.resolve (providers config registry) specifier importer env s).1 = .ok none ↔
      Specifier.isStylesheet specifier = false ∧
      LibraryFile.resolve config.facade specifier importer = none ∧
      (Remote.resolve specifier importer env s).1 = .ok none ∧ isAddressed specifier = true := by
  cases hstyle : Specifier.isStylesheet specifier with
  | true => simp [resolve_stylesheet hstyle]
  | false =>
    cases hlibrary : LibraryFile.resolve config.facade specifier importer with
    | some id => simp [resolve_library hstyle hlibrary]
    | none =>
      rw [resolve_outside hstyle hlibrary]
      rcases hremote : Remote.resolve specifier importer env s with ⟨halt | _ | url, s₁⟩
      · simp [Action.run_bind_of_error hremote]
      · rw [Action.run_bind_of_ok hremote]
        cases isAddressed specifier <;> simp
      · rw [Action.run_bind_of_ok hremote]
        simp

/-- An addressed import that is no URL means nothing to the network, unless a remote module follows
it as a path. -/
lemma Remote.resolve_eq_none_iff (h : isAddressed specifier = true) :
    (resolve specifier importer env s).1 = .ok none ↔
      Text.hasPrefix "virtual:" specifier = true ∨
        Specifier.isRelative specifier = true ∧ importer.any Specifier.isRemote = false := by
  cases hremote : Specifier.isRemote specifier with
  | true =>
    simp [resolve, hremote, Specifier.isRelative_of_isRemote hremote,
      Specifier.hasPrefix_of_isRemote hremote (q := "virtual:") (d := 'v') rfl (by decide)]
  | false =>
    cases hvirtual : Text.hasPrefix "virtual:" specifier with
    | true => simp [resolve, hremote, hvirtual]
    | false =>
      have hrelative : Specifier.isRelative specifier = true := by
        rw [Specifier.isRemote, Bool.or_eq_false_iff] at hremote
        simpa [isAddressed, hremote.1, hvirtual] using h
      have hpath : (Specifier.isRelative specifier || Text.hasPrefix "/" specifier) = true := by
        rw [hrelative, Bool.true_or]
      obtain ⟨-, -, hnull⟩ := unaddressed_of_path hpath
      cases himporter : importer.filter Specifier.isRemote with
      | none =>
        have hlocal : importer.any Specifier.isRemote = false := by
          rw [Option.filter_eq_none_iff] at himporter
          cases importer with
          | none => rfl
          | some i => simpa using himporter i rfl
        simp [resolve, hremote, hvirtual, hnull, hrelative, himporter, hlocal]
      | some i =>
        obtain ⟨rfl, hi⟩ := Option.filter_eq_some_iff.mp himporter
        have hfollowed : (Action.ofExcept ((followed specifier (s.originOf i)).map some) env s).1 ≠
            .ok none := by
          cases followed specifier (s.originOf i) <;> exact fun h => by cases h
        simp [resolve_path hpath hi, hfollowed, hi]

namespace LibraryFile

variable {facade : Config.Facade}

/-- The library leaves an addressed import to others when it names no file, is not the facade, and
is no path that leads from a file to a file. -/
lemma resolve_eq_none_iff (hstyle : Specifier.isStylesheet specifier = false)
    (h : Text.hasPrefix "virtual:" specifier = true ∨
      Specifier.isRelative specifier = true ∧ importer.any Specifier.isRemote = false) :
    resolve facade specifier importer = none ↔
      Text.hasPrefix Specifier.filePrefix specifier = false ∧ specifier ≠ facade.specifier ∧
      (Specifier.isRelative specifier = true →
        (importer.bind Specifier.filePath?).bind (Path.resolve · specifier) = none) := by
  cases hfile : Text.hasPrefix Specifier.filePrefix specifier with
  | true => simp [resolve, hfile]
  | false =>
    by_cases hfacade : specifier = facade.specifier
    · simp [resolve, ← hfacade, hfile, hstyle]
    · rcases h with hvirtual | ⟨hrelative, hlocal⟩
      · have hnot : Specifier.isLocalFile specifier = false := by
          rw [Specifier.isLocalFile, hvirtual]
          rfl
        simp [resolve, hfile, hstyle, hfacade, (Specifier.of_virtual hvirtual).1, hnot]
      · simp [resolve, hfile, hstyle, hfacade, hrelative, hlocal]

end LibraryFile

/-- Nobody answers for an import if and only if it is neither a stylesheet nor the facade nor the id
of a file, and is addressed with `virtual:` or is a path that no provider follows. -/
theorem resolve_eq_none_iff :
    (Chain.resolve (providers config registry) specifier importer env s).1 = .ok none ↔
      Specifier.isStylesheet specifier = false ∧ specifier ≠ config.facade.specifier ∧
      Text.hasPrefix Specifier.filePrefix specifier = false ∧
      (Text.hasPrefix "virtual:" specifier = true ∨
        Specifier.isRelative specifier = true ∧ importer.any Specifier.isRemote = false ∧
          (importer.bind Specifier.filePath?).bind (Path.resolve · specifier) = none) := by
  rw [resolve_eq_none_iff_each]
  constructor
  · rintro ⟨hstyle, hlibrary, hremote, haddressed⟩
    rw [Remote.resolve_eq_none_iff haddressed] at hremote
    obtain ⟨hfile, hfacade, hpath⟩ := (LibraryFile.resolve_eq_none_iff hstyle hremote).mp hlibrary
    refine ⟨hstyle, hfacade, hfile, hremote.imp_right fun ⟨hrelative, hlocal⟩ => ?_⟩
    exact ⟨hrelative, hlocal, hpath hrelative⟩
  · rintro ⟨hstyle, hfacade, hfile, haddress⟩
    have hremote : Text.hasPrefix "virtual:" specifier = true ∨
        Specifier.isRelative specifier = true ∧ importer.any Specifier.isRemote = false :=
      haddress.imp_right fun ⟨hrelative, hlocal, _⟩ => ⟨hrelative, hlocal⟩
    have haddressed : isAddressed specifier = true := by
      rcases hremote with hvirtual | ⟨hrelative, -⟩
      · rw [isAddressed, hvirtual, Bool.or_true, Bool.true_or]
      · rw [isAddressed, hrelative, Bool.or_true]
    refine ⟨hstyle, ?_, (Remote.resolve_eq_none_iff haddressed).mpr hremote, haddressed⟩
    refine (LibraryFile.resolve_eq_none_iff hstyle hremote).mpr
      ⟨hfile, hfacade, fun hrelative => ?_⟩
    rcases haddress with hvirtual | ⟨-, -, hpath⟩
    · rw [(Specifier.of_virtual hvirtual).1] at hrelative
      cases hrelative
    · exact hpath

/-! ## What is answered -/

lemma LibraryFile.exists_of_resolve {facade : Config.Facade}
    (h : resolve facade specifier importer = some id) : ∃ path, id = Specifier.fileId path := by
  unfold resolve at h
  split at h
  · rename_i hfile
    cases h
    exact Text.hasPrefix_iff.mp hfile
  · split at h
    · cases h
    · split at h
      · cases h
        exact ⟨_, rfl⟩
      · split at h
        · cases h
        · split at h
          · obtain ⟨path, -, rfl⟩ := Option.map_eq_some_iff.mp h
            exact ⟨path, rfl⟩
          · split at h
            · cases h
              exact ⟨_, rfl⟩
            · cases h

/-- All final URLs that the session knows are web addresses. -/
def Session.OnWeb (s : Session) : Prop :=
  ∀ url final, s.redirects.get? url = some final → Specifier.isRemote final = true

namespace Remote

/-- A path that is followed from a web address leads to one. -/
lemma isRemote_followed {base url : String} (hbase : Specifier.isRemote base = true)
    (hpath : (Specifier.isRelative specifier || Text.hasPrefix "/" specifier) = true)
    (h : followed specifier base = .ok url) : Specifier.isRemote url = true := by
  unfold followed at h
  cases hparse : Web.Url.parse base with
  | error fault =>
    rw [hparse] at h
    cases h
  | ok u =>
    cases hjoin : u.join specifier with
    | error fault =>
      simp only [hparse, Except.bind, hjoin] at h
      cases h
    | ok joined =>
      simp only [hparse, Except.bind, hjoin] at h
      cases h
      have hweb : u.IsWeb := Web.Url.parse_isWeb hbase hparse
      exact Web.Url.isRemote_text (Web.Url.join_isWeb hweb hpath hjoin)

/-- Packages are found below their base, at the path inside of them if there is one. -/
lemma exists_of_resolvePackage {package : Package}
    (h : resolvePackage package specifier env s = (.ok (some id), s')) :
    ∃ file, id = package.baseUrl env.config.cdnBase ++ "/" ++ file ∧
      ∀ subpath ∈ package.subpath, file = subpath := by
  rw [resolvePackage, Action.run_bind_of_ok Action.run_environment] at h
  simp only at h
  cases hsubpath : package.subpath with
  | some subpath =>
    simp only [hsubpath, Action.run_pure, Prod.mk.injEq, Except.ok.injEq, Option.some.injEq] at h
    refine ⟨subpath, h.1.symm, ?_⟩
    rintro _ ⟨⟩
    rfl
  | none =>
    simp only [hsubpath] at h
    obtain ⟨found, s₁, -, h⟩ := Action.run_bind_eq_ok.mp h
    cases found with
    | some entry =>
      simp only [Action.run_pure, Prod.mk.injEq, Except.ok.injEq, Option.some.injEq] at h
      exact ⟨entry, h.1.symm, nofun⟩
    | none => simp at h

/-- The final URL of a web address is one, too, if it is known. -/
lemma isRemote_originOf (himporter : Specifier.isRemote id = true)
    (hredirect : ∀ final, s.redirects.get? id = some final → Specifier.isRemote final = true) :
    Specifier.isRemote (s.originOf id) = true := by
  rw [Session.originOf]
  cases hfinal : s.redirects.get? id with
  | none => exact himporter
  | some final => exact hredirect final hfinal

/-- What an import means to the network is a web address. -/
lemma isRemote_of_resolve (hcdn : Specifier.isRemote env.config.cdnBase = true)
    (hredirect : ∀ i ∈ importer, Specifier.isRemote i = true →
      ∀ final, s.redirects.get? i = some final → Specifier.isRemote final = true)
    (h : resolve specifier importer env s = (.ok (some id), s')) :
    Specifier.isRemote id = true := by
  cases hremote : Specifier.isRemote specifier with
  | true =>
    rw [resolve, if_pos hremote] at h
    cases h
    exact hremote
  | false =>
    cases hpath : Specifier.isRelative specifier || Text.hasPrefix "/" specifier with
    | true =>
      obtain ⟨-, hvirtual, hnull⟩ := unaddressed_of_path hpath
      cases himporter : importer.filter Specifier.isRemote with
      | none => simp [resolve, hremote, hvirtual, hnull, hpath, himporter] at h
      | some i =>
        obtain ⟨rfl, hi⟩ := Option.filter_eq_some_iff.mp himporter
        rw [resolve_path hpath hi] at h
        cases hfollowed : followed specifier (s.originOf i) with
        | error e =>
          rw [hfollowed] at h
          cases h
        | ok url =>
          rw [hfollowed] at h
          cases h
          exact isRemote_followed (isRemote_originOf hi (hredirect i rfl hi)) hpath hfollowed
    | false =>
      simp only [resolve, hremote, hpath, Bool.false_eq_true, if_false] at h
      split at h
      · cases h
      · cases hparse : Package.parse specifier with
        | none =>
          rw [hparse] at h
          cases h
        | some package =>
          rw [hparse] at h
          obtain ⟨file, rfl, -⟩ := exists_of_resolvePackage h
          rw [Package.baseUrl, String.append_assoc, String.append_assoc, String.append_assoc]
          exact Specifier.isRemote_append hcdn _

end Remote

/-- Whatever is answered for an import has content: the network is left for other places by no
redirect that is known of the importer. -/
theorem resolve_served (hcdn : Specifier.isRemote env.config.cdnBase = true)
    (hredirect : ∀ i ∈ importer, Specifier.isRemote i = true →
      ∀ final, s.redirects.get? i = some final → Specifier.isRemote final = true)
    (h : Chain.resolve (providers config registry) specifier importer env s = (.ok (some id), s')) :
    Served id := by
  cases hstyle : Specifier.isStylesheet specifier with
  | true =>
    rw [resolve_stylesheet hstyle] at h
    cases h
    exact .styleStub specifier
  | false =>
    cases hlibrary : LibraryFile.resolve config.facade specifier importer with
    | some target =>
      rw [resolve_library hstyle hlibrary] at h
      cases h
      obtain ⟨path, rfl⟩ := LibraryFile.exists_of_resolve hlibrary
      exact .file path
    | none =>
      rw [resolve_outside hstyle hlibrary] at h
      obtain ⟨found, s₁, hremote, h⟩ := Action.run_bind_eq_ok.mp h
      cases found with
      | some url =>
        cases h
        exact .remote (Remote.isRemote_of_resolve hcdn hredirect hremote)
      | none =>
        cases haddressed : isAddressed specifier <;> simp only [haddressed] at h <;> cases h
        exact .stub specifier

/-! ## Packages -/

/-- The specifier names a package: it is a bare name, and neither the library nor the facade nor
the stylesheets take it. A name with a dot is one of a file, unless a remote module imports it. -/
structure NamesPackage (facade : Config.Facade) (specifier : String) (importer : Option String)
    (package : Package) : Prop where
  parsed : Package.parse specifier = some package
  noStylesheet : Specifier.isStylesheet specifier = false
  noFacade : specifier ≠ facade.specifier
  noFile : importer.any Specifier.isRemote = true ∨ Specifier.isLocalFile specifier = false
  noUrl : Specifier.isRemote specifier = false
  noPath : (Specifier.isRelative specifier || Text.hasPrefix "/" specifier) = false
  noPrefix : (Text.hasPrefix "virtual:" specifier || Text.hasPrefix "\x00" specifier) = false

namespace NamesPackage

variable {package : Package}

lemma library (h : NamesPackage config.facade specifier importer package) :
    LibraryFile.resolve config.facade specifier importer = none := by
  have hrelative := (Bool.or_eq_false_iff.mp h.noPath).1
  have hfile := Specifier.hasPrefix_filePrefix_eq_false (Bool.or_eq_false_iff.mp h.noPrefix).1
  rcases h.noFile with himporter | hlocal
  · simp [LibraryFile.resolve, hfile, h.noStylesheet, h.noFacade, himporter]
  · simp [LibraryFile.resolve, hfile, h.noStylesheet, h.noFacade, hrelative, hlocal]

lemma remote (h : NamesPackage config.facade specifier importer package) :
    Remote.resolve specifier importer = Remote.resolvePackage package specifier := by
  simp [Remote.resolve, h.noUrl, h.noPrefix, h.noPath, h.parsed]

lemma not_addressed (h : NamesPackage config.facade specifier importer package) :
    isAddressed specifier = false := by
  have hurl := h.noUrl
  have hrelative := (Bool.or_eq_false_iff.mp h.noPath).1
  have hvirtual := (Bool.or_eq_false_iff.mp h.noPrefix).1
  rw [Specifier.isRemote, Bool.or_eq_false_iff] at hurl
  rw [isAddressed, hurl.1, hvirtual, hrelative]
  rfl

/-- An import of a package leads to the package, or to a stub if the network does not know it. -/
lemma resolve_asked (h : NamesPackage config.facade specifier importer package) :
    Chain.resolve (providers config registry) specifier importer = (do
      match ← Remote.resolvePackage package specifier with
      | some url => pure (some url)
      | none => pure (some (stubPrefix ++ specifier))) := by
  rw [resolve_outside h.noStylesheet h.library, h.remote, h.not_addressed]
  rfl

/-- An import of a package whose entry point is not known is decided by the answer to the request
for its description. -/
theorem resolve_eq (h : NamesPackage config.facade specifier importer package)
    (hsubpath : package.subpath = none) (hnew : s.entryPoints.get? package.cacheKey = none) :
    let base := package.baseUrl env.config.cdnBase
    let answer := env.network s.requests (base ++ "/package.json")
    Chain.resolve (providers config registry) specifier importer env s =
      ((Remote.entryPointOf (base ++ "/package.json") specifier answer).map fun
          | some entry => some (base ++ "/" ++ entry)
          | none => some (stubPrefix ++ specifier),
        (Event.described package (base ++ "/package.json") answer).apply s) := by
  intro base answer
  have hentry : Remote.entryPoint package specifier env s =
      (Remote.entryPointOf (base ++ "/package.json") specifier answer,
        (Event.described package (base ++ "/package.json") answer).apply s) :=
    Remote.entryPoint_of_new specifier rfl hnew
  have hpackage : Remote.resolvePackage package specifier env s =
      ((Remote.entryPointOf (base ++ "/package.json") specifier answer).map
          (Option.map (base ++ "/" ++ ·)),
        (Event.described package (base ++ "/package.json") answer).apply s) := by
    rw [Remote.resolvePackage, Action.run_bind_of_ok Action.run_environment, hsubpath]
    rcases houtcome : Remote.entryPointOf (base ++ "/package.json") specifier answer with
      halt | _ | entry <;> rw [houtcome] at hentry
    · exact Action.run_bind_of_error hentry
    · exact Action.run_bind_of_ok hentry
    · exact Action.run_bind_of_ok hentry
  rw [h.resolve_asked]
  rcases houtcome : Remote.entryPointOf (base ++ "/package.json") specifier answer with
    halt | _ | entry <;> rw [houtcome] at hpackage
  · exact Action.run_bind_of_error hpackage
  · exact Action.run_bind_of_ok hpackage
  · exact Action.run_bind_of_ok hpackage

end NamesPackage

end LiveBundle
