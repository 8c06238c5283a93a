import LiveBundle.Config.Contract
import LiveBundle.Proofs.Routing
import LiveBundle.Proofs.Script.Expressions
import LiveBundle.Proofs.Specifier.Spelling
import LiveBundle.Proofs.Web.Below

/-!
# What an accepted configuration is good for

A configuration is accepted when the base URL of packages starts like a web address and the name of
the bundle is made of the characters of identifiers. Neither says all that is needed later: a name
must not start with a digit, and behind the scheme there must be a host.

* `Config.checked_of_decode`: what accepting a configuration tests.
* `Script.Program.parse_variable`: which identifiers a variable can have for its name.
* `Config.cdnBase_cases`: what is left of the base URL without the slashes at its end.
* `Web.Url.parse_below_host`: a path below a base URL is served where the base URL says.
* `Config.accepted_iff` says when the settings serve their purpose.
-/

namespace LiveBundle

namespace Config

variable {c : Config} {text : String}

/-! ## What is tested -/

/-- The settings of a configuration that is accepted have passed their tests. -/
lemma checked_of_decode (h : decode text = .ok c) :
    Specifier.isRemote c.remote.cdn = true ∧ isOutputName c.output.name = true := by
  unfold decode at h
  split at h
  · rename_i read _
    unfold validate at h
    split_ifs at h with hcdn hfacade hname
    cases h
    exact ⟨by simpa using hcdn, by simpa using hname⟩
  · cases h

/-- A text with the characters of an identifier is one unless it starts with a digit. -/
lemma isIdentifier_iff {name : String} (h : isOutputName name = true) :
    Specifier.isIdentifier name = true ↔ ∀ first ∈ name.toList.head?, first.isDigit = false := by
  unfold isOutputName at h
  rw [Bool.and_eq_true, bne_iff_ne, ne_eq, ← String.toList_inj] at h
  unfold Specifier.isIdentifier
  cases hname : name.toList with
  | nil => exact absurd hname h.1
  | cons c cs =>
    rw [hname, List.all_cons, Bool.and_eq_true] at h
    have hstart : Specifier.isNameStart c = true ↔ c.isDigit = false := by
      constructor
      · exact fun hc => Script.Lexer.isDigit_of_isNameStart
          (Script.Lexer.isNameStart_of_specifier hc)
      · intro hdigit
        have hpart := h.2.1
        rw [Specifier.isNamePart, hdigit, Bool.or_false] at hpart
        exact hpart
    simp [h.2.2, hstart]

/-- Without the slashes at its end, an address with a host keeps its scheme and the slashes behind
it. One that has nothing but slashes loses these as well. -/
lemma cdnBase_cases {scheme rest : List Char}
    (h : c.remote.cdn.toList = scheme ++ ':' :: '/' :: '/' :: rest) :
    ((∀ ch ∈ rest, ch = '/') ∧ c.cdnBase.toList = scheme ++ [':']) ∨
      (∃ ch ∈ rest, ch ≠ '/') ∧ ∃ front, front ≠ [] ∧
        c.cdnBase.toList = scheme ++ ':' :: '/' :: '/' :: front := by
  have hreverse : c.remote.cdn.toList.reverse =
      rest.reverse ++ '/' :: '/' :: ':' :: scheme.reverse := by
    rw [h]
    simp
  have hnil : rest.reverse.dropWhile (· = '/') = [] ↔ ∀ ch ∈ rest, ch = '/' := by
    rw [List.dropWhile_eq_nil_iff]
    simp
  rw [cdnBase, String.toList_ofList, hreverse, List.dropWhile_append]
  by_cases hall : ∀ ch ∈ rest, ch = '/'
  · refine .inl ⟨hall, ?_⟩
    rw [hnil.mpr hall]
    simp
  · refine .inr ⟨by simpa using hall, (rest.reverse.dropWhile (· = '/')).reverse, ?_, ?_⟩
    · rw [ne_eq, List.reverse_eq_nil_iff, hnil]
      exact hall
    · rw [if_neg (by rw [List.isEmpty_iff, hnil]; exact hall)]
      simp

end Config

/-! ## The name of the bundle -/

namespace Script.Program

open LiveBundle.Script.Parser

variable {text : List Char}

/-- A variable may have any identifier for its name that is no word of the language. -/
lemma parse_variable {name : String} (h : Specifier.isIdentifier name = true)
    (hreserved : isReserved name = false) (hawait : name ≠ "await") :
    parse false ("var " ++ name ++ " = 0;").toList = some ⟨[.other], []⟩ := by
  have hchars : ("var " ++ name ++ " = 0;").toList =
      "var".toList ++ ' ' :: (name.toList ++ " = 0;".toList) := by simp
  rw [hchars]
  generalize htext : "var".toList ++ ' ' :: (name.toList ++ " = 0;".toList) = text
  obtain ⟨l, hl⟩ : ∃ l, text.length = l + 9 := by
    refine ⟨name.toList.length, ?_⟩
    rw [← htext]
    simp only [List.length_append, List.length_cons]
    have hword : "var".toList.length = 3 := by cbv
    have hvalue : " = 0;".toList.length = 5 := by cbv
    omega
  -- The length bounds the depth and the rounds of all loops; it only has to be large enough.
  have hlimit : text.length + 2 = (l + 1) + 10 := by omega
  have hdepth : depthPerCharacter * (text.length + 2) = (8 * l + 68) + 20 := by
    rw [hlimit, depthPerCharacter]
    omega
  have hkeyword {ctx : Context} : Reads (takeKeyword : Parser text Unit) ctx
      ⟨⟨.word "var" false, 3, false⟩, ' ' :: (name.toList ++ " = 0;".toList)⟩ (· = ())
      ⟨⟨.word name false, name.toList.length, false⟩, " = 0;".toList⟩ := by
    refine Reads.kind_bind (Reads.bind_eq (Reads.pure rfl) ?_)
    exact reads_advance (Lexer.blanks_identifier h _)
      (Lexer.token_identifier h (by decide) (by decide) _) (List.drop_left' rfl)
  have hpattern : Reads (Runner.upTo text (8 * l + 68 + 19) .pattern)
      (topLevel false (l + 1 + 10))
      ⟨⟨.word name false, name.toList.length, false⟩, " = 0;".toList⟩ (· = .name name)
      ⟨⟨.punct "=", 1, false⟩, " 0;".toList⟩ := by
    show Reads (bindingPattern (Runner.upTo text (8 * l + 68 + 18))) _ _ _ _
    unfold bindingPattern
    refine Reads.atPunct_bind (Reads.atPunct_bind ?_)
    refine Reads.bind_eq (reads_bindingName rfl hreserved hawait ?_) (Reads.pure rfl)
    exact reads_advance (n := 1) (by cbv) (by cbv) rfl
  have hvalue : Reads (Runner.upTo text (8 * l + 68 + 19) (.assignment true))
      (topLevel false (l + 1 + 10)) ⟨⟨.number, 1, false⟩, ";".toList⟩ (fun _ => True)
      ⟨⟨.punct ";", 1, false⟩, []⟩ :=
    (Reads.of_eval (a := .other) fun _ _ _ _ => by cbv).mono fun _ _ => trivial
  have hstatement : Reads (variableStatement (Runner.upTo text (8 * l + 68 + 19)) .var)
      (topLevel false (l + 1 + 10))
      ⟨⟨.word name false, name.toList.length, false⟩, " = 0;".toList⟩ (fun _ => True)
      ⟨⟨.eof, 0, false⟩, []⟩ :=
    reads_variableStatement rfl
      (reads_declarator rfl hpattern (Reads.of_eval fun _ _ _ _ => by cbv) hvalue)
      (Reads.of_eval fun _ _ _ _ => by cbv)
  have hread : Reads (statements (Runner.upTo text
      (depthPerCharacter * (text.length + 2)))) (topLevel false (text.length + 2))
      ⟨⟨.word "var" false, 3, false⟩, ' ' :: (name.toList ++ " = 0;".toList)⟩
      (· = [.other]) ⟨⟨.eof, 0, false⟩, []⟩ := by
    rw [hdepth, hlimit]
    refine Reads.context_bind (reads_item (by simp)
      (reads_declared .var (reads_declaration .var rfl hkeyword hstatement)) ?_)
    rintro _ rfl
    exact reads_end rfl
  obtain ⟨items, rfl, hparse⟩ := parse_of_reads (stands_word (by decide) htext.symm) hread
    (by rintro _ rfl; rfl)
  exact hparse

end Script.Program

namespace Web.Url

variable {scheme rest : List Char} {a : Authority}

/-- A text has one scheme. -/
lemma webSchemes_unique {scheme' s s' : List Char} (hscheme : scheme ∈ webSchemes)
    (hscheme' : scheme' ∈ webSchemes)
    (h : scheme ++ ':' :: '/' :: '/' :: s = scheme' ++ ':' :: '/' :: '/' :: s') :
    scheme = scheme' ∧ s = s' := by
  simp only [webSchemes, List.mem_cons, List.not_mem_nil, or_false] at hscheme hscheme'
  rcases hscheme with rfl | rfl <;> rcases hscheme' with rfl | rfl
  · exact ⟨rfl, by simpa using h⟩
  · simp at h
  · simp at h
  · exact ⟨rfl, by simpa using h⟩

/-! ## Paths below a base URL -/

/-- The text of the host and what belongs to it, in the text behind the first slashes. -/
def hostText (rest : List Char) : List Char :=
  (splitAuthority .web ((kept rest).dropWhile (isSlash .web))).1

/-- The address has a scheme of web pages, and behind it the text of an authority that can be
read. -/
def AtHost (base : String) (a : Authority) : Prop :=
  ∃ scheme ∈ webSchemes, ∃ rest, base.toList = scheme ++ ':' :: '/' :: '/' :: rest ∧
    readAuthority scheme (hostText rest) = .ok a

/-- The authority of a URL is read from the text in front of the path. -/
lemma readBehindSlashes_eq_ok_iff (hscheme : scheme ∈ webSchemes) (s : List Char) (a : Authority) :
    (∃ u, readBehindSlashes scheme s = .ok u ∧ u.authority = some a) ↔
      readAuthority scheme (splitAuthority .web s).1 = .ok a := by
  rw [readBehindSlashes_web hscheme]
  cases readAuthority scheme (splitAuthority .web s).1 with
  | error e => exact iff_of_false (fun ⟨_, h, _⟩ => nomatch h) nofun
  | ok b =>
    constructor
    · rintro ⟨_, ⟨⟩, ⟨⟩⟩
      rfl
    · rintro ⟨⟩
      exact ⟨_, rfl, rfl⟩

/-- If there is more than slashes behind the scheme of a base URL, a path below it is served where
the base URL says, and it can be read if and only if that can. -/
lemma parse_below_host (hscheme : scheme ∈ webSchemes) {base : String}
    (hbase : base.toList = scheme ++ ':' :: '/' :: '/' :: rest)
    (hhost : (kept rest).dropWhile (isSlash .web) ≠ []) (path : String) (a : Authority) :
    (∃ u, parse (base ++ "/" ++ path) = .ok u ∧ u.authority = some a) ↔
      readAuthority scheme (hostText rest) = .ok a := by
  rw [parse_below hscheme hbase, List.dropWhile_append,
    if_neg (by rw [List.isEmpty_iff]; exact hhost), readBehindSlashes_eq_ok_iff hscheme,
    splitAuthority_slash]
  rfl

/-- If there are only slashes, the first segment of the path is taken for the host. -/
lemma parse_below_slashes (hscheme : scheme ∈ webSchemes) {base : String}
    (hbase : base.toList = scheme ++ ':' :: '/' :: '/' :: rest)
    (hslashes : (kept rest).dropWhile (isSlash .web) = []) (u : Url) :
    parse (base ++ "/" ++ "x@^/f") ≠ .ok u := by
  intro h
  -- The text in front of `@` is read as the name of a user, and no host has a caret in its name.
  rw [parse_below hscheme hbase, List.dropWhile_append, hslashes] at h
  simp only [webSchemes, List.mem_cons, List.not_mem_nil, or_false] at hscheme
  rcases hscheme with rfl | rfl <;> cases h

/-- The authority of a base URL is that of the paths below it. -/
lemma AtHost.parse {base : String} (h : AtHost base a) (path : String) :
    ∃ u, Url.parse (base ++ "/" ++ path) = .ok u ∧ u.authority = some a := by
  obtain ⟨scheme, hscheme, rest, hbase, hread⟩ := h
  refine (parse_below_host hscheme hbase (fun hslashes => ?_) path a).mpr hread
  rw [hostText, hslashes] at hread
  exact readAuthority_nil hscheme a hread

/-- An address below which paths can be read has a host. -/
lemma exists_atHost {base : String} (hremote : Specifier.isRemote base = true) {u : Url}
    (h : Url.parse (base ++ "/" ++ "x@^/f") = .ok u) : ∃ a, AtHost base a := by
  obtain ⟨scheme, hscheme, rest, hbase⟩ := isRemote_iff.mp hremote
  by_cases hslashes : (kept rest).dropWhile (isSlash .web) = []
  · exact absurd h (parse_below_slashes hscheme hbase hslashes u)
  · obtain ⟨a, ha⟩ : ∃ a, u.authority = some a := by
      have hbelow : Specifier.isRemote (base ++ "/" ++ "x@^/f") = true := by
        rw [String.append_assoc]
        exact Specifier.isRemote_append hremote _
      exact Option.isSome_iff_exists.mp (parse_isWeb hbelow h).authority
    exact ⟨a, scheme, hscheme, rest, hbase,
      (parse_below_host hscheme hbase hslashes "x@^/f" a).mp ⟨u, h, ha⟩⟩

end Web.Url

/-! ## Packages -/

/-- The URLs that a package is asked for with these settings: the one of its description, and those
that its imports are resolved to. -/
inductive Config.Builds (c : Config) : String → Prop
  | description {specifier : String} {package : Package}
      (read : Package.parse specifier = some package) :
      Builds c (package.baseUrl c.cdnBase ++ "/package.json")
  | resolved {specifier url : String} {package : Package} {env : Environment} {s s' : Session}
      (read : Package.parse specifier = some package) (config : env.config = c)
      (run : Remote.resolvePackage package specifier env s = (.ok (some url), s')) : Builds c url

/-- A module id that a request can be made for. -/
def Remote.Loadable (url : String) : Prop :=
  Specifier.isRemote url = true ∧ ∃ u, Web.Url.parse url = .ok u

/-- A package has a name, which does not start with a slash. -/
lemma Package.exists_name {specifier : String} {package : Package}
    (h : Package.parse specifier = some package) :
    ∃ first more, package.name.toList = first :: more ∧ first ≠ '/' := by
  obtain ⟨w, hvalid, -, rfl⟩ := exists_spelling h
  show ∃ first more, (String.ofList w.name).toList = first :: more ∧ first ≠ '/'
  rw [String.toList_ofList, Spelling.name]
  cases w.scope with
  | none =>
    obtain ⟨first, more, hown⟩ := List.exists_cons_of_ne_nil hvalid.own.1
    refine ⟨first, more, hown, ?_⟩
    rintro rfl
    exact hvalid.own.2.2 (by rw [hown]; exact List.mem_cons_self)
  | some scope => exact ⟨'@', _, rfl, by decide⟩

namespace Config

variable {c : Config} {text url : String}

/-- All these URLs lead below the base URL, to a package. -/
lemma Builds.exists_path (h : c.Builds url) :
    ∃ path first more, path.toList = first :: more ∧ first ≠ '/' ∧
      url = c.cdnBase ++ "/" ++ path := by
  have hbelow {specifier : String} {package : Package}
      (hread : Package.parse specifier = some package) (file : String) :
      ∃ path first more, path.toList = first :: more ∧ first ≠ '/' ∧
        package.baseUrl c.cdnBase ++ "/" ++ file = c.cdnBase ++ "/" ++ path := by
    obtain ⟨first, more, hname, hslash⟩ := Package.exists_name hread
    refine ⟨package.cacheKey ++ "/" ++ file, first,
      more ++ ("@" ++ package.version ++ "/" ++ file).toList, ?_, hslash, ?_⟩
    · simp [Package.cacheKey, hname]
    · rw [Package.baseUrl]
      simp only [String.append_assoc]
  cases h with
  | description hread =>
    have hfile : "/package.json" = "/" ++ "package.json" := by decide
    rw [hfile, ← String.append_assoc]
    exact hbelow hread "package.json"
  | resolved hread hconfig hrun =>
    obtain ⟨file, rfl, -⟩ := Remote.exists_of_resolvePackage hrun
    rw [hconfig]
    exact hbelow hread file

/-- The base URL of an accepted configuration. It has lost the slashes behind its scheme or not. -/
lemma cdnBase_of_decode (h : decode text = .ok c) : ∃ scheme ∈ Web.Url.webSchemes, ∃ rest,
    c.remote.cdn.toList = scheme ++ ':' :: '/' :: '/' :: rest ∧
      ((∀ ch ∈ rest, ch = '/') ∧ c.cdnBase.toList = scheme ++ [':'] ∨
        (∃ ch ∈ rest, ch ≠ '/') ∧ Specifier.isRemote c.cdnBase = true) := by
  obtain ⟨scheme, hscheme, rest, hcdn⟩ := Web.Url.isRemote_iff.mp (checked_of_decode h).1
  refine ⟨scheme, hscheme, rest, hcdn, (cdnBase_cases hcdn).imp_right ?_⟩
  rintro ⟨hexists, front, -, hbase⟩
  exact ⟨hexists, Web.Url.isRemote_iff.mpr ⟨scheme, hscheme, front, hbase⟩⟩

/-- A scheme without slashes is not that of an address. -/
lemma isRemote_of_scheme {base path : String} {scheme more : List Char} {first : Char}
    (hscheme : scheme ∈ Web.Url.webSchemes) (hbase : base.toList = scheme ++ [':'])
    (hpath : path.toList = first :: more) (hslash : first ≠ '/') :
    Specifier.isRemote base = false ∧ Specifier.isRemote (base ++ "/" ++ path) = false := by
  have htext : (base ++ "/" ++ path).toList = scheme ++ ':' :: '/' :: first :: more := by
    rw [String.toList_append, String.toList_append, hbase, hpath]
    simp
  simp only [← Bool.not_eq_true, Web.Url.isRemote_iff, hbase, htext]
  simp only [Web.Url.webSchemes, List.mem_cons, List.not_mem_nil, or_false] at hscheme ⊢
  rcases hscheme with rfl | rfl <;> simp [hslash]

/-- The URLs of packages are web addresses if and only if the base URL still is one. -/
lemma isRemote_of_builds (h : decode text = .ok c) (hbuilds : c.Builds url) :
    Specifier.isRemote url = Specifier.isRemote c.cdnBase := by
  obtain ⟨path, first, more, hpath, hslash, rfl⟩ := hbuilds.exists_path
  obtain ⟨scheme, hscheme, rest, -, ⟨-, hbase⟩ | ⟨-, hremote⟩⟩ := cdnBase_of_decode h
  · obtain ⟨hno, hnot⟩ := isRemote_of_scheme hscheme hbase hpath hslash
    rw [hno, hnot]
  · rw [hremote, String.append_assoc]
    exact Specifier.isRemote_append hremote _

/-- The URLs of packages start like the base URL, with the first letter of its scheme. -/
lemma hasPrefix_of_builds (h : decode text = .ok c) (hbuilds : c.Builds url) :
    Text.hasPrefix "h" url = true := by
  obtain ⟨path, first, more, -, -, rfl⟩ := hbuilds.exists_path
  obtain ⟨scheme, hscheme, tail, hbase⟩ : ∃ scheme ∈ Web.Url.webSchemes, ∃ tail,
      c.cdnBase.toList = scheme ++ tail := by
    obtain ⟨scheme, hscheme, rest, -, ⟨-, hbase⟩ | ⟨-, hremote⟩⟩ := cdnBase_of_decode h
    · exact ⟨scheme, hscheme, _, hbase⟩
    · obtain ⟨scheme, hscheme, rest, hbase⟩ := Web.Url.isRemote_iff.mp hremote
      exact ⟨scheme, hscheme, _, hbase⟩
  rw [Text.hasPrefix, String.toList_append, String.toList_append, hbase]
  simp only [Web.Url.webSchemes, List.mem_cons, List.not_mem_nil, or_false] at hscheme
  rcases hscheme with rfl | rfl <;> rfl

/-- Nobody has the content of a package exactly if its URL is not a web address. -/
lemma load_of_builds (h : decode text = .ok c) (hbuilds : c.Builds url) (registry : Registry)
    (env : Environment) (s : Session) :
    (Chain.load (providers c registry) url env s).1 = .ok none ↔
      Specifier.isRemote url = false := by
  constructor
  · intro hload
    rw [← Bool.not_eq_true]
    exact fun hremote => (Served.remote hremote).load_ne_none c registry env s hload
  · intro hremote
    have hstart := hasPrefix_of_builds h hbuilds
    have hfile : Specifier.filePath? url = none :=
      Specifier.filePath?_eq_none (Text.hasPrefix_eq_false hstart rfl rfl (by decide))
    obtain ⟨loaded, hload, hstub⟩ := load_other c registry hremote hfile
    cases loaded with
    | none => rw [hload]; rfl
    | some content =>
      have hnull := (hstub content rfl).1
      rw [Text.hasPrefix_eq_false hstart rfl (d := '\x00') rfl (by decide)] at hnull
      cases hnull

/-- A package whose version could not be that of a host. -/
lemma builds_caret (c : Config) : c.Builds (c.cdnBase ++ "/" ++ "x@^/f") := by
  let env : Environment := { config := c, network := .offline, styleCompiler := .ok }
  have hread : Package.parse "x@^/f" = some ⟨"x", "^", some "f"⟩ := by decide
  have hrun : Remote.resolvePackage ⟨"x", "^", some "f"⟩ "x@^/f" env (Session.start default) =
      (.ok (some (c.cdnBase ++ "/" ++ ("x" ++ "@" ++ "^") ++ "/" ++ "f")),
        Session.start default) := rfl
  have hpath : "x@^/f" = "x" ++ "@" ++ "^" ++ "/" ++ "f" := by decide
  rw [hpath, ← String.append_assoc, ← String.append_assoc]
  exact .resolved hread rfl hrun

/-- An accepted configuration names its bundle by an identifier unless the name starts with a digit,
and a variable can have an identifier for its name that is no word of the language.

The base URL is still a web address if there is more than slashes behind its scheme. Requests can be
made for all URLs of packages if and only if an authority can be read in the base URL, and then this
is where they are served; if the base URL is no web address, nobody has the content of any of
them. -/
theorem accepted_iff (h : decode text = .ok c) :
    (Specifier.isIdentifier c.output.name = true ↔
      ∀ first ∈ c.output.name.toList.head?, first.isDigit = false) ∧
    (Specifier.isIdentifier c.output.name = true → Script.isReserved c.output.name = false →
      c.output.name ≠ "await" →
      Script.Program.parse false ("var " ++ c.output.name ++ " = 0;").toList =
        some ⟨[.other], []⟩) ∧
    (Specifier.isRemote c.cdnBase = true ↔
      ∃ scheme ∈ Web.Url.webSchemes, ∃ rest,
        c.remote.cdn.toList = scheme ++ ':' :: '/' :: '/' :: rest ∧ ∃ ch ∈ rest, ch ≠ '/') ∧
    ((∀ url, c.Builds url → Remote.Loadable url) ↔ ∃ a, Web.Url.AtHost c.cdnBase a) ∧
    (∀ a, Web.Url.AtHost c.cdnBase a → ∀ url, c.Builds url →
      ∃ u, Web.Url.parse url = .ok u ∧ u.authority = some a) ∧
    ∀ url, c.Builds url → Specifier.isRemote url = Specifier.isRemote c.cdnBase ∧
      ∀ registry env s, (Chain.load (providers c registry) url env s).1 = .ok none ↔
        Specifier.isRemote c.cdnBase = false := by
  have hparse (a : Web.Authority) (ha : Web.Url.AtHost c.cdnBase a) (url : String)
      (hbuilds : c.Builds url) : ∃ u, Web.Url.parse url = .ok u ∧ u.authority = some a := by
    obtain ⟨path, -, -, -, -, rfl⟩ := hbuilds.exists_path
    exact ha.parse path
  refine ⟨isIdentifier_iff (checked_of_decode h).2, Script.Program.parse_variable, ?_, ⟨?_, ?_⟩,
    hparse, ?_⟩
  · obtain ⟨scheme, hscheme, rest, hcdn, ⟨hall, hbase⟩ | ⟨hexists, hremote⟩⟩ := cdnBase_of_decode h
    · refine iff_of_false ?_ ?_
      · have hpath : "x".toList = 'x' :: [] := rfl
        rw [(isRemote_of_scheme hscheme hbase hpath (by decide)).1]
        exact Bool.false_ne_true
      · rintro ⟨scheme', hscheme', rest', hcdn', ch, hmem, hne⟩
        rw [hcdn] at hcdn'
        rw [← (Web.Url.webSchemes_unique hscheme hscheme' hcdn').2] at hmem
        exact hne (hall ch hmem)
    · exact iff_of_true hremote ⟨scheme, hscheme, rest, hcdn, hexists⟩
  · -- One package is enough: its URL can only be read if the base URL itself has a host.
    intro hall
    have hbuilds := builds_caret c
    obtain ⟨hremote, u, hu⟩ := hall _ hbuilds
    rw [isRemote_of_builds h hbuilds] at hremote
    exact Web.Url.exists_atHost hremote hu
  · rintro ⟨a, ha⟩ url hbuilds
    obtain ⟨u, hu, -⟩ := hparse a ha url hbuilds
    refine ⟨?_, u, hu⟩
    rw [isRemote_of_builds h hbuilds]
    obtain ⟨scheme, hscheme, rest, hbase, -⟩ := ha
    exact Web.Url.isRemote_iff.mpr ⟨scheme, hscheme, rest, hbase⟩
  · intro url hbuilds
    have hremote := isRemote_of_builds h hbuilds
    refine ⟨hremote, fun registry env s => ?_⟩
    rw [load_of_builds h hbuilds, hremote]

/-- The configuration without any settings serves its purpose. -/
theorem accepted_iff_default :
    ∃ c, decode "" = .ok c ∧ Specifier.isIdentifier c.output.name = true ∧
      Specifier.isRemote c.cdnBase = true ∧ ∀ url, c.Builds url → Remote.Loadable url := by
  have h : decode "" = .ok {} := by decide +kernel
  obtain ⟨hname, -, hbase, hbuilds, -, -⟩ := accepted_iff h
  have hletter : ({} : Config).output.name.toList.head? = some 'p' := by decide
  rw [hletter] at hname
  refine ⟨{}, h, hname.mpr ?_, hbase.mpr ?_, hbuilds.mpr ?_⟩
  · rintro _ ⟨⟩
    decide
  · exact ⟨"https".toList, by decide, "unpkg.com".toList, by decide, 'u', by decide, by decide⟩
  · exact ⟨⟨[], [], .domain "unpkg.com".toList, none⟩, "https".toList, by decide,
      "unpkg.com".toList, by decide +kernel, by decide +kernel⟩

/-- A name that starts with a digit is accepted, and so is a scheme without a host. The bundle is
then assigned to no variable, and packages get ids that nobody has the content of. -/
theorem not_accepted_usable :
    (∃ c, decode "[output]\nname = \"1st\"\n" = .ok c ∧
      Specifier.isIdentifier c.output.name = false ∧
      Script.Program.parse false ("var " ++ c.output.name ++ " = 0;").toList = none) ∧
    ∃ c, decode "[remote]\ncdn = \"https://\"\n" = .ok c ∧ c.cdnBase = "https:" ∧
      ∃ url, c.Builds url ∧ Specifier.isRemote url = false ∧
        ∀ registry env s, (Chain.load (providers c registry) url env s).1 = .ok none := by
  constructor
  · refine ⟨{ output := { name := "1st" } }, by decide +kernel, by decide +kernel, ?_⟩
    rw [← Option.isNone_iff_eq_none]
    decide +kernel
  · have h : decode "[remote]\ncdn = \"https://\"\n" = .ok { remote := { cdn := "https://" } } := by
      decide +kernel
    have hbase : ({ remote := { cdn := "https://" } } : Config).cdnBase = "https:" := by
      decide +kernel
    have hbuilds := builds_caret { remote := { cdn := "https://" } }
    have hremote : Specifier.isRemote
        (({ remote := { cdn := "https://" } } : Config).cdnBase ++ "/" ++ "x@^/f") = false := by
      rw [hbase]
      decide
    exact ⟨_, h, hbase, _, hbuilds, hremote, fun registry env s =>
      (load_of_builds h hbuilds registry env s).mpr hremote⟩

end Config

end LiveBundle
