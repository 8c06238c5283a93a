import LiveBundle.Proofs.Path.NormalForm
import LiveBundle.Proofs.Registry.Lookup
import LiveBundle.Proofs.Routing
import LiveBundle.Proofs.Specifier.Spelling

/-!
# Imports between files of the library

A file imports another one by a path that starts with a dot, or by the path of the other file from
the root of the library, with nothing in front.

* `Path.resolve_sibling`: a dot and the name of a file lead to the file, from each file beside it;
* `sibling_import`: so each file is imported by the files beside it;
* `BarePath` are the paths that can stand on their own, `Package.parse_path` what they are when they
  are taken for packages;
* `bare_import_iff`: a path stands for its file unless it starts with `http`.
-/

namespace LiveBundle

variable {config : Config} {registry : Registry} {p q : String} {e : FileEntry}

/-! ## Files beside the importer -/

namespace Path

/-- A dot leads nowhere. -/
lemma clean_dot (directory name : String) :
    clean (directory ++ "/" ++ ("./" ++ name)) = clean (directory ++ "/" ++ name) := by
  have hdot : segments ("./" ++ name).toList = ['.'] :: segments name.toList :=
    segments_append "." name
  rw [clean, clean, segments_append, segments_append, collapse_append, collapse_append, hdot]
  simp only [collapse_skip _ _ (.inr rfl)]

lemma clean_root (name : String) : clean ("" ++ "/" ++ name) = clean name := by
  rw [clean, clean, segments_append]
  exact congrArg _ (collapse_skip _ _ (.inl rfl))

/-- The name of a file leads to it from each file beside it. -/
lemma resolve_sibling (h : parent q = parent p) : resolve q ("./" ++ fileName p) = clean p := by
  rw [resolve, h, clean_dot]
  rcases (split_fileName p).2 with ⟨hparent, hname⟩ | hpath
  · rw [hparent, hname, clean_root]
  · rw [← hpath]

/-- The end of a path is that of its name. -/
lemma hasSuffix_fileName {ending : String} (h : '/' ∉ ending.toList) (p : String) :
    Text.hasSuffix ending ("./" ++ fileName p) = Text.hasSuffix ending p := by
  have hdot : Text.hasSuffix ending ("./" ++ fileName p) = Text.hasSuffix ending (fileName p) :=
    Text.hasSuffix_segment h "." (fileName p)
  rw [hdot]
  rcases (split_fileName p).2 with ⟨-, hname⟩ | hpath
  · rw [hname]
  · conv_rhs => rw [hpath, Text.hasSuffix_segment h]

end Path

/-- The library follows the paths of its files. -/
lemma LibraryFile.resolve_relative {facade : Config.Facade} {specifier : String}
    (hstyle : Specifier.isStylesheet specifier = false) (hfacade : specifier ≠ facade.specifier)
    (hrelative : Specifier.isRelative specifier = true) (q : String) :
    resolve facade specifier (some (Specifier.fileId q)) =
      (Path.resolve q specifier).map Specifier.fileId := by
  obtain ⟨-, hvirtual, -⟩ := Remote.unaddressed_of_path (by rw [hrelative, Bool.true_or])
  have hfile := Specifier.hasPrefix_filePrefix_eq_false hvirtual
  simp [resolve, hfile, hstyle, hfacade, hrelative]

/-- What is stored under a path is the content of the file. -/
lemma load_stored (h : registry.get? p = some e) :
    Chain.load (providers config registry) (Specifier.fileId p) = pure (some e.source) := by
  rw [load_file, Registry.find?_of_get? h]

/-- A file whose path is in normal form is imported by the files beside it under its name, and its
content is what is stored under the path, whatever else there is. Stylesheets are stubs, and the
facade has the index for its content. -/
theorem sibling_import (hkept : registry.get? p = some e) (hnormal : Path.clean p = some p)
    (hstyle : Specifier.isStylesheet p = false) (hbeside : Path.parent q = Path.parent p)
    (hfacade : "./" ++ Path.fileName p ≠ config.facade.specifier) :
    Chain.resolve (providers config registry) ("./" ++ Path.fileName p)
        (some (Specifier.fileId q)) = pure (some (Specifier.fileId p)) ∧
      Chain.load (providers config registry) (Specifier.fileId p) = pure (some e.source) := by
  have hname : Specifier.isStylesheet ("./" ++ Path.fileName p) = false := by
    rw [Specifier.isStylesheet] at hstyle ⊢
    rw [Path.hasSuffix_fileName (by decide), Path.hasSuffix_fileName (by decide), hstyle]
  have hrelative : Specifier.isRelative ("./" ++ Path.fileName p) = true := by
    rw [Specifier.isRelative, Text.hasPrefix_iff.mpr ⟨_, rfl⟩, Bool.true_or]
  have hresolve : LibraryFile.resolve config.facade ("./" ++ Path.fileName p)
      (some (Specifier.fileId q)) = some (Specifier.fileId p) := by
    rw [LibraryFile.resolve_relative hname hfacade hrelative, Path.resolve_sibling hbeside, hnormal,
      Option.map_some]
  exact ⟨resolve_library hname hresolve, load_stored hkept⟩

/-- Three files whose paths end alike. -/
def Registry.alike : Registry := .ofEntries [.ofPath "a/b/c.min.js" "export default 1;",
  .ofPath "b/c.min.js" "export default 2;", .ofPath "c.min.js" "export default 3;"]

/-- The longest of the paths, and the one at the root. -/
theorem sibling_import_alike :
    (Chain.resolve (providers {} .alike) "./c.min.js" (some (Specifier.fileId "a/b/d.svelte")) =
        pure (some (Specifier.fileId "a/b/c.min.js")) ∧
      Chain.load (providers {} .alike) (Specifier.fileId "a/b/c.min.js") =
        pure (some "export default 1;")) ∧
    Chain.resolve (providers {} .alike) "./c.min.js" (some (Specifier.fileId "d.svelte")) =
        pure (some (Specifier.fileId "c.min.js")) ∧
      Chain.load (providers {} .alike) (Specifier.fileId "c.min.js") =
        pure (some "export default 3;") :=
  ⟨sibling_import (p := "a/b/c.min.js") (e := .ofPath "a/b/c.min.js" "export default 1;")
      (by decide +kernel) (by decide) (by decide) (by decide) (by decide),
    sibling_import (p := "c.min.js") (e := .ofPath "c.min.js" "export default 3;")
      (by decide +kernel) (by decide) (by decide) (by decide) (by decide)⟩

/-! ## Paths that look like packages -/

namespace Package

variable {name : List Char}

/-- A name alone is that of a package in its latest version. -/
lemma parse_name (hat : '@' ∉ name) (hslash : '/' ∉ name) (hne : name ≠ []) :
    parse (String.ofList name) =
      some { name := String.ofList name, version := defaultVersion, subpath := none } := by
  have h := parse_text (w := ⟨none, name, none, none⟩) ⟨nofun, ⟨hne, hat, hslash⟩, nofun⟩
  simpa [Spelling.text, Spelling.name, Spelling.behind, Spelling.package, Spelling.given] using h

/-- What follows a name is the path inside of the package. -/
lemma parse_path (hat : '@' ∉ name) (hslash : '/' ∉ name) (hne : name ≠ []) {path : List Char}
    (hpath : path ≠ []) :
    parse (String.ofList (name ++ '/' :: path)) =
      some { name := String.ofList name, version := defaultVersion,
             subpath := some (String.ofList path) } := by
  have h := parse_text (w := ⟨none, name, none, some path⟩) ⟨nofun, ⟨hne, hat, hslash⟩, nofun⟩
  simpa [Spelling.text, Spelling.name, Spelling.behind, Spelling.package, Spelling.given, hpath]
    using h

end Package

/-- A path in normal form does not start with a directory that is none. -/
lemma Path.hasPrefix_of_clean (directory : String) (h : clean p = some p) (hne : p ≠ "")
    (hdirectory : ∃ segment ∈ segments directory.toList, ¬IsName segment) :
    Text.hasPrefix (directory ++ "/") p = false := by
  rw [← Bool.not_eq_true]
  intro hstart
  obtain ⟨rest, rfl⟩ := Text.hasPrefix_iff.mp hstart
  obtain ⟨segment, hsegment, hname⟩ := hdirectory
  refine hname (isName_of_clean h hne segment ?_)
  rw [segments_append]
  exact List.mem_append_left _ hsegment

/-- A path that can be imported as it stands: it has a dot and is in normal form, which no URL is;
its first segment has neither a scope nor a version; and no other provider is meant. -/
structure BarePath (facade : Config.Facade) (p : String) : Prop where
  normal : Path.clean p = some p
  dotted : '.' ∈ p.toList
  noStylesheet : Specifier.isStylesheet p = false
  noFacade : p ≠ facade.specifier
  noPrefix : (Text.hasPrefix "virtual:" p || Text.hasPrefix "\x00" p) = false
  noVersion : '@' ∉ (Path.segments p.toList).headD []

namespace BarePath

variable {facade : Config.Facade}

lemma ne_empty (h : BarePath facade p) : p ≠ "" := by
  rintro rfl
  exact absurd h.dotted List.not_mem_nil

lemma not_path (h : BarePath facade p) :
    (Specifier.isRelative p || Text.hasPrefix "/" p) = false := by
  have hhere : Text.hasPrefix "./" p = false :=
    Path.hasPrefix_of_clean "." h.normal h.ne_empty (by decide)
  have hup : Text.hasPrefix "../" p = false :=
    Path.hasPrefix_of_clean ".." h.normal h.ne_empty (by decide)
  have hroot : Text.hasPrefix "/" p = false :=
    Path.hasPrefix_of_clean "" h.normal h.ne_empty (by decide)
  rw [Specifier.isRelative, hhere, hup, hroot]
  rfl

lemma not_url (h : BarePath facade p) : Specifier.isRemote p = false := by
  have hsecure : Text.hasPrefix "https://" p = false :=
    Path.hasPrefix_of_clean "https:/" h.normal h.ne_empty (by decide)
  have hplain : Text.hasPrefix "http://" p = false :=
    Path.hasPrefix_of_clean "http:/" h.normal h.ne_empty (by decide)
  rw [Specifier.isRemote, hsecure, hplain]
  rfl

/-- Such a path is that of a local file unless it starts with `http`. -/
lemma isLocalFile (h : BarePath facade p) :
    Specifier.isLocalFile p = !Text.hasPrefix "http" p := by
  obtain ⟨hvirtual, hnull⟩ := Bool.or_eq_false_iff.mp h.noPrefix
  have hroot := (Bool.or_eq_false_iff.mp h.not_path).2
  have hhead : (p.toList.head? == some '\x00') = false := by
    rw [← Bool.not_eq_true, beq_iff_eq]
    intro hhead
    obtain ⟨cs, hcs⟩ := List.head?_eq_some_iff.mp hhead
    rw [Text.hasPrefix, hcs] at hnull
    cases hnull
  have hfirst : ((Text.fields '/' p.toList).headD p.toList).contains '@' = false := by
    have hversion := h.noVersion
    obtain ⟨first, rest, hfields⟩ := List.exists_cons_of_ne_nil (Text.fields_ne_nil '/' p.toList)
    rw [Path.segments, hfields] at hversion
    rw [hfields]
    simpa using hversion
  have hdot : p.toList.contains '.' = true := List.contains_iff_mem.mpr h.dotted
  simp only [Specifier.isLocalFile, hvirtual, hroot, hhead, hfirst, hdot]
  simp

/-- As a package it would be its first segment, in the latest version, and the rest inside of it. -/
lemma exists_package (h : BarePath facade p) : ∃ package, Package.parse p = some package ∧
    package.version = Package.defaultVersion ∧
    p = package.name ++ package.subpath.elim "" ("/" ++ ·) := by
  have hnames := Path.isName_of_clean h.normal h.ne_empty
  have hversion := h.noVersion
  by_cases hslash : '/' ∈ p.toList
  · obtain ⟨name, path, hsplit, hname⟩ := List.eq_append_cons_of_mem hslash
    have hfields : Path.segments p.toList = name :: Path.segments path := by
      rw [hsplit, Path.segments, Text.fields_append, Text.fields_eq_singleton hname]
      rfl
    rw [hfields] at hnames hversion
    obtain ⟨hfirst, hrest⟩ := List.forall_mem_cons.mp hnames
    -- The last segment is a name, too.
    have hpath : path ≠ [] := by
      rintro rfl
      exact (hrest [] List.mem_cons_self).1 rfl
    have hp : p = String.ofList (name ++ '/' :: path) := by rw [← hsplit, String.ofList_toList]
    refine ⟨_, hp ▸ Package.parse_path hversion hname hfirst.1 hpath, rfl, ?_⟩
    rw [hp]
    exact String.toList_injective (by simp)
  · rw [Path.segments, Text.fields_eq_singleton hslash] at hnames hversion
    rw [List.headD_cons] at hversion
    have hfirst := hnames _ List.mem_cons_self
    have hparse := Package.parse_name hversion hslash hfirst.1
    rw [String.ofList_toList] at hparse
    exact ⟨_, hparse, rfl, String.append_empty.symm⟩

/-- The library takes the path for that of a file. -/
lemma resolve_file (h : BarePath config.facade p) (hhttp : Text.hasPrefix "http" p = false)
    (q : String) : Chain.resolve (providers config registry) p (some (Specifier.fileId q)) =
      pure (some (Specifier.fileId p)) := by
  have hfile :=
    Specifier.hasPrefix_filePrefix_eq_false (Bool.or_eq_false_iff.mp h.noPrefix).1
  have hrelative := (Bool.or_eq_false_iff.mp h.not_path).1
  have hlocal : Specifier.isLocalFile p = true := by rw [h.isLocalFile, hhttp, Bool.not_false]
  refine resolve_library h.noStylesheet ?_
  simp [LibraryFile.resolve, hfile, h.noStylesheet, h.noFacade, hrelative, hlocal]

/-- The library leaves the path to the network. -/
lemma exists_namesPackage (h : BarePath facade p) (hhttp : Text.hasPrefix "http" p = true)
    (importer : Option String) : ∃ package, NamesPackage facade p importer package ∧
      package.version = Package.defaultVersion ∧
      p = package.name ++ package.subpath.elim "" ("/" ++ ·) := by
  obtain ⟨package, hparse, hversion, hp⟩ := h.exists_package
  refine ⟨package, ⟨hparse, h.noStylesheet, h.noFacade, .inr ?_, h.not_url, h.not_path,
    h.noPrefix⟩, hversion, hp⟩
  rw [h.isLocalFile, hhttp, Bool.not_true]

end BarePath

/-- A text with a directory in front is the id of a file only if the file's path is as long as what
follows the directory. -/
lemma Specifier.length_le_of_fileId {directory rest : String}
    (h : directory ++ "/" ++ rest = fileId p) : rest.toList.length ≤ p.toList.length := by
  have hchars : directory.toList ++ '/' :: rest.toList =
      "virtual:file".toList ++ '/' :: p.toList := by
    simpa [fileId, filePrefix] using congrArg String.toList h
  rcases List.append_eq_append_iff.mp hchars with ⟨front, hfront, hrest⟩ | ⟨front, -, hrest⟩
  · -- The directory would end in front of the only `/` of the prefix.
    cases front with
    | nil => exact (List.cons.inj hrest).2 ▸ le_rfl
    | cons c front =>
      obtain ⟨rfl, -⟩ := List.cons.inj hrest
      have hmem : '/' ∈ "virtual:file".toList := hfront ▸ by simp
      exact absurd hmem (by decide)
  · have hlength := congrArg List.length hrest
    simp only [List.length_append, List.length_cons] at hlength
    omega

/-- No package has the id of a file for its URL that is named like it: the version comes in
between. -/
lemma NamesPackage.resolve_ne_file {importer : Option String} {package : Package}
    {env : Environment} {s : Session} (h : NamesPackage config.facade p importer package)
    (hp : p = package.name ++ package.subpath.elim "" ("/" ++ ·)) :
    (Chain.resolve (providers config registry) p importer env s).1 ≠
      .ok (some (Specifier.fileId p)) := by
  rw [h.resolve_asked]
  rcases hasked : Remote.resolvePackage package p env s with ⟨halt | _ | url, s₁⟩
  · rw [Action.run_bind_of_error hasked]
    exact nofun
  · rw [Action.run_bind_of_ok hasked]
    intro hstub
    have hid : stubPrefix ++ p = Specifier.fileId p := Option.some.inj (Except.ok.inj hstub)
    have hnull : Text.hasPrefix stubPrefix (Specifier.fileId p) = false :=
      Specifier.hasPrefix_fileId_eq_false p (d := '\x00') rfl (by decide)
    rw [← hid, Text.hasPrefix_iff.mpr ⟨p, rfl⟩] at hnull
    cases hnull
  · rw [Action.run_bind_of_ok hasked]
    intro hurl
    obtain ⟨file, rfl, hfile⟩ := Remote.exists_of_resolvePackage hasked
    have hid : env.config.cdnBase ++ "/" ++ (package.cacheKey ++ "/" ++ file) =
        Specifier.fileId p := by
      rw [← Option.some.inj (Except.ok.inj hurl), Package.baseUrl]
      simp only [String.append_assoc]
    have hlength := Specifier.length_le_of_fileId hid
    have hat : "@".toList.length = 1 := rfl
    rw [hp, Package.cacheKey] at hlength
    simp only [String.toList_append, List.length_append, hat] at hlength
    cases hsubpath : package.subpath with
    | none =>
      rw [hsubpath, Option.elim_none, String.toList_empty, List.length_nil] at hlength
      omega
    | some subpath =>
      rw [hsubpath, hfile subpath hsubpath, Option.elim_some, String.toList_append,
        List.length_append] at hlength
      omega

/-- A path that can be imported as it stands leads to its file, with no request, and the content of
the file is what is stored, if and only if the path does not start with `http`. Otherwise it is
taken for a package: its first segment in the latest version, with the rest for a path inside. -/
theorem bare_import_iff (h : BarePath config.facade p) (hkept : registry.get? p = some e)
    (q : String) :
    Chain.load (providers config registry) (Specifier.fileId p) = pure (some e.source) ∧
      let resolve : Action (Option String) :=
        Chain.resolve (providers config registry) p (some (Specifier.fileId q))
      (Text.hasPrefix "http" p = false → resolve = pure (some (Specifier.fileId p))) ∧
      (∀ env s, (resolve env s).1 = .ok (some (Specifier.fileId p)) ↔
        Text.hasPrefix "http" p = false) ∧
      (Text.hasPrefix "http" p = true → ∃ package, Package.parse p = some package ∧
        package.version = Package.defaultVersion ∧
        p = package.name ++ package.subpath.elim "" ("/" ++ ·) ∧
        resolve = (do
          match ← Remote.resolvePackage package p with
          | some url => pure (some url)
          | none => pure (some (stubPrefix ++ p)))) := by
  refine ⟨load_stored hkept, fun hhttp => h.resolve_file hhttp q, fun env s => ⟨?_, ?_⟩, ?_⟩
  · intro hresolve
    rw [← Bool.not_eq_true]
    intro hhttp
    obtain ⟨package, hpackage, -, hp⟩ :=
      h.exists_namesPackage hhttp (some (Specifier.fileId q))
    exact hpackage.resolve_ne_file hp hresolve
  · intro hhttp
    rw [h.resolve_file hhttp]
    rfl
  · intro hhttp
    obtain ⟨package, hpackage, hversion, hp⟩ :=
      h.exists_namesPackage hhttp (some (Specifier.fileId q))
    exact ⟨package, hpackage.parsed, hversion, hp, hpackage.resolve_asked⟩

namespace BarePath

/-- A library in which the name of a directory and that of a file start with `http`. -/
def library : Registry := .ofEntries [.ofPath "http/client.js" "export const get = 1;",
  .ofPath "httpUtil.js" "export const code = 2;", .ofPath "lib/util.min.js" "export const up = 3;"]

/-- A network that knows no package. -/
def environment : Environment where
  config := {}
  network := .steady fun url => .ok { url, status := 404, reason := "Not Found", body := "" }
  styleCompiler := .ok

/-- What an import by a file at the root leads to. -/
def imported (p : String) : Except Halt (Option String) × Session :=
  Chain.resolve (providers {} library) p (some (Specifier.fileId "a.js")) environment
    (.start library)

lemma http_client : BarePath {} "http/client.js" :=
  ⟨by decide, by decide, by decide, by decide, by decide, by decide⟩

end BarePath

/-- One of the files is imported from elsewhere in the library, another one cannot be. -/
theorem bare_import_iff_http :
    Chain.resolve (providers {} BarePath.library) "lib/util.min.js"
        (some (Specifier.fileId "a/b.svelte")) =
      pure (some (Specifier.fileId "lib/util.min.js")) ∧
    ∀ env s, (Chain.resolve (providers {} BarePath.library) "http/client.js"
      (some (Specifier.fileId "a/b.svelte")) env s).1 ≠
        .ok (some (Specifier.fileId "http/client.js")) := by
  have hplain : BarePath {} "lib/util.min.js" :=
    ⟨by decide, by decide, by decide, by decide, by decide, by decide⟩
  have hutil : BarePath.library.get? "lib/util.min.js" =
      some (.ofPath "lib/util.min.js" "export const up = 3;") := by decide +kernel
  have hclient : BarePath.library.get? "http/client.js" =
      some (.ofPath "http/client.js" "export const get = 1;") := by decide +kernel
  obtain ⟨-, hfile, -⟩ := @bare_import_iff {} _ _ _ hplain hutil "a/b.svelte"
  obtain ⟨-, -, hiff, -⟩ := @bare_import_iff {} _ _ _ BarePath.http_client hclient "a/b.svelte"
  refine ⟨hfile (by decide), fun env s h => ?_⟩
  exact absurd ((hiff env s).mp h) (by decide)

/-- Files whose paths start with `http` but are no URLs are not found: a directory is taken for a
package, and a file at the root is asked for in the network and becomes a stub. -/
theorem not_bare_import_http :
    (BarePath {} "http/client.js" ∧ (BarePath.library.get? "http/client.js").isSome = true ∧
      (BarePath.imported "http/client.js").1 =
        .ok (some "https://unpkg.com/http@latest/client.js")) ∧
    BarePath {} "httpUtil.js" ∧ (BarePath.library.get? "httpUtil.js").isSome = true ∧
      (BarePath.imported "httpUtil.js").1 = .ok (some "\x00empty:httpUtil.js") ∧
      (BarePath.imported "httpUtil.js").2.requests =
        ["https://unpkg.com/httpUtil.js@latest/package.json"] :=
  ⟨⟨BarePath.http_client, by decide +kernel, by decide +kernel⟩,
    ⟨by decide, by decide, by decide, by decide, by decide, by decide⟩, by decide +kernel,
    by decide +kernel, by decide +kernel⟩

end LiveBundle
