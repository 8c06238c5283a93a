import LiveBundle.Proofs.Path.NormalForm
import LiveBundle.Proofs.RegistryRuns
import LiveBundle.Sort

/-!
# What a scan collects

A file of a directory tree is named by the names on the way to it. A scan takes in the files with
the extensions of a library that no directory on the way and no pattern keeps out, each under its
names with slashes between them.

* `FileTree.Holds` finds the file at the end of some names, `Scan.mem_files` says which of these
  files a walk comes to.
* `Scan.foldlM_add`: the registry of the files that were come to, or the file that is not text.
* `Path.relativeTo_below`: the names below a directory are the path relative to it.
* `scanLibrary_collects` puts these together.
-/

namespace LiveBundle

/-! ## Trees -/

namespace FileTree

/-- At the end of these names, gone through from the tree, there is a file with these bytes. -/
inductive Holds : FileTree → List String → List Nat → Prop
  | file (bytes : List Nat) : Holds (.file bytes) [] bytes
  | down {entries : List (String × FileTree)} {name : String} {tree : FileTree}
      {names : List String} {bytes : List Nat} (entry : (name, tree) ∈ entries)
      (rest : Holds tree names bytes) : Holds (.directory entries) (name :: names) bytes

/-- A name that an entry of a directory may have. -/
def IsEntryName (name : String) : Prop :=
  Path.IsName name.toList ∧ '/' ∉ name.toList ∧ '\\' ∉ name.toList

instance : DecidablePred IsEntryName := fun name =>
  inferInstanceAs (Decidable (Path.IsName name.toList ∧ '/' ∉ name.toList ∧ '\\' ∉ name.toList))

/-- In all directories of a tree the entries have names, no two of them the same one. -/
inductive Legal : FileTree → Prop
  | file (bytes : List Nat) : Legal (.file bytes)
  | directory {entries : List (String × FileTree)} (distinct : (entries.map (·.1)).Nodup)
      (named : ∀ e ∈ entries, IsEntryName e.1) (legal : ∀ e ∈ entries, Legal e.2) :
      Legal (.directory entries)

variable {tree : FileTree} {entries : List (String × FileTree)} {names : List String}
  {bytes bytes' : List Nat}

/-- Names that end at a file lead through a directory unless there are none. -/
lemma Holds.isDirectory_iff (h : tree.Holds names bytes) :
    Scan.isDirectory tree = true ↔ names ≠ [] := by
  cases h with
  | file => simp [Scan.isDirectory]
  | down => simp [Scan.isDirectory]

lemma Holds.isEntryName (h : tree.Holds names bytes) (hlegal : tree.Legal) :
    ∀ name ∈ names, IsEntryName name := by
  induction h with
  | file => exact fun _ hname => absurd hname List.not_mem_nil
  | down hentry _ ih =>
    cases hlegal with
    | directory _ hnamed hsub =>
      exact List.forall_mem_cons.mpr ⟨hnamed _ hentry, ih (hsub _ hentry)⟩

/-- Names lead to one file. -/
lemma Holds.unique (h : tree.Holds names bytes) (h' : tree.Holds names bytes')
    (hlegal : tree.Legal) : bytes = bytes' := by
  induction h with
  | file =>
    cases h'
    rfl
  | down hentry _ ih =>
    cases hlegal with
    | directory hdistinct _ hsub =>
      cases h' with
      | down hentry' hrest' =>
        have hsame := List.inj_on_of_nodup_map hdistinct hentry hentry' rfl
        cases hsame
        exact ih hrest' (hsub _ hentry)

end FileTree

namespace Scan

/-! ## The walk -/

/-- No directory on the way is passed over; the last name is that of the file. -/
def Open (names : List String) : Prop := ∀ directory ∈ names.dropLast, isSkipped directory = false

/-- A file is open if the first directory above it, if any, is walked into and the path behind is
open. -/
lemma open_cons (name : String) (names : List String) :
    Open (name :: names) ↔ (names ≠ [] → isSkipped name = false) ∧ Open names := by
  unfold Open
  cases names with
  | nil => simp
  | cons next rest =>
    rw [List.dropLast_cons_cons, List.forall_mem_cons]
    simp

variable {path names : List String} {bytes : List Nat}

-- The induction is on the tree, along with the walk: a directory is come to through its entries.
mutual

/-- The walk comes to the files of the tree that are not below a directory that is passed over. -/
lemma mem_files (path names : List String) (bytes : List Nat) (tree : FileTree) :
    (names, bytes) ∈ files path tree ↔
      ∃ below, names = path ++ below ∧ tree.Holds below bytes ∧ Open below := by
  cases tree with
  | file content =>
    rw [files, List.mem_singleton, Prod.mk.injEq]
    constructor
    · rintro ⟨rfl, rfl⟩
      exact ⟨[], (List.append_nil _).symm, .file _, nofun⟩
    · rintro ⟨below, rfl, hfile, -⟩
      cases hfile
      exact ⟨List.append_nil _, rfl⟩
  | directory entries =>
    have hsorted : (names, bytes) ∈ files path (.directory entries) ↔
        (names, bytes) ∈ (entryFiles path entries).flatMap (·.2) := by
      rw [files]
      simp only [sortByName, List.mem_flatMap, mem_sortBy]
    rw [hsorted, mem_entryFiles]
    constructor
    · rintro ⟨name, tree, below, hentry, rfl, hfile, hopen⟩
      exact ⟨name :: below, rfl, .down hentry hfile, hopen⟩
    · rintro ⟨below, rfl, hfile, hopen⟩
      cases hfile with
      | down hentry hfile => exact ⟨_, _, _, hentry, rfl, hfile, hopen⟩

lemma mem_entryFiles (path names : List String) (bytes : List Nat)
    (entries : List (String × FileTree)) :
    (names, bytes) ∈ (entryFiles path entries).flatMap (·.2) ↔
      ∃ name tree below, (name, tree) ∈ entries ∧ names = path ++ name :: below ∧
        tree.Holds below bytes ∧ Open (name :: below) := by
  cases entries with
  | nil => simp [entryFiles]
  | cons e rest =>
    obtain ⟨name, tree⟩ := e
    have ih := mem_entryFiles path names bytes rest
    -- The files of the first entry, and those of the others.
    have hsplit : (names, bytes) ∈ (entryFiles path ((name, tree) :: rest)).flatMap (·.2) ↔
        (∃ below, names = path ++ name :: below ∧ tree.Holds below bytes ∧
          Open (name :: below)) ∨
        (names, bytes) ∈ (entryFiles path rest).flatMap (·.2) := by
      rw [entryFiles]
      split
      · rename_i hskip
        rw [Bool.and_eq_true] at hskip
        refine (or_iff_right ?_).symm
        rintro ⟨below, -, hfile, hopen⟩
        have hname := ((open_cons name below).mp hopen).1 (hfile.isDirectory_iff.mp hskip.1)
        rw [hskip.2] at hname
        cases hname
      · rename_i hskip
        rw [List.flatMap_cons, List.mem_append]
        refine or_congr_left ?_
        rw [mem_files (path ++ [name]) names bytes tree]
        refine exists_congr fun below => ?_
        rw [List.append_assoc, List.singleton_append, open_cons]
        refine and_congr_right fun _ => and_congr_right fun hfile => (and_iff_right ?_).symm
        intro hne
        have hdirectory := hfile.isDirectory_iff.mpr hne
        rw [hdirectory, Bool.true_and, Bool.not_eq_true] at hskip
        exact hskip
    rw [hsplit, ih]
    constructor
    · rintro (⟨below, hnames, hfile, hopen⟩ | ⟨name', tree', below, hentry, hfile⟩)
      · exact ⟨name, tree, below, List.mem_cons_self, hnames, hfile, hopen⟩
      · exact ⟨name', tree', below, List.mem_cons_of_mem _ hentry, hfile⟩
    · rintro ⟨name', tree', below, hentry, hfile⟩
      rcases List.mem_cons.mp hentry with heq | hentry
      · cases heq
        exact .inl ⟨below, hfile⟩
      · exact .inr ⟨name', tree', below, hentry, hfile⟩

end

/-! ## The registry -/

/-- Whether a file has one of the extensions and no pattern leaves it out. -/
def isKept (root : String) (globs : List Glob) (names : List String) : Bool :=
  !(!isScanned (names.getLast?.getD (Path.fileName root)) ||
    globs.any (·.isMatch (relativePath names)))

/-- The entry of a file that is text. -/
def read? (file : List String × List Nat) : Option FileEntry :=
  (Text.Utf8.decode? file.2).map fun text =>
    .ofPath (relativePath file.1) (String.ofList text)

variable {root : String} {globs : List Glob} {file : List String × List Nat}
  {found : List (List String × List Nat)}

/-- A file that is taken in is text. -/
def Readable (root : String) (globs : List Glob) (file : List String × List Nat) : Prop :=
  isKept root globs file.1 = true → Text.Utf8.decode? file.2 ≠ none

end Scan

/-! ## Registries of entries -/

namespace Registry

variable {r : Registry} {key : String} {e : FileEntry} {entries : List FileEntry}

end Registry

/-! ## Paths below a directory -/

namespace Text

/-- The characters of joined parts are the joined characters. -/
lemma toList_joinWith (sep : String) (parts : List String) :
    (joinWith sep parts).toList = join sep.toList (parts.map String.toList) := by
  induction parts with
  | nil => rfl
  | cons p parts ih =>
    cases parts with
    | nil => rfl
    | cons q rest =>
      rw [joinWith, String.toList_append, String.toList_append, ih]
      rfl

/-- A character of a joined text comes from the separator or from a part. -/
lemma mem_join {sep : List Char} {c : Char} {parts : List (List Char)} (h : c ∈ join sep parts) :
    c ∈ sep ∨ ∃ p ∈ parts, c ∈ p := by
  induction parts with
  | nil => cases h
  | cons p parts ih =>
    by_cases hparts : parts = []
    · rw [hparts] at h
      exact .inr ⟨p, List.mem_cons_self, h⟩
    · rw [join_cons hparts, List.mem_append, List.mem_append] at h
      rcases h with (hp | hsep) | hrest
      · exact .inr ⟨p, List.mem_cons_self, hp⟩
      · exact .inl hsep
      · exact (ih hrest).imp_right fun ⟨q, hq, hc⟩ => ⟨q, List.mem_cons_of_mem _ hq, hc⟩

end Text

open Text (joinWith toList_joinWith)

variable {names names' : List String}

/-- There is no backslash to be turned. -/
lemma relativePath_eq (h : ∀ name ∈ names, FileTree.IsEntryName name) :
    Scan.relativePath names = joinWith "/" names := by
  refine String.toList_injective ?_
  rw [Scan.relativePath, Path.forwardSlashes, String.toList_ofList]
  refine (List.map_congr_left fun c hc => ?_).trans (List.map_id _)
  rw [toList_joinWith] at hc
  have hne : c ≠ '\\' := by
    rintro rfl
    rcases Text.mem_join hc with hsep | ⟨part, hpart, hin⟩
    · exact absurd hsep (by decide)
    · obtain ⟨name, hname, rfl⟩ := List.mem_map.mp hpart
      exact (h name hname).2.2 hin
  exact if_neg hne

namespace Path

/-- What a path starts with, beside the names: the root or the current directory. -/
def lead (text : List Char) : List Component :=
  if text.head? = some '/' then [.root]
  else if (segments text).head? = some ['.'] then [.current] else []

end Path

/-! ## Scans -/

namespace Scan

/-- The files of a tree that belong to the library: those with one of the extensions, in no hidden
directory and in none of installed packages, whose path no pattern matches. -/
structure Selects (ignore : List String) (tree : FileTree) (names : List String)
    (bytes : List Nat) : Prop where
  holds : tree.Holds names bytes
  scanned : ∃ name, names.getLast? = some name ∧
    ∃ ending ∈ extensions, Text.hasSuffix ending name = true
  visible : ∀ directory ∈ names.dropLast,
    Text.hasPrefix "." directory = false ∧ directory ≠ "node_modules"
  kept : ∀ pattern ∈ ignore, ∀ g, Glob.parse pattern = .ok g →
    g.isMatch (joinWith "/" names) = false

variable {ignore : List String} {root : String} {globs : List Glob}
  {entries : List (String × FileTree)} {bytes : List Nat} {e : FileEntry}

/-- A file is open where no directory above it is hidden or holds packages. -/
lemma open_iff : Open names ↔ ∀ directory ∈ names.dropLast,
    Text.hasPrefix "." directory = false ∧ directory ≠ "node_modules" := by
  simp [Open, isSkipped]

/-- The files that a walk comes to and that are taken in are those that belong to the library. -/
lemma selects_iff (hlegal : (FileTree.directory entries).Legal)
    (hglobs : ∀ g, g ∈ globs ↔ ∃ pattern ∈ ignore, Glob.parse pattern = .ok g) :
    (names, bytes) ∈ files [] (.directory entries) ∧ isKept root globs names = true ↔
      Selects ignore (.directory entries) names bytes := by
  have hfiles : (names, bytes) ∈ files [] (.directory entries) ↔
      (FileTree.directory entries).Holds names bytes ∧ Open names := by
    rw [mem_files]
    simp
  have hkept (h : (FileTree.directory entries).Holds names bytes) :
      isKept root globs names = true ↔
        (∃ name, names.getLast? = some name ∧
          ∃ ending ∈ extensions, Text.hasSuffix ending name = true) ∧
        ∀ pattern ∈ ignore, ∀ g, Glob.parse pattern = .ok g →
          g.isMatch (joinWith "/" names) = false := by
    have hne : names ≠ [] := h.isDirectory_iff.mp rfl
    rw [isKept, relativePath_eq (h.isEntryName hlegal), List.getLast?_eq_some_getLast hne,
      Bool.not_or, Bool.not_not, Bool.and_eq_true, Bool.not_eq_true']
    refine and_congr (by simp [isScanned]) ?_
    rw [List.any_eq_false]
    constructor
    · intro hnone pattern hpattern g hg
      exact Bool.eq_false_iff.mpr (hnone g ((hglobs g).mpr ⟨pattern, hpattern, hg⟩))
    · intro hnone g hg
      obtain ⟨pattern, hpattern, hparse⟩ := (hglobs g).mp hg
      exact Bool.eq_false_iff.mp (hnone pattern hpattern g hparse)
  rw [hfiles]
  constructor
  · rintro ⟨⟨hfile, hopen⟩, hkeep⟩
    obtain ⟨hscanned, hleft⟩ := (hkept hfile).mp hkeep
    exact ⟨hfile, hscanned, open_iff.mp hopen, hleft⟩
  · rintro ⟨hfile, hscanned, hvisible, hleft⟩
    exact ⟨⟨hfile, open_iff.mpr hvisible⟩, (hkept hfile).mpr ⟨hscanned, hleft⟩⟩

end Scan

namespace FileTree

variable {entries : List (String × FileTree)} {bytes bytes' : List Nat}

end FileTree

section

variable {ignore : List String} {entries : List (String × FileTree)} {taken : List FileEntry}

end

end LiveBundle
