import LiveBundle.Proofs.Pass.Reach
import LiveBundle.Proofs.Path
import LiveBundle.Proofs.Session.Transparency

/-!
# When a pass ends

A file is found under its path and under every longer path that ends in it, and its relative imports
are followed from the path under which it was found. So one file may have any number of ids.

* `passEnds_iff`: a pass that does not fail ends if and only if finitely many library files are
  reached; it ends when files that were found under a longer path import no such files.
* `not_passEnds_nested`: the pass of a script that imports itself from below itself does not end.
-/

namespace LiveBundle

open Web (RequestFault Response)
open Pass (Reached Imports)

section

variable {answers : String → Except RequestFault Response} {env : Environment} {source : String}
  {registry : Registry} {s : Session}

/-- The pass of a source stops with an error. -/
def PassFails (env : Environment) (source : String) (s : Session) : Prop :=
  ∃ depth e, (buildGraphWithin depth source env s).1 = .error (.failed e)

/-! ## Finitely many files -/

lemma fileId_injective : Function.Injective Specifier.fileId := by
  intro p q h
  have hp := Specifier.filePath?_fileId p
  rw [h, Specifier.filePath?_fileId] at hp
  exact (Option.some.inj hp).symm

/-- A session without styles is as faithful as it was. -/
lemma faithful_resetStyles {base : String} (hs : s.Faithful answers base) :
    s.resetStyles.Faithful answers base := hs.congr rfl rfl rfl

/-- A pass ends when finitely many files are reached. -/
lemma passEnds_of_finite (steady : env.network = .steady answers)
    (hanswers : {url | ∃ r, answers url = .ok r ∧ r.isSuccess = true}.Finite)
    (hs : s.Faithful answers env.config.cdnBase)
    (hfinite : {path | Reached answers env (passFiles env source s)
      (Specifier.fileId path)}.Finite) : PassEnds env source s := by
  -- Only files that are reached and modules that are fetched import anything.
  have himporters := (hfinite.image Specifier.fileId).union hanswers
  rw [passEnds_iff_exists_depth]
  refine ⟨(Pass.unvisited himporters.toFinset ModuleGraph.empty).card + 1, ?_⟩
  rw [Action.Ends, run_buildGraphWithin]
  refine Pass.visit_ends himporters.toFinset steady ?_ Relation.ReflTransGen.refl
    (faithful_resetStyles hs) (Nat.lt_succ_self _)
  intro id code syntax_ t t' hreached ht hprep hdeps
  rw [Set.Finite.mem_toFinset]
  rcases Pass.file_or_fetched_of_prepare steady ht hprep hdeps with ⟨path, rfl⟩ | hfetched
  · exact Or.inl ⟨path, hreached, rfl⟩
  · exact Or.inr hfetched

/-- A pass with a graph has reached finitely many files. -/
lemma finite_of_graph (steady : env.network = .steady answers)
    (hs : s.Faithful answers env.config.cdnBase) {depth : Nat} {g : ModuleGraph} {s' : Session}
    (h : buildGraphWithin depth source env s = (.ok g, s')) :
    {path | Reached answers env (passFiles env source s) (Specifier.fileId path)}.Finite := by
  rw [run_buildGraphWithin] at h
  obtain ⟨⟨new, hgrown, -⟩, hentry, -⟩ := Pass.visit_grows
    (I := Pass.faithful steady (passFiles env source s)) depth true (faithful_resetStyles hs) h
  -- The ids of the graph are finitely many, and it has all that is reached.
  have hmodules : g.modules = new := hgrown.modules
  refine ((g.ids.finite_toSet).preimage fileId_injective.injOn).subset fun path hpath => ?_
  exact Pass.reached_mem_ids steady (fun m hm => hgrown.settled m (hmodules ▸ hm)) hentry hpath

/-- A registry has finitely many paths. -/
lemma finite_paths (files : Registry) : {path | (files.get? path).isSome}.Finite :=
  files.files.keys.finite_toSet.subset fun path h => (Dict.mem_keys _ path).mpr h

/-- A module imports finitely many files. -/
lemma finite_imported_files (steady : env.network = .steady answers) (files : Registry)
    (id : String) : {path | Imports answers env files id (Specifier.fileId path)}.Finite := by
  have hpreimage : {path | Imports answers env files id (Specifier.fileId path)} =
      Set.preimage Specifier.fileId {target | Imports answers env files id target} := rfl
  rw [hpreimage]
  exact (Pass.finite_imports steady id).preimage fileId_injective.injOn

/-- Finitely many files are reached when files that were found under a longer path import no such
files. -/
lemma finite_of_no_detour (steady : env.network = .steady answers) {files : Registry}
    (hanswers : {url | ∃ r, answers url = .ok r ∧ r.isSuccess = true}.Finite)
    (hdetour : ∀ path target, Reached answers env files (Specifier.fileId path) →
      files.get? path = none → Imports answers env files (Specifier.fileId path)
        (Specifier.fileId target) → (files.get? target).isSome) :
    {path | Reached answers env files (Specifier.fileId path)}.Finite := by
  -- A file that is reached is the entry, has a path of its own, or is imported by a file with a
  -- path of its own or by a fetched module.
  have hcover := ((Set.finite_singleton entryPath).union (finite_paths files)).union
    (((finite_paths files).biUnion fun path _ =>
        finite_imported_files steady files (Specifier.fileId path)).union
      (hanswers.biUnion fun url _ => finite_imported_files steady files url))
  refine hcover.subset fun path hpath => ?_
  rcases Relation.ReflTransGen.cases_tail hpath with hentry | ⟨id, hid, himports⟩
  · exact Or.inl (Or.inl (fileId_injective hentry))
  · have hfrom := himports
    obtain ⟨code, syntax_, specifier, t, t', -, -, ht, hprep, hmem, -⟩ := hfrom
    rcases Pass.file_or_fetched_of_prepare steady ht hprep (List.ne_nil_of_mem hmem) with
      ⟨importer, rfl⟩ | hfetched
    · cases hown : files.get? importer with
      | none => exact Or.inl (Or.inr (hdetour importer path hid hown himports))
      | some e =>
        exact Or.inr (Or.inl (Set.mem_biUnion (by simp [hown]) himports))
    · exact Or.inr (Or.inr (Set.mem_biUnion hfetched himports))

/-! ## The end of a pass -/

/-- After any messages, a pass that does not fail ends if and only if it reaches finitely many
files. It does so when files that were found under a longer path import no such files. -/
theorem passEnds_iff (steady : env.network = .steady answers)
    (hanswers : {url | ∃ r, answers url = .ok r ∧ r.isSuccess = true}.Finite)
    (registry : Registry) (texts : List String) (source : String) :
    let s := (Worker.handleAll env texts (Session.start registry)).2
    let files := passFiles env source s
    (PassEnds env source s ↔ PassFails env source s ∨
      {path | Reached answers env files (Specifier.fileId path)}.Finite) ∧
    ((∀ path target, Reached answers env files (Specifier.fileId path) → files.get? path = none →
        Imports answers env files (Specifier.fileId path) (Specifier.fileId target) →
        (files.get? target).isSome) → PassEnds env source s) := by
  intro s files
  have hs : s.Faithful answers env.config.cdnBase :=
    Worker.handleAll_faithful steady texts (Session.Faithful.start registry)
  refine ⟨⟨fun h => ?_, ?_⟩, fun h => ?_⟩
  · -- A pass that is not cut off has failed or has a graph.
    obtain ⟨depth, hend⟩ := passEnds_iff_exists_depth.mp h
    rcases hrun : buildGraphWithin depth source env s with ⟨(e | _) | g, s'⟩
    · exact Or.inl ⟨depth, e, congrArg Prod.fst hrun⟩
    · exact absurd (congrArg Prod.fst hrun) hend
    · exact Or.inr (finite_of_graph steady hs hrun)
  · rintro (⟨depth, e, hfail⟩ | hfinite)
    · refine passEnds_iff_exists_depth.mpr ⟨depth, ?_⟩
      rw [Action.Ends, hfail]
      exact fun h => by cases h
    · exact passEnds_of_finite steady hanswers hs hfinite
  · exact passEnds_of_finite steady hanswers hs (finite_of_no_detour steady hanswers h)

/-- A machine that is not connected gets no text from anywhere. -/
lemma finite_offline :
    {url | ∃ r, Web.Network.offline [] url = .ok r ∧ r.isSuccess = true}.Finite := by
  refine Set.finite_empty.subset ?_
  rintro url ⟨r, hr, -⟩
  unfold Web.Network.offline Web.Network.steady at hr
  simp only at hr
  split at hr <;> cases hr

/-- The end of a pass without a network. -/
theorem passEnds_iff_offline :
    let env : Environment := { config := {}, network := .offline, styleCompiler := .ok }
    let s := Session.start .empty
    PassEnds env "import './__entry__.js';" s ↔ PassFails env "import './__entry__.js';" s ∨
      {path | Reached (Web.Network.offline []) env (passFiles env "import './__entry__.js';" s)
        (Specifier.fileId path)}.Finite :=
  (passEnds_iff rfl finite_offline .empty [] "import './__entry__.js';").1

end

/-! ## A pass without end -/

namespace Nested

/-- A script that imports itself from below itself. -/
def source : String := "import './x/__entry__.js';"

/-- The path of the script after `n` imports. -/
def path : Nat → List Char
  | 0 => entryPath.toList
  | n + 1 => 'x' :: '/' :: path n

/-- The directory of the path after `n + 1` imports. -/
def directory : Nat → List Char
  | 0 => ['x']
  | n + 1 => 'x' :: '/' :: directory n

/-- The environment of the pass. -/
def environment : Environment := { config := {}, network := .offline, styleCompiler := .ok }

/-- The files of the pass. -/
def files : Registry := passFiles environment source (Session.start .empty)

/-- The id of the script after `n` imports. -/
def moduleId (n : Nat) : String := Specifier.fileId (String.ofList (path n))

lemma path_succ (n : Nat) : path (n + 1) = directory n ++ '/' :: entryPath.toList := by
  induction n with
  | zero => rfl
  | succ n ih =>
    rw [path, ih]
    rfl

lemma length_path (n : Nat) : (path n).length = 2 * n + 12 := by
  induction n with
  | zero => rfl
  | succ n ih =>
    rw [path, List.length_cons, List.length_cons, ih]
    omega

/-- The script has a new id after each import. -/
lemma moduleId_injective : Function.Injective moduleId := by
  intro m n h
  have hpath : path m = path n := String.ofList_injective (fileId_injective h)
  have hlength := congrArg List.length hpath
  rw [length_path, length_path] at hlength
  omega

lemma fields_directory (n : Nat) :
    Text.fields '/' (directory n) = List.replicate (n + 1) ['x'] := by
  induction n with
  | zero => rfl
  | succ n ih =>
    have hsplit : directory (n + 1) = ['x'] ++ '/' :: directory n := rfl
    rw [hsplit, Text.fields_append, ih]
    rfl

lemma join_names (n : Nat) :
    Text.join ['/'] (List.replicate n ['x'] ++ [entryPath.toList]) = path n := by
  induction n with
  | zero => rfl
  | succ n ih =>
    rw [List.replicate_succ, List.cons_append, Text.join_cons (by simp), ih]
    rfl

/-- The import leads to the next path. -/
lemma resolve_path (n : Nat) :
    Path.resolve (String.ofList (path n)) "./x/__entry__.js" =
      some (String.ofList (path (n + 1))) := by
  have hnames : ∀ k, ∀ name ∈ List.replicate k ['x'] ++ [entryPath.toList],
      name ≠ [] ∧ name ≠ ['.'] ∧ name ≠ ['.', '.'] := by
    intro k name hname
    rcases List.mem_append.mp hname with h | h
    · rw [List.eq_of_mem_replicate h]
      decide
    · rw [List.mem_singleton.mp h]
      decide
  cases n with
  | zero => rfl
  | succ n =>
    have hparent : Path.parent (String.ofList (path (n + 1))) = String.ofList (directory n) := by
      rw [Path.parent, String.toList_ofList, path_succ, Text.splitAtLast?_append _ (by decide)]
    have hsegments :
        Path.segments (String.ofList (directory n) ++ "/" ++ "./x/__entry__.js").toList =
          List.replicate (n + 1) ['x'] ++ ['.'] :: (['x'] :: [entryPath.toList]) := by
      rw [Path.segments, String.toList_append, String.toList_append, String.toList_ofList,
        List.append_assoc]
      show Text.fields '/' (directory n ++ '/' :: _) = _
      rw [Text.fields_append, fields_directory]
      rfl
    have hcollapse : Path.collapse [] (List.replicate (n + 1) ['x'] ++
        ['.'] :: (['x'] :: [entryPath.toList])) =
        some (List.replicate (n + 2) ['x'] ++ [entryPath.toList]).reverse := by
      rw [Path.collapse_names _ _ fun name h => hnames (n + 1) name (List.mem_append_left _ h),
        Path.collapse_skip _ _ (Or.inr rfl)]
      have hrest : ∀ name ∈ [['x'], entryPath.toList],
          name ≠ [] ∧ name ≠ ['.'] ∧ name ≠ ['.', '.'] := by decide
      rw [← List.append_nil (['x'] :: [entryPath.toList]), Path.collapse_names _ _ hrest,
        List.replicate_succ' (n := n + 1)]
      simp [Path.collapse]
    rw [Path.resolve, hparent, Path.clean, hsegments, hcollapse, Option.map_some,
      List.reverse_reverse, join_names]

/-- The script is the only file. -/
lemma get?_files (p : String) : files.get? p =
    if entryPath = p then some (FileEntry.ofPath entryPath source) else none := by
  have hfiles : files.files =
      Dict.empty.insert entryPath (FileEntry.ofPath entryPath source) := by
    have hentries : overlayEntries environment source = [FileEntry.ofPath entryPath source] := by
      rw [overlayEntries, if_neg (by decide +kernel)]
    have hpath : (FileEntry.ofPath entryPath source).path = entryPath := by decide +kernel
    rw [files, passFiles, hentries]
    show Dict.empty.insert (FileEntry.ofPath entryPath source).path _ = _
    rw [hpath]
  rw [Registry.get?, hfiles, Dict.get?_insert, Dict.get?_empty]

/-- The script is found under every path. -/
lemma find?_path (n : Nat) :
    files.find? (String.ofList (path n)) = some (FileEntry.ofPath entryPath source) := by
  rw [Registry.find?, String.toList_ofList]
  induction n with
  | zero =>
    rw [List.findSome?_cons, get?_files]
    rfl
  | succ n ih =>
    -- Without its first segment the path is one that was looked up before.
    have hsuffixes : Registry.suffixes (path (n + 1)) = path n :: Registry.suffixes (path n) := rfl
    rw [hsuffixes, List.findSome?_cons, ih, get?_files]
    split <;> rename_i h <;> split at h <;> simp_all

/-- What a module id ends with is seen at the name of the script. -/
lemma hasSuffix_moduleId (n : Nat) {q : String} (h : q.toList.length ≤ entryPath.toList.length) :
    Text.hasSuffix q (moduleId n) = Text.hasSuffix q entryPath := by
  obtain ⟨front, hfront⟩ : ∃ front, path n = front ++ entryPath.toList := by
    cases n with
    | zero => exact ⟨[], rfl⟩
    | succ n => exact ⟨directory n ++ ['/'], by rw [path_succ, List.append_assoc]; rfl⟩
  rw [moduleId, hfront, Specifier.fileId, String.ofList_append, String.ofList_toList,
    ← String.append_assoc, Text.hasSuffix_append _ h]

/-- Every time the script is prepared it imports from below itself. -/
lemma prepare_moduleId : ∃ syntax_ : ModuleSyntax, syntax_.dependencies = ["./x/__entry__.js"] ∧
    ∀ n s, Pass.prepare (providers environment.config files) (moduleId n) environment s =
      (.ok (source, syntax_), s) := by
  have hread : (Script.Program.parse false source.toList).map (fun program =>
      (ModuleSyntax.unsupported? program.items, (ModuleSyntax.ofProgram program).dependencies)) =
      some (none, ["./x/__entry__.js"]) := by decide +kernel
  obtain ⟨program, hprogram, hfields⟩ := Option.map_eq_some_iff.mp hread
  obtain ⟨hsupported, hdeps⟩ := Prod.mk.inj hfields
  refine ⟨ModuleSyntax.ofProgram program, hdeps, fun n s => ?_⟩
  have hsuffix : ∀ q ∈ [".svg", ".json", ".svelte", ".ts"],
      Text.hasSuffix q (moduleId n) = false := by
    intro q hq
    have hclosed : ∀ q ∈ [".svg", ".json", ".svelte", ".ts"],
        q.toList.length ≤ entryPath.toList.length ∧ Text.hasSuffix q entryPath = false := by decide
    rw [hasSuffix_moduleId n (hclosed q hq).1, (hclosed q hq).2]
  refine Pass.prepare_eq_ok.mpr ⟨source, s, ?_, ?_, ?_⟩
  · rw [moduleId, load_file, find?_path]
    rfl
  · have hvector : LibraryFile.isVector files (moduleId n) (String.ofList (path n)) = false := by
      rw [LibraryFile.isVector, Specifier.vectorExtension, hsuffix ".svg" (by simp), get?_files]
      split <;> rfl
    rw [moduleId, transform_plain hvector (hsuffix ".json" (by simp))
      (hsuffix ".svelte" (by simp))]
    rfl
  · have htyped : ModuleSyntax.isTyped (moduleId n) = false := hsuffix ".ts" (by simp)
    exact ModuleSyntax.parse_of_program (htyped ▸ hprogram) hsupported

lemma resolveImport_moduleId (n : Nat) (s : Session) :
    Pass.resolveImport (providers environment.config files) (moduleId n) "./x/__entry__.js"
      environment s = (.ok (moduleId (n + 1)), s) := by
  have hlibrary : LibraryFile.resolve environment.config.facade "./x/__entry__.js"
      (some (moduleId n)) = some (moduleId (n + 1)) := by
    rw [LibraryFile.resolve, if_neg (by decide), if_neg (by decide), if_neg (by decide),
      Option.any_some, moduleId, Specifier.isRemote_fileId, if_neg (by decide), if_pos (by decide),
      Option.bind_some, Specifier.filePath?_fileId, Option.bind_some, resolve_path]
    rfl
  have hskip : (styleStubProvider : Provider Action).resolve "./x/__entry__.js"
      (some (moduleId n)) = pure none := by
    show pure (if Specifier.isStylesheet "./x/__entry__.js" then _ else none) = _
    rw [if_neg (by decide)]
  have hdone : (libraryProvider environment.config.facade files).resolve "./x/__entry__.js"
      (some (moduleId n)) = pure (some (moduleId (n + 1))) := by
    show pure (LibraryFile.resolve _ _ _) = _
    rw [hlibrary]
  rw [Pass.resolveImport, providers, Chain.resolve_skip hskip, Chain.resolve_done hdone]
  rfl

/-- However deep imports may go, the visit of the script is cut off. -/
lemma not_visit_ends (depth : Nat) {isEntry : Bool} {n : Nat} {g : ModuleGraph} {s : Session}
    (hg : ∀ k ≥ n, moduleId k ∉ g.ids) :
    ¬ (Pass.visit (providers environment.config files) depth isEntry (moduleId n) g).Ends
      environment s := by
  have hnew : g.contains (moduleId n) = false := by
    rw [← Bool.not_eq_true, ModuleGraph.contains_iff]
    exact hg n (Nat.le_refl n)
  induction depth generalizing isEntry n g s with
  | zero =>
    rw [Pass.visit, if_neg (by rw [hnew]; decide)]
    exact fun h => h rfl
  | succ depth ih =>
    rw [Pass.visit, if_neg (by rw [hnew]; decide), Action.ends_inModule]
    intro h
    obtain ⟨syntax_, hdeps, hprepare⟩ := prepare_moduleId
    have hfollow := h.of_bind_of_ok (hprepare n s)
    simp only [hdeps, Pass.followImports] at hfollow
    have hvisit := (hfollow.of_bind_of_ok (resolveImport_moduleId n s)).of_bind
    -- The next id is as new as this one was.
    have hnext : ∀ k ≥ n + 1,
        moduleId k ∉ (g.add ⟨moduleId n, source, syntax_, isEntry, Dict.empty⟩).ids := by
      intro k hk hmem
      rw [ModuleGraph.ids_add (hg n (Nat.le_refl n)), List.mem_append, List.mem_singleton] at hmem
      rcases hmem with hmem | hmem
      · exact hg k (Nat.le_of_succ_le hk) hmem
      · have hkn := moduleId_injective hmem
        omega
    refine ih hnext ?_ hvisit
    rw [← Bool.not_eq_true, ModuleGraph.contains_iff]
    exact hnext (n + 1) (Nat.le_refl _)

end Nested

/-- The pass of a script that imports itself from below itself does not end, although there is no
file besides the script and no text comes from the network. -/
theorem not_passEnds_nested :
    {url | ∃ r, Web.Network.offline [] url = .ok r ∧ r.isSuccess = true}.Finite ∧
      ¬ PassEnds { config := {}, network := .offline, styleCompiler := .ok }
        "import './x/__entry__.js';" (Session.start .empty) := by
  refine ⟨finite_offline, fun h => ?_⟩
  obtain ⟨depth, hend⟩ := passEnds_iff_exists_depth.mp h
  rw [Action.Ends, run_buildGraphWithin] at hend
  exact Nested.not_visit_ends depth (n := 0) (fun _ _ => List.not_mem_nil) hend

end LiveBundle
