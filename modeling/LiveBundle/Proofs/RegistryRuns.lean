import LiveBundle.Proofs.Registry.Lookup
import LiveBundle.Proofs.Worker.Protocol
import LiveBundle.Registry.Scan

/-!
# What a registry holds under its paths

A registry that is built from paths and contents holds under every path an entry of that path, with
the fields that are derived from it. One that is decoded from a text, or delivered by a message,
holds what the text says.

* `Registry.ConsistentAt` is the property at one path, `Registry.Step` one way to come to a
  registry.
* `Registry.consistentAt_apply_iff`: what one step does to the property.
* `Registry.consistentAt_run_iff`: what any steps do to it.
* `Registry.consistentAt_iff` puts these together for the registry of a session.
-/

namespace LiveBundle

/-! ## Entries -/

/-- All fields of an entry but its path and its source are those that are derived from its path. -/
def FileEntry.Derived (e : FileEntry) : Prop :=
  e = { FileEntry.ofPath e.path e.source with path := e.path }

lemma FileEntry.path_ofPath (path source : String) :
    (FileEntry.ofPath path source).path = Text.trimDotSlash path := by
  simp only [FileEntry.ofPath]

lemma FileEntry.derived_ofPath (path source : String) : (FileEntry.ofPath path source).Derived := by
  unfold FileEntry.Derived
  simp only [FileEntry.ofPath, trimDotSlash_trimDotSlash]

namespace Registry

/-- What is stored under a path is an entry of this path with the fields derived from it. -/
def ConsistentAt (r : Registry) (path : String) : Prop :=
  ∀ e, r.get? path = some e → e.path = path ∧ e.Derived

/-! ## Building registries -/

/-- The entries of some paths and contents. -/
def entriesOf (files : List (String × String)) : List FileEntry :=
  files.map fun (path, source) => .ofPath path source

variable {r : Registry} {path : String}

lemma consistentAt_empty (path : String) : empty.ConsistentAt path := nofun

/-- An entry that is made from a path settles what is stored under the path. -/
lemma consistentAt_insert_iff (p source : String) :
    (r.insert (.ofPath p source)).ConsistentAt path ↔
      (Text.trimDotSlash p ≠ path → r.ConsistentAt path) := by
  have hpath := FileEntry.path_ofPath p source
  have hderived := FileEntry.derived_ofPath p source
  generalize FileEntry.ofPath p source = e at hpath hderived
  unfold ConsistentAt
  rw [Registry.get?, Registry.insert, Dict.get?_insert, ← hpath]
  split
  · rename_i heq
    refine iff_of_true ?_ fun hne => absurd heq hne
    rintro _ ⟨⟩
    exact ⟨heq, hderived⟩
  · rename_i hne
    exact ⟨fun h _ => h, fun h => h hne⟩

lemma consistentAt_overlay_iff (files : List (String × String)) :
    (r.overlay (entriesOf files)).ConsistentAt path ↔
      ((∀ f ∈ files, Text.trimDotSlash f.1 ≠ path) → r.ConsistentAt path) := by
  induction files generalizing r with
  | nil => exact ⟨fun h _ => h, fun h => h fun _ hf => absurd hf List.not_mem_nil⟩
  | cons f files ih =>
    have hoverlay : r.overlay (entriesOf (f :: files)) =
        (r.insert (.ofPath f.1 f.2)).overlay (entriesOf files) := rfl
    rw [hoverlay, ih, consistentAt_insert_iff, List.forall_mem_cons]
    exact ⟨fun h hall => h hall.2 hall.1, fun h hfiles hf => h ⟨hf, hfiles⟩⟩

lemma consistentAt_ofEntries (files : List (String × String)) (path : String) :
    (ofEntries (entriesOf files)).ConsistentAt path :=
  (consistentAt_overlay_iff files).mpr fun _ => consistentAt_empty path

/-- A file that is scanned keeps the registry consistent. -/
lemma consistentAt_add {root : String} {globs : List Glob} {file : List String × List Nat}
    {r' : Registry} (h : Scan.add root globs r file = .ok r') (hr : r.ConsistentAt path) :
    r'.ConsistentAt path := by
  unfold Scan.add at h
  dsimp only at h
  split at h
  · cases h
    exact hr
  · split at h
    · cases h
      exact (consistentAt_insert_iff _ _).mpr fun _ => hr
    · cases h

lemma consistentAt_scan {root : String} {ignore : List String} {tree : Option FileTree}
    {r : Registry} (h : scanLibrary root ignore tree = .ok r) : r.ConsistentAt path := by
  have hfold {globs : List Glob} {files : List (List String × List Nat)} {r₀ : Registry}
      (hfiles : files.foldlM (Scan.add root globs) r₀ = .ok r) (hr₀ : r₀.ConsistentAt path) :
      r.ConsistentAt path := by
    induction files generalizing r₀ with
    | nil =>
      cases hfiles
      exact hr₀
    | cons file files ih =>
      rw [List.foldlM_cons] at hfiles
      cases hadd : Scan.add root globs r₀ file with
      | error fault => rw [hadd] at hfiles; cases hfiles
      | ok r₁ =>
        rw [hadd] at hfiles
        exact ih hfiles (consistentAt_add hadd hr₀)
  unfold scanLibrary at h
  cases hglobs : ignore.mapM Scan.readPattern with
  | error fault => rw [hglobs] at h; cases h
  | ok globs =>
    rw [hglobs] at h
    cases tree with
    | none => cases h
    | some tree => exact hfold h (consistentAt_empty path)

/-! ## Steps -/

/-- A way to come to a registry. -/
inductive Step where
  /-- An entry of a path and a content is inserted. -/
  | insert (path source : String)
  /-- Entries of paths and contents are laid on top. -/
  | overlay (files : List (String × String))
  /-- The registry of entries of paths and contents. -/
  | ofEntries (files : List (String × String))
  | scan (root : String) (ignore : List String) (tree : Option FileTree)
  /-- A text is decoded. -/
  | load (text : String)
  /-- A worker is handed a message. -/
  | message (text : String)

namespace Step

/-- The registry that a step takes from a text as it is. -/
def decoded? : Step → Option Registry
  | .load text => (decode text).toOption
  | .message text => Worker.delivered? text
  | _ => none

/-- The registry after a step; a step that fails leaves it. -/
def apply : Step → Registry → Registry
  | .insert path source, r => r.insert (.ofPath path source)
  | .overlay files, r => r.overlay (entriesOf files)
  | .ofEntries files, _ => Registry.ofEntries (entriesOf files)
  | .scan root ignore tree, r => (scanLibrary root ignore tree).toOption.getD r
  | .load text, r => (decode text).toOption.getD r
  | .message text, r => (Worker.delivered? text).getD r

/-- After a step, nothing is left of what was stored under a path. -/
def Settles (path : String) : Step → Prop
  | .insert p _ => Text.trimDotSlash p = path
  | .overlay files => ∃ f ∈ files, Text.trimDotSlash f.1 = path
  | .ofEntries _ => True
  | .scan root ignore tree => (scanLibrary root ignore tree).toOption.isSome = true
  | .load text => (decode text).toOption.isSome = true
  | .message text => (Worker.delivered? text).isSome = true

end Step

/-- A registry that may be replaced by another one. -/
lemma consistentAt_getD_iff {new : Option Registry} :
    (new.getD r).ConsistentAt path ↔
      (¬new.isSome = true → r.ConsistentAt path) ∧ ∀ d, new = some d → d.ConsistentAt path := by
  cases new with
  | none => simp
  | some d => simp

/-- After a step, what is stored under a path is as it should be if it was so before, or if the step
settles it, and not with an entry from a text that is not. -/
lemma consistentAt_apply_iff (step : Step) :
    (step.apply r).ConsistentAt path ↔
      (¬step.Settles path → r.ConsistentAt path) ∧
        ∀ d, step.decoded? = some d → d.ConsistentAt path := by
  cases step with
  | insert p source =>
    exact (consistentAt_insert_iff p source).trans (and_iff_left_of_imp fun _ => nofun).symm
  | overlay files =>
    refine (consistentAt_overlay_iff files).trans ?_
    simp [Step.Settles, Step.decoded?]
  | ofEntries files =>
    exact iff_of_true (consistentAt_ofEntries files path) ⟨fun h => absurd trivial h, nofun⟩
  | scan root ignore tree =>
    refine consistentAt_getD_iff.trans (and_congr_right fun _ => iff_of_true ?_ nofun)
    intro d hd
    cases hscan : scanLibrary root ignore tree with
    | error fault => rw [hscan] at hd; cases hd
    | ok r =>
      rw [hscan] at hd
      cases hd
      exact consistentAt_scan hscan
  | load text => exact consistentAt_getD_iff
  | message text => exact consistentAt_getD_iff

/-! ## Runs -/

/-- The registry after steps one after the other. -/
def run (steps : List Step) (r : Registry) : Registry := steps.foldl (fun r step => step.apply r) r

/-- What holds of all places of a list holds of its head and of all places behind it. -/
lemma forall_split_cons {α : Type} {P : α → List α → Prop} (a : α) (l : List α) :
    (∀ before b after, a :: l = before ++ b :: after → P b after) ↔
      P a l ∧ ∀ before b after, l = before ++ b :: after → P b after := by
  have hnone := not_congr (Worker.exists_split_cons (P := fun b after => ¬P b after) a l)
  push Not at hnone
  exact hnone

/-- After some steps, what is stored under a path is as it should be, unless it was not before or in
a registry that was decoded, and no step since has settled it. -/
lemma consistentAt_run_iff (steps : List Step) :
    (run steps r).ConsistentAt path ↔
      ((∀ step ∈ steps, ¬step.Settles path) → r.ConsistentAt path) ∧
        ∀ before step after, steps = before ++ step :: after → ∀ d, step.decoded? = some d →
          (∀ later ∈ after, ¬later.Settles path) → d.ConsistentAt path := by
  induction steps generalizing r with
  | nil => simp [run]
  | cons step steps ih =>
    have hrun : run (step :: steps) r = run steps (step.apply r) := rfl
    rw [hrun, ih, consistentAt_apply_iff, forall_split_cons, List.forall_mem_cons]
    constructor
    · rintro ⟨hbefore, hsteps⟩
      exact ⟨fun h => (hbefore h.2).1 h.1, fun d hd h => (hbefore h).2 d hd, hsteps⟩
    · rintro ⟨hr, hd, hsteps⟩
      exact ⟨fun h => ⟨fun hstep => hr ⟨hstep, h⟩, fun d hdecoded => hd d hdecoded h⟩, hsteps⟩

/-- The messages that a worker is handed are steps to the registry of its session. -/
lemma registry_handleAll (env : Environment) (texts : List String) (s : Session) :
    (Worker.handleAll env texts s).2.registry = run (texts.map .message) s.registry := by
  induction texts generalizing s with
  | nil => rfl
  | cons text texts ih =>
    have hstep : (Worker.Turn.after env ⟨text, s⟩).registry =
        Step.apply (.message text) s.registry := Worker.Turn.registry_after ⟨text, s⟩
    show (Worker.handleAll env texts (Worker.Turn.after env ⟨text, s⟩)).2.registry = _
    rw [ih, hstep]
    rfl

lemma lookup_of_mem {α : Type} {entries : List (String × α)} {key : String} {a : α}
    (hascending : entries.Pairwise fun a b => a.1 < b.1) (h : (key, a) ∈ entries) :
    Dict.lookup key entries = some a := by
  induction entries with
  | nil => cases h
  | cons e entries ih =>
    obtain ⟨hfirst, hascending⟩ := List.pairwise_cons.mp hascending
    rcases List.mem_cons.mp h with rfl | h
    · rw [Dict.lookup, if_pos rfl]
    · rw [Dict.lookup, if_neg (String.ne_of_lt (hfirst _ h)), ih hascending h]

/-- In a registry that is consistent under all paths, no two entries have one path. -/
lemma paths_of_consistentAt (h : ∀ path, r.ConsistentAt path) :
    r.files.values.map (·.path) = r.files.keys := by
  rw [Dict.values, Dict.keys, List.map_map]
  exact List.map_congr_left fun e he => (h e.1 e.2 (lookup_of_mem r.files.ascending he)).1

/-- The registry of a session comes about by steps before the session and by messages to a worker.
It holds under a path an entry of that path, with the fields derived from it, exactly if each
registry that was decoded from a text does, unless a later step has settled what is stored there.
Under all paths together, the paths of the entries are then the keys, in their order. -/
theorem consistentAt_iff (env : Environment) (before : List Step) (texts : List String) :
    let registry := (Worker.handleAll env texts (Session.start (run before empty))).2.registry
    let steps := before ++ texts.map .message
    (∀ path, registry.ConsistentAt path ↔
      ∀ earlier step later, steps = earlier ++ step :: later → ∀ d, step.decoded? = some d →
        (∀ step ∈ later, ¬step.Settles path) → d.ConsistentAt path) ∧
      ((∀ path, registry.ConsistentAt path) →
        registry.files.values.map (·.path) = registry.files.keys) := by
  intro registry steps
  have hrun : registry = run steps empty := by
    have hfold : run steps empty = run (texts.map .message) (run before empty) :=
      List.foldl_append
    rw [hfold]
    exact registry_handleAll env texts _
  refine ⟨fun path => ?_, paths_of_consistentAt⟩
  rw [hrun, consistentAt_run_iff]
  exact and_iff_right fun _ => consistentAt_empty path

/-- The text of a registry with an entry under a path that is not its own. -/
def crossedText : String :=
  "\x7b\"filesByPath\":\x7b\"a.js\":\x7b\"name\":\"b\",\"fullPath\":\"b.js\",\"source\":\"\"," ++
    "\"extension\":\".js\",\"isComponent\":true,\"isBinary\":false,\"directory\":\".\"\x7d\x7d\x7d"

/-- The message that delivers this registry. -/
def crossedMessage : String :=
  "\x7b\"type\":\"registry-updated\",\"registry\":" ++ crossedText ++ "\x7d"

/-- What a text says about a path is not checked, whether it is loaded or delivered. The entry that
is found under `a.js` is that of `b.js`, and its fields are not the derived ones. -/
theorem not_consistentAt_decoded :
    let env : Environment := { config := {}, network := .offline, styleCompiler := .ok }
    let loaded := run [.load crossedText] empty
    let delivered := (Worker.handleAll env [crossedMessage] (Session.start empty)).2.registry
    let e : FileEntry := ⟨"b", "b.js", "", ".js", true, false, "."⟩
    loaded.find? "a.js" = some e ∧ delivered.find? "a.js" = some e ∧ e.path ≠ "a.js" ∧
      e.isComponent ≠ (FileEntry.ofPath e.path e.source).isComponent ∧
      ¬loaded.ConsistentAt "a.js" ∧ ¬delivered.ConsistentAt "a.js" := by
  intro env loaded delivered e
  have hloaded : loaded.get? "a.js" = some e := by decide +kernel
  have hdelivered : delivered.get? "a.js" = some e := by decide +kernel
  have hpath : e.path ≠ "a.js" := by decide
  exact ⟨find?_of_get? hloaded, find?_of_get? hdelivered, hpath, by decide +kernel,
    fun h => hpath (h e hloaded).1, fun h => hpath (h e hdelivered).1⟩

end Registry

end LiveBundle
