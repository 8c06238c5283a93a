import LiveBundle.Proofs.ModuleId
import LiveBundle.Proofs.Path
import Mathlib.Data.List.Count
import Mathlib.Data.List.Infix

/-!
# Normal forms of paths

The segments of a path say where to go from a directory: a name leads down, two dots lead up, and an
empty segment or one dot lead nowhere. A place is the list of the names on the way to it from the
root.

* `Path.Leads` is where segments lead, `Path.Denotes` what an import means;
* `Path.collapse_eq_none_iff`: no place is reached exactly when some of the segments, read from the
  left, have more steps up than there are names to go up from;
* `Path.clean_eq_some_iff`: the normal form of a path is the place that it leads to from the root;
* `clean_normalizes`: normal forms, and when two imports mean the same file.
-/

namespace LiveBundle

namespace Path

variable {place target stack names : List (List Char)} {segment : List Char}
  {rest segs : List (List Char)}

/-! ## Places -/

/-- A segment that is the name of a file or a directory. -/
def IsName (segment : List Char) : Prop :=
  segment ≠ [] ∧ segment ≠ ['.'] ∧ segment ≠ ['.', '.']

instance : DecidablePred IsName := fun segment =>
  inferInstanceAs (Decidable (segment ≠ [] ∧ segment ≠ ['.'] ∧ segment ≠ ['.', '.']))

/-- From the first place the segments lead to the last one, without leaving the root. -/
inductive Leads : List (List Char) → List (List Char) → List (List Char) → Prop
  | here (place : List (List Char)) : Leads place [] place
  | stay {place rest target : List (List Char)} {segment : List Char}
      (h : segment = [] ∨ segment = ['.']) (onward : Leads place rest target) :
      Leads place (segment :: rest) target
  | up {place rest target : List (List Char)} (name : List Char)
      (onward : Leads place rest target) : Leads (place ++ [name]) (['.', '.'] :: rest) target
  | down {place rest target : List (List Char)} {name : List Char} (h : IsName name)
      (onward : Leads (place ++ [name]) rest target) : Leads place (name :: rest) target

/-- A segment leads nowhere, up or down. -/
lemma segment_cases (segment : List Char) :
    (segment = [] ∨ segment = ['.']) ∨ segment = ['.', '.'] ∨ IsName segment := by
  by_cases hskip : segment = [] ∨ segment = ['.']
  · exact .inl hskip
  · by_cases hup : segment = ['.', '.']
    · exact .inr (.inl hup)
    · exact .inr (.inr ⟨fun h => hskip (.inl h), fun h => hskip (.inr h), hup⟩)

lemma collapse_name (h : IsName segment) :
    collapse stack (segment :: rest) = collapse (segment :: stack) rest := by
  rw [collapse, step_name stack h]

lemma collapse_up (name : List Char) :
    collapse (name :: stack) (['.', '.'] :: rest) = collapse stack rest := by
  rw [collapse, step, if_neg (by decide), if_pos rfl]

lemma collapse_above : collapse [] (['.', '.'] :: rest) = none := by
  rw [collapse, step, if_neg (by decide), if_pos rfl]

/-- The stack holds the names on the way to a place, the last one first. -/
lemma leads_iff : Leads place segs target ↔ collapse place.reverse segs = some target.reverse := by
  constructor
  · intro h
    induction h with
    | here place => rfl
    | stay h _ ih => rw [collapse_skip _ _ h, ih]
    | up name _ ih => rw [List.reverse_append, List.reverse_singleton, List.singleton_append,
        collapse_up, ih]
    | down h _ ih =>
      rw [List.reverse_append, List.reverse_singleton, List.singleton_append] at ih
      rw [collapse_name h, ih]
  · intro h
    induction segs generalizing place with
    | nil =>
      rw [collapse, Option.some.injEq, List.reverse_inj] at h
      rw [h]
      exact .here target
    | cons segment rest ih =>
      rcases segment_cases segment with hskip | rfl | hname
      · rw [collapse_skip _ _ hskip] at h
        exact .stay hskip (ih h)
      · -- There has to be a name to go up from.
        rcases List.eq_nil_or_concat place with rfl | ⟨front, name, rfl⟩
        · rw [List.reverse_nil, collapse_above] at h
          cases h
        · rw [List.concat_eq_append] at h ⊢
          rw [List.reverse_append, List.reverse_singleton, List.singleton_append,
            collapse_up] at h
          exact .up name (ih h)
      · rw [collapse_name hname] at h
        refine .down hname (ih ?_)
        rw [List.reverse_append, List.reverse_singleton, List.singleton_append, h]

lemma Leads.unique {target' : List (List Char)} (h : Leads place segs target)
    (h' : Leads place segs target') : target = target' := by
  rw [leads_iff] at h h'
  rw [h, Option.some.injEq, List.reverse_inj] at h'
  exact h'

/-- Going on from where the first segments lead. -/
lemma collapse_append (stack xs ys : List (List Char)) :
    collapse stack (xs ++ ys) = (collapse stack xs).bind (collapse · ys) := by
  induction xs generalizing stack with
  | nil => rfl
  | cons segment rest ih =>
    rw [List.cons_append, collapse, collapse]
    cases step stack segment with
    | none => rfl
    | some stack' => exact ih stack'

/-- Segments lead nowhere if and only if some of them, from the first one on, have more steps up
than there are names, those of the place where they start included. -/
theorem collapse_eq_none_iff : collapse stack segs = none ↔
    ∃ front, front <+: segs ∧
      stack.length + front.countP (IsName ·) < front.count ['.', '.'] := by
  induction segs generalizing stack with
  | nil =>
    refine iff_of_false nofun ?_
    rintro ⟨front, hfront, hcount⟩
    rw [List.prefix_nil.mp hfront] at hcount
    simp at hcount
  | cons segment rest ih =>
    -- The empty prefix has no steps up, so the first segment can be counted in.
    have hcounted : (∃ front, front <+: segment :: rest ∧
          stack.length + front.countP (IsName ·) < front.count ['.', '.']) ↔
        ∃ front, front <+: rest ∧ stack.length + (segment :: front).countP (IsName ·) <
          (segment :: front).count ['.', '.'] := by
      constructor
      · rintro ⟨front, hfront, hcount⟩
        rcases List.prefix_cons_iff.mp hfront with rfl | ⟨front, rfl, hrest⟩
        · simp at hcount
        · exact ⟨front, hrest, hcount⟩
      · rintro ⟨front, hfront, hcount⟩
        exact ⟨segment :: front, List.cons_prefix_cons.mpr ⟨rfl, hfront⟩, hcount⟩
    rw [hcounted]
    rcases segment_cases segment with hskip | rfl | hname
    · have hnone : ¬IsName segment ∧ segment ≠ ['.', '.'] := by
        rcases hskip with rfl | rfl <;> decide
      rw [collapse_skip _ _ hskip, ih]
      simp [hnone]
    · cases stack with
      | nil =>
        rw [collapse_above]
        exact iff_of_true rfl ⟨[], List.nil_prefix, by decide⟩
      | cons name stack =>
        have hnone : ¬IsName ['.', '.'] := by decide
        rw [collapse_up, ih]
        simp only [List.length_cons, List.countP_cons, List.count_cons, hnone]
        refine exists_congr fun front => and_congr_right fun _ => ?_
        simp
        omega
    · rw [collapse_name hname, ih]
      refine exists_congr fun front => and_congr_right fun _ => ?_
      have hup : segment ≠ ['.', '.'] := hname.2.2
      simp [hname, hup]
      omega

/-! ## The text of a place -/

/-- The path of a place. -/
def ofPlace (place : List (List Char)) : String := String.ofList (Text.join ['/'] place)

/-- A place that a path can lead to: its names are names, and no `/` is in them. -/
def IsPlace (place : List (List Char)) : Prop := ∀ name ∈ place, IsName name ∧ '/' ∉ name

/-- Names are all that is left. -/
lemma Leads.isPlace (h : Leads place segs target) (hplace : IsPlace place)
    (hsegs : ∀ segment ∈ segs, '/' ∉ segment) : IsPlace target := by
  induction h with
  | here place => exact hplace
  | stay _ _ ih => exact ih hplace (List.forall_mem_cons.mp hsegs).2
  | up name _ ih =>
    exact ih (List.forall_mem_append.mp hplace).1 (List.forall_mem_cons.mp hsegs).2
  | down hname _ ih =>
    obtain ⟨hslash, hrest⟩ := List.forall_mem_cons.mp hsegs
    exact ih (List.forall_mem_append.mpr ⟨hplace, by simpa using ⟨hname, hslash⟩⟩) hrest

lemma not_mem_of_mem_segments {path : List Char} (h : segment ∈ segments path) : '/' ∉ segment :=
  Text.not_mem_of_mem_fields h

lemma segments_append (a b : String) :
    segments (a ++ "/" ++ b).toList = segments a.toList ++ segments b.toList := by
  rw [String.toList_append, String.toList_append, List.append_assoc]
  exact Text.fields_append a.toList b.toList

lemma segments_ofPlace (h : IsPlace place) (hne : place ≠ []) :
    segments (ofPlace place).toList = place := by
  rw [ofPlace, String.toList_ofList]
  exact Text.fields_join hne fun name hname => (h name hname).2

/-- The path of a place leads from the root to the place. -/
lemma leads_ofPlace (h : IsPlace place) : Leads [] (segments (ofPlace place).toList) place := by
  by_cases hnil : place = []
  · rw [hnil]
    exact .stay (.inl rfl) (.here [])
  · rw [segments_ofPlace h hnil, leads_iff, ← List.append_nil place,
      collapse_names _ _ fun name hname => (h name hname).1]
    simp [collapse]

/-- Different places have different paths. -/
lemma ofPlace_injective {place' : List (List Char)} (h : IsPlace place) (h' : IsPlace place')
    (heq : ofPlace place = ofPlace place') : place = place' :=
  (heq ▸ leads_ofPlace h).unique (leads_ofPlace h')

/-! ## Normal forms -/

variable {path cleaned : String}

/-- The normal form of a path is the path of the place that it leads to from the root. -/
theorem clean_eq_some_iff : clean path = some cleaned ↔
    ∃ place, Leads [] (segments path.toList) place ∧ cleaned = ofPlace place := by
  rw [clean, Option.map_eq_some_iff]
  constructor
  · rintro ⟨stack, hstack, rfl⟩
    refine ⟨stack.reverse, leads_iff.mpr ?_, rfl⟩
    rw [List.reverse_reverse]
    exact hstack
  · rintro ⟨place, hleads, rfl⟩
    refine ⟨place.reverse, leads_iff.mp hleads, ?_⟩
    rw [List.reverse_reverse, ofPlace]

lemma isPlace_of_leads (h : Leads [] (segments path.toList) place) : IsPlace place :=
  h.isPlace (fun _ h => absurd h List.not_mem_nil) fun _ => not_mem_of_mem_segments

lemma clean_ofPlace (h : IsPlace place) : clean (ofPlace place) = some (ofPlace place) :=
  clean_eq_some_iff.mpr ⟨place, leads_ofPlace h, rfl⟩

/-- All segments of a normal form are names, unless it is the root. -/
lemma isName_of_clean (h : clean path = some cleaned) (hne : cleaned ≠ "") :
    ∀ segment ∈ segments cleaned.toList, IsName segment := by
  obtain ⟨place, hleads, rfl⟩ := clean_eq_some_iff.mp h
  have hplace := isPlace_of_leads hleads
  have hnil : place ≠ [] := fun hnil => hne (by rw [hnil]; rfl)
  rw [segments_ofPlace hplace hnil]
  exact fun name hname => (hplace name hname).1

/-- A path has a normal form if and only if it does not leave the root. -/
lemma clean_eq_none_iff : clean path = none ↔ ∃ front, front <+: segments path.toList ∧
    front.countP (IsName ·) < front.count ['.', '.'] := by
  rw [clean, Option.map_eq_none_iff, collapse_eq_none_iff]
  simp

/-- The directory in front can be brought into normal form first. -/
lemma clean_append (a b : String) :
    clean (a ++ "/" ++ b) = (clean a).bind fun cleaned => clean (cleaned ++ "/" ++ b) := by
  have hsplit (c : String) : clean (c ++ "/" ++ b) =
      ((collapse [] (segments c.toList)).bind (collapse · (segments b.toList))).map
        fun stack => ofPlace stack.reverse := by
    rw [clean, segments_append, collapse_append]
    rfl
  rw [hsplit]
  cases hclean : clean a with
  | none =>
    rw [clean, Option.map_eq_none_iff] at hclean
    rw [hclean]
    rfl
  | some cleaned =>
    obtain ⟨place, hleads, rfl⟩ := clean_eq_some_iff.mp hclean
    -- The normal form leads to the same place.
    have hagain := leads_iff.mp (leads_ofPlace (isPlace_of_leads hleads))
    rw [List.reverse_nil] at hagain
    rw [Option.bind_some, hsplit, hagain]
    rw [leads_iff, List.reverse_nil] at hleads
    rw [hleads]

/-! ## Imports -/

/-- An import of a relative path by a file means a place: that to which the path leads from the
directory of the file. -/
def Denotes (importer relative : String) (place : List (List Char)) : Prop :=
  ∃ directory, Leads [] (segments (parent importer).toList) directory ∧
    Leads directory (segments relative.toList) place

variable {importer relative : String}

/-- What an import means is one way from the root. -/
lemma denotes_iff : Denotes importer relative place ↔
    Leads [] (segments (parent importer ++ "/" ++ relative).toList) place := by
  rw [segments_append, leads_iff, collapse_append, Option.bind_eq_some_iff]
  constructor
  · rintro ⟨directory, hdirectory, hleads⟩
    exact ⟨directory.reverse, leads_iff.mp hdirectory, leads_iff.mp hleads⟩
  · rintro ⟨stack, hstack, hcollapse⟩
    refine ⟨stack.reverse, leads_iff.mpr ?_, leads_iff.mpr ?_⟩ <;> rw [List.reverse_reverse]
    · exact hstack
    · exact hcollapse

/-- An import leads to the path of what it means. -/
lemma resolve_eq_some_iff : resolve importer relative = some path ↔
    ∃ place, Denotes importer relative place ∧ path = ofPlace place := by
  simp only [resolve, clean_eq_some_iff, denotes_iff]

lemma Denotes.isPlace (h : Denotes importer relative place) : IsPlace place :=
  isPlace_of_leads (denotes_iff.mp h)

/-- Two imports lead to one module if and only if they mean one place. -/
lemma resolve_same_iff {importer' relative' : String} :
    (∃ id, (resolve importer relative).map Specifier.fileId = some id ∧
        (resolve importer' relative').map Specifier.fileId = some id) ↔
      ∃ place, Denotes importer relative place ∧ Denotes importer' relative' place := by
  constructor
  · rintro ⟨id, hid, hid'⟩
    obtain ⟨path, hpath, rfl⟩ := Option.map_eq_some_iff.mp hid
    obtain ⟨path', hpath', heq⟩ := Option.map_eq_some_iff.mp hid'
    obtain rfl : path' = path := by simpa [Specifier.fileId] using heq
    obtain ⟨place, hplace, htext⟩ := resolve_eq_some_iff.mp hpath
    obtain ⟨place', hplace', htext'⟩ := resolve_eq_some_iff.mp hpath'
    obtain rfl := ofPlace_injective hplace.isPlace hplace'.isPlace (htext.symm.trans htext')
    exact ⟨place, hplace, hplace'⟩
  · rintro ⟨place, hplace, hplace'⟩
    refine ⟨Specifier.fileId (ofPlace place), ?_, ?_⟩
    · rw [resolve_eq_some_iff.mpr ⟨place, hplace, rfl⟩, Option.map_some]
    · rw [resolve_eq_some_iff.mpr ⟨place, hplace', rfl⟩, Option.map_some]

/-- A path has no normal form if and only if some of its segments, read from the left, have more
steps up than names. Otherwise all segments of its normal form are names, or it is empty, and it is
its own normal form; and in a longer path it can stand for the part in front. An import means at
most one place, which is below the root, and leads to the path of this place; two imports lead to
one module if and only if they mean one place. -/
theorem clean_normalizes :
    (∀ path, clean path = none ↔ ∃ front, front <+: segments path.toList ∧
      front.countP (IsName ·) < front.count ['.', '.']) ∧
    (∀ path cleaned, clean path = some cleaned →
      (cleaned = "" ∨ ∀ segment ∈ segments cleaned.toList, IsName segment) ∧
      clean cleaned = some cleaned) ∧
    (∀ a b, clean (a ++ "/" ++ b) =
      (clean a).bind fun cleaned => clean (cleaned ++ "/" ++ b)) ∧
    (∀ importer relative,
      (∀ place place', Denotes importer relative place → Denotes importer relative place' →
        place = place') ∧
      (∀ path, resolve importer relative = some path ↔
        ∃ place, Denotes importer relative place ∧ IsPlace place ∧ path = ofPlace place) ∧
      (resolve importer relative = none ↔ ∀ place, ¬Denotes importer relative place)) ∧
    ∀ importer relative importer' relative',
      (∃ id, (resolve importer relative).map Specifier.fileId = some id ∧
        (resolve importer' relative').map Specifier.fileId = some id) ↔
      ∃ place, Denotes importer relative place ∧ Denotes importer' relative' place := by
  refine ⟨fun _ => clean_eq_none_iff, fun path cleaned h => ⟨?_, ?_⟩, clean_append,
    fun importer relative => ⟨?_, ?_, ?_⟩, fun _ _ _ _ => resolve_same_iff⟩
  · by_cases hempty : cleaned = ""
    · exact .inl hempty
    · exact .inr (isName_of_clean h hempty)
  · obtain ⟨place, hleads, rfl⟩ := clean_eq_some_iff.mp h
    exact clean_ofPlace (isPlace_of_leads hleads)
  · intro place place' h h'
    exact (denotes_iff.mp h).unique (denotes_iff.mp h')
  · intro path
    rw [resolve_eq_some_iff]
    exact exists_congr fun place => and_congr_right fun h => (and_iff_right h.isPlace).symm
  · rw [Option.eq_none_iff_forall_ne_some]
    constructor
    · exact fun h place hplace => h _ (resolve_eq_some_iff.mpr ⟨place, hplace, rfl⟩)
    · intro h path hpath
      obtain ⟨place, hplace, -⟩ := resolve_eq_some_iff.mp hpath
      exact h place hplace

/-- A path that leaves the root comes to nothing though it has as many names as steps up, and two
files import a third one in different ways. -/
theorem clean_normalizes_climbing :
    clean "a/../../b" = none ∧ clean "./a//b/../c" = some "a/c" ∧ clean "a/c" = some "a/c" ∧
      ∃ place, Denotes "a/b.js" "./x//y/../z.js" place ∧ Denotes "a/x/w.js" "./z.js" place := by
  obtain ⟨hnone, hsome, -, -, hsame⟩ := clean_normalizes
  have hclean : clean "./a//b/../c" = some "a/c" := by decide
  refine ⟨(hnone _).mpr ⟨segments "a/../..".toList, by decide, by decide⟩, hclean,
    (hsome _ _ hclean).2, (hsame _ _ _ _).mp ⟨"virtual:file/a/x/z.js", by decide, by decide⟩⟩

end Path

end LiveBundle
