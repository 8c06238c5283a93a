import LiveBundle.Path
import Mathlib.Data.List.Basic
import Mathlib.Tactic.Lemma

/-!
# Segments of paths

How paths that are put together from a directory and a name are taken apart again:

* `Text.fields_append` and `Text.splitAtLast?_append` cut at a separator that stands in the text,
  `Text.fields_join` takes apart what was joined, `Text.join_fields` joins it again;
* `Text.hasSuffix_segment`: the end of a path is seen at its last segment;
* `exists_replicate_trimDotSlash` and `hasPrefix_trimDotSlash`: what is removed in front of a path,
  and what is left;
* `Path.split_fileName`: a path is its directory and its name;
* `Path.collapse_names` follows segments that are plain names.
-/

namespace LiveBundle

/-! ## Cutting texts -/

namespace Text

variable {sep : Char}

lemma fields_ne_nil (sep : Char) (s : List Char) : fields sep s ≠ [] := by
  cases s with
  | nil => simp [fields]
  | cons c cs =>
    unfold fields
    split
    · simp
    · split <;> simp

/-- A separator ends the fields in front of it. -/
lemma fields_append (a b : List Char) :
    fields sep (a ++ sep :: b) = fields sep a ++ fields sep b := by
  induction a with
  | nil =>
    rw [List.nil_append, fields]
    obtain ⟨f, fs, hfs⟩ := List.exists_cons_of_ne_nil (fields_ne_nil sep b)
    simp [hfs, fields]
  | cons c cs ih =>
    rw [List.cons_append, fields, ih]
    obtain ⟨f, fs, hfs⟩ := List.exists_cons_of_ne_nil (fields_ne_nil sep cs)
    rw [fields, hfs]
    simp only [List.cons_append]
    split <;> rfl

/-- No field has a separator in it. -/
lemma not_mem_of_mem_fields {s field : List Char} (h : field ∈ fields sep s) : sep ∉ field := by
  induction s generalizing field with
  | nil =>
    rw [fields, List.mem_singleton] at h
    rw [h]
    exact List.not_mem_nil
  | cons c cs ih =>
    obtain ⟨f, fs, hfs⟩ := List.exists_cons_of_ne_nil (fields_ne_nil sep cs)
    rw [fields, hfs] at h
    rw [hfs] at ih
    simp only at h
    split at h
    · rcases List.mem_cons.mp h with rfl | h
      · exact List.not_mem_nil
      · exact ih h
    · rename_i hc
      rcases List.mem_cons.mp h with rfl | h
      · exact List.not_mem_cons_of_ne_of_not_mem (Ne.symm hc) (ih List.mem_cons_self)
      · exact ih (List.mem_cons_of_mem f h)

lemma fields_eq_singleton {s : List Char} (h : sep ∉ s) : fields sep s = [s] := by
  induction s with
  | nil => rfl
  | cons c cs ih =>
    obtain ⟨hc, hcs⟩ := List.ne_and_not_mem_of_not_mem_cons h
    rw [fields, ih hcs]
    exact if_neg (Ne.symm hc)

lemma splitAt?_eq_none {s : List Char} (h : sep ∉ s) : splitAt? sep s = none := by
  induction s with
  | nil => rfl
  | cons c cs ih =>
    obtain ⟨hc, hcs⟩ := List.ne_and_not_mem_of_not_mem_cons h
    rw [splitAt?, if_neg (Ne.symm hc), ih hcs]
    rfl

lemma splitAt?_append {a : List Char} (h : sep ∉ a) (b : List Char) :
    splitAt? sep (a ++ sep :: b) = some (a, b) := by
  induction a with
  | nil => simp [splitAt?]
  | cons c cs ih =>
    rw [List.mem_cons, not_or] at h
    rw [List.cons_append, splitAt?, if_neg (Ne.symm h.1), ih h.2]
    rfl

/-- A text is cut at the first separator in it. -/
lemma splitAt?_eq_some_iff {s a b : List Char} :
    splitAt? sep s = some (a, b) ↔ s = a ++ sep :: b ∧ sep ∉ a := by
  constructor
  · intro h
    by_cases hsep : sep ∈ s
    · obtain ⟨front, back, rfl, hfront⟩ := List.eq_append_cons_of_mem hsep
      rw [splitAt?_append hfront] at h
      cases h
      exact ⟨rfl, hfront⟩
    · rw [splitAt?_eq_none hsep] at h
      cases h
  · rintro ⟨rfl, hfront⟩
    exact splitAt?_append hfront b

lemma not_mem_of_splitAt? {s : List Char} (h : splitAt? sep s = none) : sep ∉ s := by
  intro hsep
  obtain ⟨front, back, rfl, hfront⟩ := List.eq_append_cons_of_mem hsep
  rw [splitAt?_append hfront] at h
  cases h

/-- The last separator is the one behind which there is none. -/
lemma splitAtLast?_append {b : List Char} (a : List Char) (h : sep ∉ b) :
    splitAtLast? sep (a ++ sep :: b) = some (a, b) := by
  have hreverse : (a ++ sep :: b).reverse = b.reverse ++ sep :: a.reverse := by simp
  rw [splitAtLast?, hreverse, splitAt?_append (by simpa using h)]
  simp

lemma splitAtLast?_eq_none {s : List Char} (h : sep ∉ s) : splitAtLast? sep s = none := by
  rw [splitAtLast?, splitAt?_eq_none (by simpa using h)]
  rfl

lemma join_cons {sep p : List Char} {ps : List (List Char)} (h : ps ≠ []) :
    join sep (p :: ps) = p ++ sep ++ join sep ps := by
  obtain ⟨q, qs, rfl⟩ := List.exists_cons_of_ne_nil h
  rfl

/-- Pieces without the separator are the fields of the text that they are joined to. -/
lemma fields_join {ps : List (List Char)} (hne : ps ≠ []) (h : ∀ p ∈ ps, sep ∉ p) :
    fields sep (join [sep] ps) = ps := by
  induction ps with
  | nil => exact absurd rfl hne
  | cons p ps ih =>
    obtain ⟨hp, hps⟩ := List.forall_mem_cons.mp h
    by_cases hnil : ps = []
    · rw [hnil]
      exact fields_eq_singleton hp
    · rw [join_cons hnil, List.append_assoc, List.singleton_append, fields_append,
        fields_eq_singleton hp, ih hnil hps, List.singleton_append]

/-- A text is its fields with the separator between them. -/
lemma join_fields (sep : Char) (s : List Char) : join [sep] (fields sep s) = s := by
  induction s with
  | nil => rfl
  | cons c cs ih =>
    obtain ⟨f, fs, hfs⟩ := List.exists_cons_of_ne_nil (fields_ne_nil sep cs)
    rw [hfs] at ih
    rw [fields, hfs]
    simp only
    split
    · rename_i hc
      rw [join_cons (List.cons_ne_nil f fs), ih, hc]
      rfl
    · rw [← ih]
      cases fs with
      | nil => rfl
      | cons g gs => rfl

lemma join_append {sep : List Char} {ps qs : List (List Char)} (hps : ps ≠ []) (hqs : qs ≠ []) :
    join sep (ps ++ qs) = join sep ps ++ sep ++ join sep qs := by
  induction ps with
  | nil => exact absurd rfl hps
  | cons p ps ih =>
    by_cases hnil : ps = []
    · rw [hnil, List.singleton_append, join_cons hqs]
      rfl
    · rw [List.cons_append, join_cons (List.append_ne_nil_of_left_ne_nil hnil qs), ih hnil,
        join_cons hnil]
      simp only [List.append_assoc]

/-- Whether a text ends with `q` is seen at the part `t` behind, if that is long enough. -/
lemma hasSuffix_append {q t : String} (s : String) (h : q.toList.length ≤ t.toList.length) :
    hasSuffix q (s ++ t) = hasSuffix q t := by
  rw [Bool.eq_iff_iff, hasSuffix, hasSuffix, List.isSuffixOf_iff_suffix, List.isSuffixOf_iff_suffix,
    String.toList_append]
  constructor
  · exact fun hq => List.suffix_of_suffix_length_le hq (List.suffix_append _ _) h
  · exact fun hq => hq.trans (List.suffix_append _ _)

/-- The end of a path is seen at its last segment. -/
lemma hasSuffix_segment {ending : String} (h : '/' ∉ ending.toList) (a b : String) :
    hasSuffix ending (a ++ "/" ++ b) = hasSuffix ending b := by
  have hsplit : (a ++ "/" ++ b).toList = a.toList ++ '/' :: b.toList := by simp
  rw [Bool.eq_iff_iff, hasSuffix, hasSuffix, List.isSuffixOf_iff_suffix, List.isSuffixOf_iff_suffix,
    hsplit]
  constructor
  · intro hend
    -- An end without a `/` does not reach back to the last one.
    rcases List.suffix_or_suffix_of_suffix hend (List.suffix_append _ _) with hend | hslash
    · rcases List.suffix_cons_iff.mp hend with hwhole | hend
      · exact absurd (hwhole ▸ List.mem_cons_self) h
      · exact hend
    · exact absurd (hslash.subset List.mem_cons_self) h
  · exact fun hend => (hend.trans (List.suffix_cons _ _)).trans (List.suffix_append _ _)

end Text

/-! ## Names -/

/-! ## The front of a path -/

section

open Text (trimDotSlash trimPrefix)

variable {p s : List Char}

lemma trimPrefix_of_none (h : p.isPrefixOf? s = none) (n : Nat) : trimPrefix p n s = s := by
  cases n with
  | zero => rfl
  | succ n => rw [trimPrefix, h]

/-- What is left does not start with the prefix. -/
lemma isPrefixOf?_trimPrefix {c : Char} {n : Nat} (h : s.length ≤ n) :
    (c :: p).isPrefixOf? (trimPrefix (c :: p) n s) = none := by
  induction n generalizing s with
  | zero =>
    cases List.length_eq_zero_iff.mp (Nat.le_zero.mp h)
    rfl
  | succ n ih =>
    rw [trimPrefix]
    split
    · rename_i rest hrest
      refine ih ?_
      have hlength := congrArg List.length (List.isPrefixOf?_eq_some_iff_append_eq.mp hrest)
      simp only [List.length_append, List.length_cons] at hlength
      omega
    · assumption

/-- What was removed are repetitions of the prefix. -/
lemma exists_replicate_trimPrefix (p s : List Char) (n : Nat) :
    ∃ times, s = (List.replicate times p).flatten ++ trimPrefix p n s := by
  induction n generalizing s with
  | zero => exact ⟨0, rfl⟩
  | succ n ih =>
    rw [trimPrefix]
    split
    · rename_i rest hrest
      obtain ⟨times, htimes⟩ := ih rest
      refine ⟨times + 1, ?_⟩
      rw [List.replicate_succ, List.flatten_cons, List.append_assoc, ← htimes]
      exact (List.isPrefixOf?_eq_some_iff_append_eq.mp hrest).symm
    · exact ⟨0, rfl⟩

lemma toList_trimDotSlash (path : String) :
    (trimDotSlash path).toList = trimPrefix ['.', '/'] path.length path.toList :=
  String.toList_ofList

lemma isPrefixOf?_trimDotSlash (path : String) :
    ['.', '/'].isPrefixOf? (trimPrefix ['.', '/'] path.length path.toList) = none :=
  isPrefixOf?_trimPrefix (Nat.le_of_eq String.length_toList)

lemma trimDotSlash_trimDotSlash (path : String) :
    trimDotSlash (trimDotSlash path) = trimDotSlash path := by
  unfold trimDotSlash
  rw [String.toList_ofList, trimPrefix_of_none (isPrefixOf?_trimDotSlash path)]

lemma exists_replicate_trimDotSlash (path : String) :
    ∃ times, path.toList = (List.replicate times "./".toList).flatten ++
      (trimDotSlash path).toList := by
  obtain ⟨times, htimes⟩ := exists_replicate_trimPrefix ['.', '/'] path.toList path.length
  refine ⟨times, ?_⟩
  rw [toList_trimDotSlash]
  exact htimes

lemma hasPrefix_trimDotSlash (path : String) :
    Text.hasPrefix "./" (trimDotSlash path) = false := by
  have hnone : "./".toList.isPrefixOf? (trimPrefix ['.', '/'] path.length path.toList) = none :=
    isPrefixOf?_trimDotSlash path
  rw [Text.hasPrefix, ← Bool.not_eq_true, List.isPrefixOf_iff_prefix]
  rintro ⟨rest, hrest⟩
  rw [toList_trimDotSlash] at hrest
  rw [List.isPrefixOf?_eq_some_iff_append_eq.mpr hrest] at hnone
  cases hnone

/-- Nothing is left of repetitions alone. -/
lemma trimDotSlash_eq_empty_iff (path : String) :
    trimDotSlash path = "" ↔ ∃ times, path.toList = (List.replicate times "./".toList).flatten := by
  obtain ⟨times, htimes⟩ := exists_replicate_trimDotSlash path
  constructor
  · intro hempty
    rw [hempty, String.toList_empty, List.append_nil] at htimes
    exact ⟨times, htimes⟩
  · rintro ⟨all, hall⟩
    -- Of two rows of repetitions, the longer one goes on with a repetition or not at all.
    have hstart := hasPrefix_trimDotSlash path
    generalize trimDotSlash path = rest at htimes hstart
    rw [hall] at htimes
    clear hall
    induction times generalizing all with
    | zero =>
      cases all with
      | zero => exact String.toList_injective htimes.symm
      | succ all =>
        rw [Text.hasPrefix, ← Bool.not_eq_true, List.isPrefixOf_iff_prefix] at hstart
        exact absurd ⟨_, htimes⟩ hstart
    | succ times ih =>
      cases all with
      | zero => cases htimes
      | succ all => exact ih all (List.append_cancel_left htimes)

end

namespace Path

/-- A path is its name, or its directory and its name with a `/` between them. -/
lemma split_fileName (path : String) :
    '/' ∉ (fileName path).toList ∧
      (parent path = "" ∧ fileName path = path ∨ path = parent path ++ "/" ++ fileName path) := by
  by_cases h : '/' ∈ path.toList
  · -- The part behind the last `/` is found from the end.
    obtain ⟨b, a, hreverse, hb⟩ := List.eq_append_cons_of_mem (List.mem_reverse.mpr h)
    have hpath : path.toList = a.reverse ++ '/' :: b.reverse := by
      rw [← List.reverse_reverse path.toList, hreverse]
      simp
    have hb : '/' ∉ b.reverse := by simpa using hb
    have hsplit := Text.splitAtLast?_append a.reverse hb
    rw [parent, fileName, hpath, hsplit]
    refine ⟨by simpa using hb, .inr (String.toList_injective ?_)⟩
    rw [hpath]
    simp
  · rw [parent, fileName, Text.splitAtLast?_eq_none h]
    exact ⟨h, .inl ⟨rfl, rfl⟩⟩

/-- A plain name is put on the stack. -/
lemma step_name {name : List Char} (stack : List (List Char))
    (h : name ≠ [] ∧ name ≠ ['.'] ∧ name ≠ ['.', '.']) :
    step stack name = some (name :: stack) := by
  unfold step
  rw [if_neg (by simp [h.1, h.2.1]), if_neg h.2.2]

/-- Segments that are plain names are all kept. -/
lemma collapse_names {names : List (List Char)} (stack rest : List (List Char))
    (h : ∀ name ∈ names, name ≠ [] ∧ name ≠ ['.'] ∧ name ≠ ['.', '.']) :
    collapse stack (names ++ rest) = collapse (names.reverse ++ stack) rest := by
  induction names generalizing stack with
  | nil => rfl
  | cons name names ih =>
    obtain ⟨hname, hnames⟩ := List.forall_mem_cons.mp h
    rw [List.cons_append, collapse, step_name stack hname]
    simp only
    rw [ih _ hnames]
    simp

/-- Empty segments and dots are passed over. -/
lemma collapse_skip {segment : List Char} (stack rest : List (List Char))
    (h : segment = [] ∨ segment = ['.']) :
    collapse stack (segment :: rest) = collapse stack rest := by
  have hstep : step stack segment = some stack := by
    unfold step
    rw [if_pos h]
  rw [collapse, hstep]

end Path

end LiveBundle
