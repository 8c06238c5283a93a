import LiveBundle.Specifier
import LiveBundle.Provider.Basic
import Mathlib.Data.List.Infix

/-!
# Kinds of module ids

Ids of library files, URLs of remote modules and ids of stubs start differently, so no id is of two
kinds.

* `hasPrefix_iff` and `filePath?_eq_some_iff` give the form of an id with a prefix;
* `hasPrefix_eq_false` tells kinds apart by their first characters, and the lemmas behind it say
  which tests an id of each kind fails.
-/

namespace LiveBundle

/-! ## Prefixes -/

lemma Text.hasPrefix_iff {p s : String} : Text.hasPrefix p s = true ↔ ∃ t, s = p ++ t := by
  rw [Text.hasPrefix, List.isPrefixOf_iff_prefix]
  constructor
  · rintro ⟨t, ht⟩
    refine ⟨String.ofList t, String.toList_injective ?_⟩
    rw [String.toList_append, String.toList_ofList, ht]
  · rintro ⟨t, rfl⟩
    exact ⟨t.toList, String.toList_append.symm⟩

/-- A text that starts with `p` does not start with what has another first character. -/
lemma Text.hasPrefix_eq_false {p q s : String} {c d : Char} (h : Text.hasPrefix p s = true)
    (hp : p.toList.head? = some c) (hq : q.toList.head? = some d) (hcd : c ≠ d) :
    Text.hasPrefix q s = false := by
  rw [← Bool.not_eq_true]
  intro hqs
  obtain ⟨t, rfl⟩ := hasPrefix_iff.mp h
  obtain ⟨u, hu⟩ := hasPrefix_iff.mp hqs
  -- Both prefixes would start the text with their own character.
  have hhead : (p.toList ++ t.toList).head? = (q.toList ++ u.toList).head? := by
    rw [← String.toList_append, ← String.toList_append, hu]
  rw [List.head?_append, List.head?_append, hp, hq] at hhead
  exact hcd (Option.some.inj hhead)

namespace Specifier

lemma filePath?_eq_some_iff {id path : String} : filePath? id = some path ↔ id = fileId path := by
  rw [filePath?, Text.stripPrefix?, Option.map_eq_some_iff]
  constructor
  · rintro ⟨rest, hrest, rfl⟩
    rw [List.isPrefixOf?_eq_some_iff_append_eq] at hrest
    refine String.toList_injective ?_
    rw [fileId, String.toList_append, String.toList_ofList, hrest]
  · rintro rfl
    refine ⟨path.toList, ?_, String.ofList_toList⟩
    rw [List.isPrefixOf?_eq_some_iff_append_eq, fileId, String.toList_append]

@[simp] lemma filePath?_fileId (path : String) : filePath? (fileId path) = some path :=
  filePath?_eq_some_iff.mpr rfl

lemma filePath?_eq_none {id : String} (h : Text.hasPrefix filePrefix id = false) :
    filePath? id = none := by
  cases hpath : filePath? id with
  | none => rfl
  | some path =>
    rw [filePath?_eq_some_iff] at hpath
    rw [Text.hasPrefix_iff.mpr ⟨path, hpath⟩] at h
    cases h

/-- Ids of files start with `virtual:`. -/
lemma hasPrefix_filePrefix_eq_false {id : String} (h : Text.hasPrefix "virtual:" id = false) :
    Text.hasPrefix filePrefix id = false := by
  rw [← Bool.not_eq_true] at h ⊢
  intro hfile
  obtain ⟨t, rfl⟩ := Text.hasPrefix_iff.mp hfile
  exact h (Text.hasPrefix_iff.mpr ⟨"file/" ++ t, by rw [← String.append_assoc]; rfl⟩)

/-- What a file id starts with. -/
lemma hasPrefix_fileId (path : String) : Text.hasPrefix filePrefix (fileId path) = true :=
  Text.hasPrefix_iff.mpr ⟨path, rfl⟩

/-- Only prefixes with the first character of file ids are in front of them. -/
lemma hasPrefix_fileId_eq_false {q : String} {d : Char} (path : String)
    (hq : q.toList.head? = some d) (hd : 'v' ≠ d) : Text.hasPrefix q (fileId path) = false :=
  Text.hasPrefix_eq_false (hasPrefix_fileId path) rfl hq hd

@[simp] lemma isRemote_fileId (path : String) : isRemote (fileId path) = false := by
  rw [isRemote, hasPrefix_fileId_eq_false path rfl (d := 'h') (by decide),
    hasPrefix_fileId_eq_false path rfl (d := 'h') (by decide)]
  rfl

/-- Only prefixes with the first character of URLs are in front of them. -/
lemma hasPrefix_of_isRemote {id q : String} {d : Char} (h : isRemote id = true)
    (hq : q.toList.head? = some d) (hd : 'h' ≠ d) : Text.hasPrefix q id = false := by
  rw [isRemote, Bool.or_eq_true] at h
  rcases h with h | h
  · exact Text.hasPrefix_eq_false h rfl hq hd
  · exact Text.hasPrefix_eq_false h rfl hq hd

lemma filePath?_of_isRemote {id : String} (h : isRemote id = true) : filePath? id = none :=
  filePath?_eq_none (hasPrefix_of_isRemote h rfl (by decide))

lemma isRemote_append {base : String} (h : isRemote base = true) (rest : String) :
    isRemote (base ++ rest) = true := by
  rw [isRemote, Bool.or_eq_true] at h ⊢
  refine h.imp ?_ ?_ <;>
  · intro h
    obtain ⟨t, rfl⟩ := Text.hasPrefix_iff.mp h
    exact Text.hasPrefix_iff.mpr ⟨t ++ rest, String.append_assoc⟩

lemma isRelative_of_isRemote {specifier : String} (h : isRemote specifier = true) :
    isRelative specifier = false := by
  rw [isRelative, hasPrefix_of_isRemote h (d := '.') rfl (by decide),
    hasPrefix_of_isRemote h (d := '.') rfl (by decide)]
  rfl

/-- What starts with `virtual:` is neither a path nor a URL. -/
lemma of_virtual {specifier : String} (h : Text.hasPrefix "virtual:" specifier = true) :
    isRelative specifier = false ∧ isRemote specifier = false := by
  have hother : ∀ {q : String} {d : Char}, q.toList.head? = some d → 'v' ≠ d →
      Text.hasPrefix q specifier = false := fun hq hd => Text.hasPrefix_eq_false h rfl hq hd
  rw [isRelative, isRemote, hother (d := '.') rfl (by decide), hother (d := '.') rfl (by decide),
    hother (d := 'h') rfl (by decide), hother (d := 'h') rfl (by decide)]
  exact ⟨rfl, rfl⟩

end Specifier

end LiveBundle
