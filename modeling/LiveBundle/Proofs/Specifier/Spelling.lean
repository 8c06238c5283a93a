import LiveBundle.Proofs.Path
import LiveBundle.Specifier.Package

/-!
# Spellings of packages

A package specifier is a name, maybe with a scope in front, and behind it maybe a version after an
`@` and a path after a `/`. The scope, the version and the path may hold further marks, so it is the
first one of each kind that divides the text.

* `Package.Spelling` are the parts as they are written, `Spelling.Valid` says which parts make a
  specifier;
* `Package.parse_text` and `Package.exists_spelling`: a text is read if and only if it has valid
  parts, and then as the package that they spell;
* `Package.parse_full` and `Package.parse_cacheKey`: a package is read back from its full form, and
  without its path from its key.
-/

namespace LiveBundle

namespace Package

/-- The parts of a package specifier as they are written. What follows an `@` or a `/` may be
empty. -/
structure Spelling where
  scope : Option (List Char)
  /-- The name without its scope. -/
  own : List Char
  version : Option (List Char)
  path : Option (List Char)

namespace Spelling

/-- A mark and the part behind it, if there is one. -/
def behind (mark : Char) : Option (List Char) → List Char
  | none => []
  | some part => mark :: part

/-- The name with its scope. -/
def name (w : Spelling) : List Char :=
  match w.scope with
  | none => w.own
  | some scope => '@' :: scope ++ '/' :: w.own

/-- The specifier that the parts make. -/
def text (w : Spelling) : String :=
  String.ofList (w.name ++ (behind '@' w.version ++ behind '/' w.path))

/-- The parts are found in the text: names are not empty, and no part has the mark that ends it. -/
structure Valid (w : Spelling) : Prop where
  scope : ∀ scope, w.scope = some scope → scope ≠ [] ∧ '/' ∉ scope
  own : w.own ≠ [] ∧ '@' ∉ w.own ∧ '/' ∉ w.own
  version : ∀ version, w.version = some version → '/' ∉ version

/-- A part, if it is there and not empty. -/
def given : Option (List Char) → Option String
  | none => none
  | some part => if part = [] then none else some (String.ofList part)

/-- The package that is spelled. -/
def package (w : Spelling) : Package where
  name := String.ofList w.name
  version := (given w.version).getD defaultVersion
  subpath := given w.path

lemma given_toList {text : String} (h : text ≠ "") : given (some text.toList) = some text := by
  rw [given, if_neg (by simpa using h), String.ofList_toList]

/-- A part that is given is not empty, and it is the part that was written. -/
lemma given_eq_some {part : Option (List Char)} {text : String} (h : given part = some text) :
    part = some text.toList ∧ text ≠ "" := by
  cases part with
  | none => cases h
  | some part =>
    rw [given] at h
    split at h
    · cases h
    · rename_i hne
      cases h
      exact ⟨by rw [String.toList_ofList], by simpa using hne⟩

lemma package_eq (w : Spelling) : w.package =
    { name := String.ofList (match w.scope with
        | some scope => '@' :: scope ++ '/' :: w.own
        | none => w.own)
      version := if w.version.getD [] = [] then defaultVersion
        else String.ofList (w.version.getD [])
      subpath := if w.path.getD [] = [] then none else some (String.ofList (w.path.getD [])) } := by
  obtain ⟨scope, own, version, path⟩ := w
  have hversion : (given version).getD defaultVersion =
      if version.getD [] = [] then defaultVersion else String.ofList (version.getD []) := by
    cases version with
    | none => rfl
    | some v => by_cases hv : v = [] <;> simp [given, hv]
  rw [package, hversion]
  cases scope <;> cases path <;> rfl

end Spelling

open Spelling (behind given)

/-! ## Reading -/

section

variable {specifier : String} {scope version path : Option (List Char)} {own rest : List Char}

/-- The front of a specifier up to its path has no `/`. -/
lemma slash_not_mem (hown : '/' ∉ own) (hversion : ∀ v, version = some v → '/' ∉ v) :
    '/' ∉ own ++ behind '@' version := by
  rw [List.mem_append, not_or]
  refine ⟨hown, ?_⟩
  cases version with
  | none => exact List.not_mem_nil
  | some v => exact List.not_mem_cons_of_ne_of_not_mem (by decide) (hversion v rfl)

/-- What follows the scope is the name, the version and the path. -/
lemma parse_of_splitScope
    (h : splitScope specifier.toList =
      some (scope, own ++ (behind '@' version ++ behind '/' path)))
    (hat : '@' ∉ own) (hslash : '/' ∉ own) (hversion : ∀ v, version = some v → '/' ∉ v) :
    parse specifier = if own = [] ∨ scope = some [] then none
      else some (Spelling.package ⟨scope, own, version, path⟩) := by
  have hfront := slash_not_mem hslash hversion
  -- The path is cut off first, then the version.
  have hpath : Text.splitAt? '/' (own ++ (behind '@' version ++ behind '/' path)) =
      path.map (own ++ behind '@' version, ·) := by
    rw [← List.append_assoc]
    cases path with
    | none =>
      rw [behind, List.append_nil]
      exact Text.splitAt?_eq_none hfront
    | some path => exact Text.splitAt?_append hfront path
  have hname : Text.splitAt? '@' (own ++ behind '@' version) = version.map (own, ·) := by
    cases version with
    | none =>
      rw [behind, List.append_nil]
      exact Text.splitAt?_eq_none hat
    | some version => exact Text.splitAt?_append hat version
  unfold parse
  rw [h, Spelling.package_eq]
  simp only [Option.bind_eq_bind, Option.bind_some, hpath]
  cases path with
  | none =>
    -- Without a path, the version ends the text.
    have hnil : behind '/' none = [] := rfl
    simp only [Option.map_none, hnil, List.append_nil, hname]
    cases scope <;> cases version <;> simp [behind]
  | some path =>
    simp only [Option.map_some, hname]
    cases scope <;> cases version <;> simp [behind]

/-- Each text is a name, a version and a path. -/
lemma exists_parts (rest : List Char) : ∃ own version path,
    rest = own ++ (behind '@' version ++ behind '/' path) ∧ '@' ∉ own ∧ '/' ∉ own ∧
      ∀ v, version = some v → '/' ∉ v := by
  obtain ⟨front, path, hrest, hfront⟩ : ∃ front path, rest = front ++ behind '/' path ∧
      '/' ∉ front := by
    cases hsplit : Text.splitAt? '/' rest with
    | none => exact ⟨rest, none, (List.append_nil _).symm, Text.not_mem_of_splitAt? hsplit⟩
    | some parts =>
      obtain ⟨heq, hfront⟩ := Text.splitAt?_eq_some_iff.mp hsplit
      exact ⟨parts.1, some parts.2, heq, hfront⟩
  cases hsplit : Text.splitAt? '@' front with
  | none => exact ⟨front, none, path, hrest, Text.not_mem_of_splitAt? hsplit, hfront, nofun⟩
  | some parts =>
    obtain ⟨heq, hown⟩ := Text.splitAt?_eq_some_iff.mp hsplit
    rw [heq, List.mem_append, not_or] at hfront
    refine ⟨parts.1, some parts.2, path, ?_, hown, hfront.1, ?_⟩
    · rw [hrest, heq, List.append_assoc]
      rfl
    · intro v hv hmem
      cases hv
      exact hfront.2 (List.mem_cons_of_mem _ hmem)

end

variable {w : Spelling} {specifier : String} {p q : Package}

/-- The scope is found in front. -/
lemma splitScope_name (h : w.Valid) (tail : List Char) :
    splitScope (w.name ++ tail) = some (w.scope, w.own ++ tail) := by
  unfold Spelling.name
  cases hscope : w.scope with
  | none =>
    obtain ⟨c, cs, hown⟩ := List.exists_cons_of_ne_nil h.own.1
    have hc : c ≠ '@' := fun hc => h.own.2.1 (by rw [hown, hc]; exact List.mem_cons_self)
    simp [splitScope, hown, hc]
  | some scope =>
    simp only [List.cons_append, List.append_assoc, splitScope,
      Text.splitAt?_append (h.scope scope hscope).2, Option.map_some]

/-- Valid parts are read as what they spell. -/
theorem parse_text (h : w.Valid) : parse w.text = some w.package := by
  have hscope := splitScope_name h (behind '@' w.version ++ behind '/' w.path)
  rw [Spelling.text, parse_of_splitScope (by rw [String.toList_ofList]; exact hscope) h.own.2.1
    h.own.2.2 h.version, if_neg]
  rintro (hown | hempty)
  · exact h.own.1 hown
  · exact (h.scope [] hempty).1 rfl

/-- What stands in front of the rest is the scope. -/
lemma of_splitScope {s rest : List Char} {scope : Option (List Char)}
    (h : splitScope s = some (scope, rest)) :
    (scope = none ∧ rest = s) ∨
      ∃ front, scope = some front ∧ '/' ∉ front ∧ s = '@' :: front ++ '/' :: rest := by
  unfold splitScope at h
  split at h
  · obtain ⟨⟨front, behind⟩, hcut, heq⟩ := Option.map_eq_some_iff.mp h
    obtain ⟨htext, hfront⟩ := Text.splitAt?_eq_some_iff.mp hcut
    cases heq
    exact .inr ⟨front, rfl, hfront, by rw [htext]; rfl⟩
  · cases h
    exact .inl ⟨rfl, rfl⟩

/-- Whatever is read has valid parts. -/
theorem exists_spelling (h : parse specifier = some p) :
    ∃ w : Spelling, w.Valid ∧ w.text = specifier ∧ w.package = p := by
  cases hscope : splitScope specifier.toList with
  | none => simp [parse, hscope] at h
  | some parts =>
    obtain ⟨scope, rest⟩ := parts
    obtain ⟨own, version, path, hrest, hat, hslash, hversion⟩ := exists_parts rest
    rw [parse_of_splitScope (hrest ▸ hscope) hat hslash hversion] at h
    split at h
    · cases h
    · rename_i hne
      rw [not_or] at hne
      refine ⟨⟨scope, own, version, path⟩, ⟨?_, ⟨hne.1, hat, hslash⟩, hversion⟩, ?_,
        Option.some.inj h⟩
      · intro s hs
        rcases of_splitScope hscope with ⟨hnone, -⟩ | ⟨front, hfront, hmem, -⟩
        · cases hnone.symm.trans hs
        · cases hfront.symm.trans hs
          exact ⟨fun hempty => hne.2 (hempty ▸ hs), hmem⟩
      · apply String.toList_injective
        rw [Spelling.text, String.toList_ofList, Spelling.name]
        rcases of_splitScope hscope with ⟨rfl, hwhole⟩ | ⟨front, rfl, -, hwhole⟩
        · rw [← hwhole, hrest]
        · rw [hwhole, hrest]
          simp

/-! ## Full forms -/

/-- A package in full: its key, and its path behind a `/`. -/
def full (p : Package) : String :=
  match p.subpath with
  | none => p.cacheKey
  | some subpath => p.cacheKey ++ "/" ++ subpath

/-- The parts of a package when its version is written out and a path may follow. -/
def Spelling.complete (w : Spelling) (path : Option String) : Spelling where
  scope := w.scope
  own := w.own
  version := some w.package.version.toList
  path := path.map String.toList

namespace Spelling

lemma version_ne_empty (w : Spelling) : w.package.version ≠ "" := by
  show (given w.version).getD defaultVersion ≠ ""
  cases hgiven : given w.version with
  | none => decide
  | some version => exact (given_eq_some hgiven).2

lemma complete_valid (h : w.Valid) (path : Option String) : (w.complete path).Valid := by
  refine ⟨h.scope, h.own, ?_⟩
  rintro version hversion
  cases hversion
  show '/' ∉ ((given w.version).getD defaultVersion).toList
  cases hgiven : given w.version with
  | none => decide
  | some version => exact h.version _ (given_eq_some hgiven).1

lemma package_complete {path : Option String} (hpath : path ≠ some "") :
    (w.complete path).package = { w.package with subpath := path } := by
  have hversion : (given (w.complete path).version).getD defaultVersion = w.package.version := by
    rw [complete, given_toList w.version_ne_empty, Option.getD_some]
  have hsubpath : given (w.complete path).path = path := by
    cases path with
    | none => rfl
    | some path => exact given_toList fun h => hpath (congrArg some h)
  show Package.mk _ ((given (w.complete path).version).getD defaultVersion)
    (given (w.complete path).path) = _
  rw [hversion, hsubpath]
  rfl

lemma text_complete (w : Spelling) (path : Option String) :
    (w.complete path).text = Package.full { w.package with subpath := path } := by
  apply String.toList_injective
  cases path <;>
    simp [text, complete, full, cacheKey, behind, package, name]

end Spelling

/-- A package is read back from its full form. -/
lemma parse_full (h : parse specifier = some p) : parse p.full = some p := by
  obtain ⟨w, hw, -, rfl⟩ := exists_spelling h
  have hpath : w.package.subpath ≠ some "" := fun hempty => (Spelling.given_eq_some hempty).2 rfl
  have hread := parse_text (Spelling.complete_valid hw w.package.subpath)
  rwa [Spelling.text_complete, Spelling.package_complete hpath] at hread

/-- A package is read back from its key, without its path. -/
lemma parse_cacheKey (h : parse specifier = some p) :
    parse p.cacheKey = some { p with subpath := none } := by
  obtain ⟨w, hw, -, rfl⟩ := exists_spelling h
  have hread := parse_text (Spelling.complete_valid hw none)
  have hpath : (none : Option String) ≠ some "" := Option.some_ne_none "" |>.symm
  rwa [Spelling.text_complete, Spelling.package_complete hpath] at hread

/-- The key of a package tells its name and its version. -/
lemma cacheKey_inj {specifier' : String} (h : parse specifier = some p)
    (h' : parse specifier' = some q) :
    p.cacheKey = q.cacheKey ↔ p.name = q.name ∧ p.version = q.version := by
  constructor
  · intro hkey
    have hread := parse_cacheKey h
    rw [hkey, parse_cacheKey h', Option.some.injEq] at hread
    exact ⟨(congrArg Package.name hread).symm, (congrArg Package.version hread).symm⟩
  · rintro ⟨hname, hversion⟩
    rw [cacheKey, cacheKey, hname, hversion]

/-- So does its root on a content delivery network. -/
lemma baseUrl_inj {cdn : String} : p.baseUrl cdn = q.baseUrl cdn ↔ p.cacheKey = q.cacheKey := by
  rw [baseUrl, baseUrl, String.append_right_inj]

end Package

end LiveBundle
