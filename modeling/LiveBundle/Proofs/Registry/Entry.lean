import LiveBundle.Proofs.RegistryRuns

/-!
# The parts of a path

An entry keeps its path and, beside it, the directory, the name and the extension that are found in
the path. Nothing is lost: the parts make up the path again, and the sign for the root of the
library is no directory that a path can name.

* `FileEntry.splitName_cases`: how a file name is taken apart, by its last dot unless that is its
  first character;
* `FileEntry.directory_cases`: how a directory is told from the root;
* `FileEntry.written` is the path that the parts make up;
* `FileEntry.ofPath_parts` puts these together for the entry of any path.
-/

namespace LiveBundle

open Text (trimDotSlash)

namespace FileEntry

/-! ## Names and extensions -/

/-- A file name is cut at its last dot. It stays whole if there is no dot behind its first
character. -/
lemma splitName_cases (fileName : String) :
    (splitName fileName = (fileName, "") ∧ '.' ∉ fileName.toList.tail) ∨
      ∃ c stem ending, fileName.toList = c :: stem ++ '.' :: ending ∧ '.' ∉ ending ∧
        splitName fileName = (String.ofList (c :: stem), String.ofList ('.' :: ending)) := by
  by_cases hdot : '.' ∈ fileName.toList
  · -- The last dot is the first one from behind.
    obtain ⟨back, front, hreverse, hback⟩ :=
      List.eq_append_cons_of_mem (List.mem_reverse.mpr hdot)
    have hname : fileName.toList = front.reverse ++ '.' :: back.reverse := by
      rw [← List.reverse_reverse fileName.toList, hreverse]
      simp
    have hending : '.' ∉ back.reverse := by simpa using hback
    have hsplit := Text.splitAtLast?_append front.reverse hending
    rw [← hname] at hsplit
    cases hstem : front.reverse with
    | nil =>
      rw [hstem] at hsplit hname
      refine .inl ⟨?_, by rw [hname]; exact hending⟩
      rw [splitName, hsplit]
    | cons c stem =>
      rw [hstem] at hsplit hname
      refine .inr ⟨c, stem, back.reverse, hname, hending, ?_⟩
      rw [splitName, hsplit]
  · refine .inl ⟨?_, fun h => hdot (List.mem_of_mem_tail h)⟩
    rw [splitName, Text.splitAtLast?_eq_none hdot]

/-- The name and the extension are the file name. -/
lemma splitName_append (fileName : String) :
    (splitName fileName).1 ++ (splitName fileName).2 = fileName := by
  rcases splitName_cases fileName with ⟨hsplit, -⟩ | ⟨c, stem, ending, hname, -, hsplit⟩
  · rw [hsplit]
    exact String.append_empty
  · rw [hsplit, ← String.ofList_append, ← hname, String.ofList_toList]

/-- There is an extension if and only if there is a dot behind the first character, and it begins
with the last one. -/
lemma splitName_extension (fileName : String) :
    ((splitName fileName).2 = "" ↔ '.' ∉ fileName.toList.tail) ∧
      ((splitName fileName).2 = "" ∨
        ∃ ending, (splitName fileName).2 = "." ++ ending ∧ '.' ∉ ending.toList) := by
  rcases splitName_cases fileName with ⟨hsplit, hdot⟩ | ⟨c, stem, ending, hname, hending, hsplit⟩
  · rw [hsplit]
    exact ⟨iff_of_true rfl hdot, .inl rfl⟩
  · rw [hsplit]
    refine ⟨iff_of_false (by simp) fun hdot => hdot ?_, .inr ⟨String.ofList ending, ?_, ?_⟩⟩
    · rw [hname]
      simp
    · exact String.toList_injective (by simp)
    · rwa [String.toList_ofList]

/-! ## Entries -/

section

variable (path source : String)

lemma name_append_extension :
    (ofPath path source).name ++ (ofPath path source).extension =
      Path.fileName (trimDotSlash path) := by
  simp only [ofPath]
  exact splitName_append _

lemma extension_ofPath :
    (ofPath path source).extension = (splitName (Path.fileName (trimDotSlash path))).2 := by
  simp only [ofPath]

/-- The directory of an entry is the one of its path, or the sign for the root. -/
lemma directory_ofPath :
    (ofPath path source).directory =
      if '/' ∈ (trimDotSlash path).toList then Path.parent (trimDotSlash path) else "." := by
  simp only [ofPath, Path.parent]
  split_ifs with hslash
  · cases hsplit : Text.splitAtLast? '/' (trimDotSlash path).toList with
    | some parts => rfl
    | none =>
      rw [Text.splitAtLast?, Option.map_eq_none_iff] at hsplit
      exact absurd (List.mem_reverse.mpr hslash) (Text.not_mem_of_splitAt? hsplit)
  · rw [Text.splitAtLast?_eq_none hslash]

/-- The entry of the path of an entry, with another content. -/
lemma ofPath_path (other : String) :
    ofPath (ofPath path source).path other = { ofPath path source with source := other } := by
  simp only [ofPath, trimDotSlash_trimDotSlash]

end

/-- A path without a slash lies in the root, and any other one below a directory that is not the
sign for the root. -/
lemma directory_cases (path source : String) :
    ('/' ∉ (trimDotSlash path).toList ∧ (ofPath path source).directory = "." ∧
        Path.fileName (trimDotSlash path) = trimDotSlash path) ∨
      ('/' ∈ (trimDotSlash path).toList ∧ (ofPath path source).directory ≠ "." ∧
        trimDotSlash path =
          (ofPath path source).directory ++ "/" ++ Path.fileName (trimDotSlash path)) := by
  have hdirectory := directory_ofPath path source
  have hstart := hasPrefix_trimDotSlash path
  generalize trimDotSlash path = shown at *
  obtain ⟨hname, hparts⟩ := Path.split_fileName shown
  by_cases hslash : '/' ∈ shown.toList
  · rw [if_pos hslash] at hdirectory
    have hpath : shown = Path.parent shown ++ "/" ++ Path.fileName shown := by
      rcases hparts with ⟨-, hwhole⟩ | hpath
      · rw [hwhole] at hname
        exact absurd hslash hname
      · exact hpath
    refine .inr ⟨hslash, fun hdot => ?_, by rw [hdirectory]; exact hpath⟩
    -- A directory that is written as a dot would have been removed.
    rw [← hdirectory, hdot] at hpath
    have hfront : "." ++ "/" = "./" := by decide
    rw [hfront] at hpath
    have hdotSlash : Text.hasPrefix "./" shown = true := Text.hasPrefix_iff.mpr ⟨_, hpath⟩
    rw [hstart] at hdotSlash
    cases hdotSlash
  · rw [if_neg hslash] at hdirectory
    refine .inl ⟨hslash, hdirectory, ?_⟩
    rcases hparts with ⟨-, hwhole⟩ | hpath
    · exact hwhole
    · exact absurd (by rw [hpath]; simp) hslash

/-- The path that the parts of an entry make up: the directory, unless that is the root, the name
and the extension. -/
def written (e : FileEntry) : String :=
  if e.directory = "." then e.name ++ e.extension
  else e.directory ++ "/" ++ (e.name ++ e.extension)

/-- The parts of an entry are those of its path, which is the given one without any `./` in front.
The root, for which the directory is a dot, is told from all directories; the extension begins with
the last dot of the file name, if that is not its first character; and the entry of the path is the
same entry. -/
theorem ofPath_parts (path source : String) :
    let e := ofPath path source
    (∃ times, path.toList = (List.replicate times "./".toList).flatten ++ e.path.toList) ∧
    Text.hasPrefix "./" e.path = false ∧
    e.written = e.path ∧
    (e.directory = "." ↔ '/' ∉ e.path.toList) ∧
    e.name ++ e.extension = Path.fileName e.path ∧
    (e.extension = "" ∨
      ∃ ending, e.extension = "." ++ ending ∧ '.' ∉ ending.toList ∧ '/' ∉ ending.toList) ∧
    (e.extension = "" ↔ '.' ∉ (Path.fileName e.path).toList.tail) ∧
    (∀ rest, Path.fileName e.path = "." ++ rest → '.' ∉ rest.toList →
      e.name = "." ++ rest ∧ e.extension = "") ∧
    ∀ other, ofPath e.path other = { e with source := other } := by
  have hpath := path_ofPath path source
  have hname := name_append_extension path source
  have hextension := extension_ofPath path source
  have hdirectory := directory_cases path source
  have hagain := ofPath_path path source
  have htimes := exists_replicate_trimDotSlash path
  have hstart := hasPrefix_trimDotSlash path
  rw [← hpath] at hname hextension hdirectory htimes hstart
  generalize ofPath path source = e at *
  obtain ⟨hempty, hending⟩ := splitName_extension (Path.fileName e.path)
  rw [← hextension] at hempty hending
  refine ⟨htimes, hstart, ?_, ?_, hname, ?_, hempty, ?_, hagain⟩
  · rw [written, hname]
    rcases hdirectory with ⟨-, hroot, hwhole⟩ | ⟨-, hne, hparts⟩
    · rw [if_pos hroot, hwhole]
    · rw [if_neg hne, ← hparts]
  · rcases hdirectory with ⟨hslash, hroot, -⟩ | ⟨hslash, hne, -⟩
    · exact iff_of_true hroot hslash
    · exact iff_of_false hne (not_not_intro hslash)
  · refine hending.imp_right fun ⟨ending, hdot, hlast⟩ => ⟨ending, hdot, hlast, ?_⟩
    -- The extension is a part of the file name.
    intro hslash
    refine (Path.split_fileName e.path).1 ?_
    rw [← hname, hdot]
    simp [hslash]
  · intro rest hfile hdot
    have hnone : e.extension = "" := by
      rw [hempty, hfile]
      simpa using hdot
    rw [hnone, String.append_empty, hfile] at hname
    exact ⟨hname, hnone⟩

/-- A hidden file in a directory, the path with two `./` in front and a dot in the directory. -/
theorem ofPath_parts_hidden :
    let e := ofPath "././a.b/.svelte" "<p>a</p>"
    e = ⟨".svelte", "a.b/.svelte", "<p>a</p>", "", false, false, "a.b"⟩ ∧
      e.written = "a.b/.svelte" ∧ e.name = "." ++ "svelte" ∧ e.extension = "" ∧
      ofPath e.path "" = { e with source := "" } := by
  intro e
  obtain ⟨-, -, hwritten, -, -, -, -, honly, hagain⟩ := ofPath_parts "././a.b/.svelte" "<p>a</p>"
  obtain ⟨hname, hextension⟩ := honly "svelte" (by decide +kernel) (by decide +kernel)
  exact ⟨by decide +kernel, hwritten, hname, hextension, hagain ""⟩

end FileEntry

end LiveBundle
