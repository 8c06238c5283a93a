import LiveBundle.Proofs.Web.Join
import LiveBundle.Proofs.Web.Percent
import Mathlib.Data.List.TakeWhile

/-!
# Files below an address

What stands behind an address and a slash is read as a path from there. Whether it names a file
below the address is a matter of its last segment, which must be a name, and of the segments in
front, which must not lead out.

* `Url.parse_below`: how a path below an address is read;
* `Url.follow_append`: all segments but the last are followed one by one, from directory to
  directory;
* `Url.NamesFile` says that a text behind an address names a file below it, `Url.LeadsToFile` what
  this asks of the text;
* `Url.namesFile_iff`: the two agree, for addresses of directories.
-/

namespace LiveBundle.Web.Url

variable {scheme rest : List Char} {base path : String} {root u : Url}

/-! ## Reading behind a slash -/

/-- The characters of a URL that are not passed over. -/
def kept (s : List Char) : List Char := s.filter fun c => c != '\t' && c != '\n' && c != '\r'

/-- The text without controls and blanks at its end. -/
def trimBack (s : List Char) : List Char := (s.reverse.dropWhile (·.toNat ≤ 0x20)).reverse

/-- What stands in front of a slash is not trimmed. -/
lemma trimBack_slash (p t : List Char) : trimBack (p ++ '/' :: t) = p ++ '/' :: trimBack t := by
  have hslash : ('/' :: p.reverse).dropWhile (·.toNat ≤ 0x20) = '/' :: p.reverse :=
    List.dropWhile_cons_of_neg (by decide)
  have hreverse : (p ++ '/' :: t).reverse = t.reverse ++ '/' :: p.reverse := by simp
  rw [trimBack, hreverse, List.dropWhile_append, hslash, trimBack]
  split
  · rename_i hempty
    rw [List.isEmpty_iff.mp hempty]
    simp
  · simp

/-- Behind a slash, only what is passed over is removed, and the end is trimmed. -/
lemma normalInput_slash {c : Char} (hc : 0x20 < c.toNat) (p t : List Char) :
    normalInput (c :: p ++ '/' :: t) = kept (c :: p) ++ '/' :: kept (trimBack t) := by
  have hfront : (c :: p ++ '/' :: t).dropWhile (·.toNat ≤ 0x20) = c :: p ++ '/' :: t :=
    List.dropWhile_cons_of_neg (by simpa using hc)
  show kept (trimBack ((c :: p ++ '/' :: t).dropWhile (·.toNat ≤ 0x20))) = _
  rw [hfront, trimBack_slash, kept, List.filter_append]
  rfl

/-- How a path below a base URL is read. -/
lemma parse_below (hscheme : scheme ∈ webSchemes) {base : String}
    (hbase : base.toList = scheme ++ ':' :: '/' :: '/' :: rest) (path : String) :
    parse (base ++ "/" ++ path) = readBehindSlashes scheme
      ((kept rest ++ '/' :: kept (trimBack path.toList)).dropWhile (isSlash .web)) := by
  have hnormal : normalInput (base ++ "/" ++ path).toList =
      scheme ++ ':' :: '/' :: '/' :: kept rest ++ '/' :: kept (trimBack path.toList) := by
    have htext : (base ++ "/" ++ path).toList =
        scheme ++ ':' :: '/' :: '/' :: rest ++ '/' :: path.toList := by
      rw [String.toList_append, String.toList_append, hbase]
      simp
    rw [htext]
    simp only [webSchemes, List.mem_cons, List.not_mem_nil, or_false] at hscheme
    rcases hscheme with rfl | rfl
    · exact normalInput_slash (by decide) _ _
    · exact normalInput_slash (by decide) _ _
  rw [parse, hnormal, List.append_assoc, List.cons_append, scheme?_web hscheme]
  simp only [kindOf_webSchemes hscheme]
  rfl

/-- A slash ends an authority. -/
lemma splitAuthority_slash (s t : List Char) :
    (splitAuthority .web (s ++ '/' :: t)).1 = (splitAuthority .web s).1 := by
  simp only [splitAuthority, List.takeWhile_append]
  split
  · rename_i hall
    rw [List.takeWhile_cons_of_neg (by decide), List.append_nil]
    exact (List.IsPrefix.eq_of_length (List.takeWhile_prefix _) hall).symm
  · rfl

/-- Without a host behind its scheme, an address has no authority. -/
lemma readAuthority_nil (hscheme : scheme ∈ webSchemes) (a : Authority) :
    readAuthority scheme [] ≠ .ok a := by
  intro h
  simp only [webSchemes, List.mem_cons, List.not_mem_nil, or_false] at hscheme
  rcases hscheme with rfl | rfl <;> cases h

/-- What follows a slash is not looked at for an authority. -/
lemma splitAuthority_slash_rest (s t : List Char) :
    (splitAuthority .web (s ++ '/' :: t)).2 = (splitAuthority .web s).2 ++ '/' :: t := by
  simp only [splitAuthority, List.dropWhile_append]
  split
  · rename_i hall
    rw [List.isEmpty_iff.mp hall, List.dropWhile_cons_of_neg (by decide), List.nil_append]
  · rfl

/-- The URL with an authority and the text behind it. -/
def behindAuthority (scheme : List Char) (a : Authority) (s : List Char) : Url :=
  { scheme, authority := some a, path := .segments (pathBehind .web (splitTail s).1)
    query := (readTail .web (splitTail s).2).1, fragment := (readTail .web (splitTail s).2).2 }

/-- Behind the slashes of a web scheme, only the authority can be at fault. -/
lemma readBehindSlashes_web (hscheme : scheme ∈ webSchemes) (s : List Char) :
    readBehindSlashes scheme s = (readAuthority scheme (splitAuthority .web s).1).map
      (behindAuthority scheme · (splitAuthority .web s).2) := by
  unfold readBehindSlashes
  rw [kindOf_webSchemes hscheme]
  cases hread : readAuthority scheme (splitAuthority .web s).1 with
  | error e =>
    simp only [hread]
    rfl
  | ok a =>
    simp only [hread]
    rfl

/-- If an address can be read with a slash behind it, so can all paths below it. They have its
authority, and what stands behind that goes on with the path. -/
lemma exists_behind (hremote : Specifier.isRemote base = true)
    (h : parse (base ++ "/") = .ok root) :
    ∃ scheme a behind, (∀ c ∈ behind.head?, isSlash .web c = true ∨ c = '?' ∨ c = '#') ∧
      ∀ path : String, parse (base ++ "/" ++ path) =
        .ok (behindAuthority scheme a (behind ++ '/' :: kept (trimBack path.toList))) := by
  obtain ⟨scheme, hscheme, rest, hbase⟩ := isRemote_iff.mp hremote
  have hparse (path : String) : parse (base ++ "/" ++ path) = readBehindSlashes scheme
      ((kept rest ++ '/' :: kept (trimBack path.toList)).dropWhile (isSlash .web)) :=
    parse_below hscheme hbase path
  simp only [List.dropWhile_append] at hparse
  have hroot := hparse ""
  rw [String.append_empty, h] at hroot
  by_cases hslashes : ((kept rest).dropWhile (isSlash .web)).isEmpty = true
  · -- With nothing but slashes behind its scheme, the address has no host.
    rw [if_pos hslashes, readBehindSlashes_web hscheme] at hroot
    cases hread : readAuthority scheme [] with
    | error e =>
      have hnil : (splitAuthority .web (('/' :: kept (trimBack "".toList)).dropWhile
          (isSlash .web))).1 = [] := by decide
      rw [hnil, hread] at hroot
      cases hroot
    | ok a => exact absurd hread (readAuthority_nil hscheme a)
  · simp only [if_neg hslashes, readBehindSlashes_web hscheme, splitAuthority_slash,
      splitAuthority_slash_rest] at hparse hroot
    generalize (kept rest).dropWhile (isSlash .web) = s at hparse hroot
    cases hread : readAuthority scheme (splitAuthority .web s).1 with
    | error e =>
      rw [hread] at hroot
      cases hroot
    | ok a =>
      simp only [hread] at hparse
      refine ⟨scheme, a, (splitAuthority .web s).2, fun c hc => ?_, hparse⟩
      have hends := List.head?_dropWhile_not
        (fun c => !(isSlash .web c || c == '?' || c == '#')) s
      have hhead : (s.dropWhile fun c => !(isSlash .web c || c == '?' || c == '#')).head? =
          some c := hc
      rw [hhead] at hends
      simpa [or_iff_not_imp_left] using hends

/-! ## Segments -/

lemma splitSlashes_ne_nil (kind : Kind) (s : List Char) : splitSlashes kind s ≠ [] := by
  cases s with
  | nil => exact List.cons_ne_nil _ _
  | cons c cs =>
    rw [splitSlashes]
    split
    · exact List.cons_ne_nil _ _
    · split <;> exact List.cons_ne_nil _ _

/-- A slash ends a segment. -/
lemma splitSlashes_append {kind : Kind} {c : Char} (hc : isSlash kind c = true)
    (s t : List Char) :
    splitSlashes kind (s ++ c :: t) = splitSlashes kind s ++ splitSlashes kind t := by
  induction s with
  | nil =>
    obtain ⟨x, xs, hx⟩ := List.exists_cons_of_ne_nil (splitSlashes_ne_nil kind t)
    simp only [List.nil_append, splitSlashes, hx, if_pos hc, List.singleton_append]
  | cons d s ih =>
    obtain ⟨x, xs, hx⟩ := List.exists_cons_of_ne_nil (splitSlashes_ne_nil kind s)
    simp only [List.cons_append, splitSlashes, ih, hx]
    split <;> rfl

lemma shorten_eq_dropLast {kind : Kind} (h : kind ≠ .file) (dir : List (List Char)) :
    shorten kind dir = dir.dropLast := by
  induction dir generalizing kind with
  | nil => rfl
  | cons a dir ih =>
    cases dir with
    | nil => rw [shorten, if_neg (by simp [h]), List.dropLast_singleton]
    | cons b dir => rw [shorten, ih (by decide), List.dropLast_cons_cons]

/-- The directory that a segment leads to from a directory. -/
def enter (dir : List (List Char)) (segment : List Char) : List (List Char) :=
  if isDoubleDot segment then dir.dropLast
  else if isSingleDot segment then dir
  else dir ++ [Percent.encode keptInPath segment]

/-- All segments in front of others lead from directory to directory. -/
lemma follow_append {last : List (List Char)} (hlast : last ≠ []) (dir front : List (List Char)) :
    follow .web dir (front ++ last) = follow .web (front.foldl enter dir) last := by
  induction front generalizing dir with
  | nil => rfl
  | cons segment front ih =>
    have hmore : (front ++ last).isEmpty = false := by simp [hlast]
    rw [List.cons_append, follow, List.foldl_cons, enter, shorten_eq_dropLast (by decide)]
    simp only [hmore]
    split
    · exact ih _
    · split <;> exact ih _

/-- A segment that is a name of its own. -/
structure IsName (segment : List Char) : Prop where
  nonempty : segment ≠ []
  noSingleDot : isSingleDot segment = false
  noDoubleDot : isDoubleDot segment = false

/-- The last segment gives the path its last name. It is empty if that segment is none. -/
lemma follow_last (dir : List (List Char)) (last : List Char) :
    (IsName last → follow .web dir [last] = dir ++ [Percent.encode keptInPath last]) ∧
      (¬ IsName last → ∃ dir', follow .web dir [last] = dir' ++ [[]]) := by
  simp only [follow, List.isEmpty_nil, if_true]
  constructor
  · rintro ⟨-, hsingle, hdouble⟩
    rw [if_neg (by simp [hdouble]), if_neg (by simp [hsingle])]
  · intro h
    split_ifs with hdouble hsingle
    · exact ⟨_, rfl⟩
    · exact ⟨_, rfl⟩
    · refine ⟨dir, ?_⟩
      have hempty : last = [] := by
        by_contra hne
        exact h ⟨hne, by simpa using hsingle, by simpa using hdouble⟩
      rw [hempty]
      rfl

/-! ## The path behind an authority -/

/-- The marks that end a path. -/
def isMark (c : Char) : Bool := c == '?' || c == '#'

/-- A text has no mark, or it is cut at its first one. -/
lemma mark_cases (s : List Char) :
    (∀ c ∈ s, isMark c = false) ∨
      ∃ front c more, s = front ++ c :: more ∧ (∀ c ∈ front, isMark c = false) ∧
        isMark c = true := by
  cases hfind : s.find? isMark with
  | none => exact .inl fun c hc => by simpa using List.find?_eq_none.mp hfind c hc
  | some c =>
    obtain ⟨hc, front, more, hs, hfront⟩ := List.find?_eq_some_iff_append.mp hfind
    exact .inr ⟨front, c, more, hs, fun d hd => by simpa using hfront d hd, hc⟩

lemma splitTail_of_unmarked {s : List Char} (hs : ∀ c ∈ s, isMark c = false) (t : List Char) :
    splitTail (s ++ t) = (s ++ (splitTail t).1, (splitTail t).2) := by
  have hkeep : ∀ c ∈ s, (c != '?' && c != '#') = true := fun c hc => by
    simpa [isMark] using hs c hc
  simp only [splitTail, List.takeWhile_append_of_pos hkeep, List.dropWhile_append_of_pos hkeep]

lemma splitTail_mark {c : Char} (hc : isMark c = true) (t : List Char) :
    splitTail (c :: t) = ([], c :: t) := by
  have hend : (c != '?' && c != '#') = false := by
    simpa [isMark, or_iff_not_imp_left] using hc
  simp only [splitTail, List.takeWhile_cons, List.dropWhile_cons, hend, Bool.false_eq_true,
    if_false]

/-- Behind a mark there is a query or a fragment. -/
lemma readTail_mark {c : Char} (hc : isMark c = true) (t : List Char) :
    ¬ ((readTail .web (c :: t)).1 = none ∧ (readTail .web (c :: t)).2 = none) := by
  rw [isMark, Bool.or_eq_true, beq_iff_eq, beq_iff_eq] at hc
  rintro ⟨hquery, hfragment⟩
  rcases hc with rfl | rfl
  · rw [readTail] at hquery
    split at hquery <;> cases hquery
  · cases hfragment

/-- The text behind the last slash is followed from the directory in front of it. -/
lemma exists_pathBehind {s : List Char} (hs : ∀ c ∈ s.head?, isSlash .web c = true) :
    ∃ dir, ∀ t, pathBehind .web (s ++ '/' :: t) = follow .web dir (splitSlashes .web t) := by
  cases s with
  | nil => exact ⟨[], fun t => rfl⟩
  | cons c s =>
    refine ⟨(splitSlashes .web s).foldl enter [], fun t => ?_⟩
    rw [List.cons_append, pathBehind, if_pos (hs c rfl), readPath, splitSlashes_append rfl,
      follow_append (splitSlashes_ne_nil _ _)]

/-- Without a mark in front of a slash, what follows the slash goes on with the path. -/
lemma behindAuthority_unmarked {s : List Char} (hs : ∀ c ∈ s, isMark c = false)
    (hhead : ∀ c ∈ s.head?, isSlash .web c = true) (scheme : List Char) (a : Authority) :
    ∃ dir, ∀ t, behindAuthority scheme a (s ++ '/' :: t) =
      { scheme, authority := some a
        path := .segments (follow .web dir (splitSlashes .web (splitTail t).1))
        query := (readTail .web (splitTail t).2).1
        fragment := (readTail .web (splitTail t).2).2 } := by
  obtain ⟨dir, hdir⟩ := exists_pathBehind hhead
  refine ⟨dir, fun t => ?_⟩
  have hfront : ∀ c ∈ s ++ ['/'], isMark c = false := by
    simpa [or_imp, forall_and] using ⟨hs, by decide⟩
  have htail : splitTail (s ++ '/' :: t) = (s ++ '/' :: (splitTail t).1, (splitTail t).2) := by
    rw [List.append_cons, splitTail_of_unmarked hfront, ← List.append_cons]
  rw [behindAuthority, htail, hdir]

/-- With a mark in front of it, a text belongs to the query or to the fragment. -/
lemma behindAuthority_marked {front : List Char} {c : Char}
    (hfront : ∀ c ∈ front, isMark c = false) (hc : isMark c = true) (scheme : List Char)
    (a : Authority) (t : List Char) :
    behindAuthority scheme a (front ++ c :: t) =
      { scheme, authority := some a, path := .segments (pathBehind .web front)
        query := (readTail .web (c :: t)).1, fragment := (readTail .web (c :: t)).2 } := by
  rw [behindAuthority, splitTail_of_unmarked hfront, splitTail_mark hc, List.append_nil]

/-! ## Files -/

/-- The segments of the path in a text that goes on behind a slash. -/
def pathParts (path : String) : List (List Char) :=
  splitSlashes .web (splitTail (kept (trimBack path.toList))).1

/-- The segments in front of the last one. -/
def directory (root : Url) : List (List Char) := root.pathSegments.dropLast

/-- The URL of a file below a directory. The path of a directory ends with an empty segment; that of
the file goes on there and ends with a name. -/
def FileBelow (root u : Url) : Prop :=
  u.scheme = root.scheme ∧ u.authority = root.authority ∧
    ∃ start dirs file, root.path = .segments (start ++ [[]]) ∧
      u.path = .segments (start ++ dirs ++ [file]) ∧ file ≠ []

/-- Behind an address and a slash, the text gives the URL of a file below that address. -/
def NamesFile (base path : String) : Prop :=
  ∃ root u, parse (base ++ "/") = .ok root ∧ parse (base ++ "/" ++ path) = .ok u ∧
    root.FileBelow u

/-- With a slash behind it, the address is the URL of a directory: what follows belongs to the
path. -/
structure IsDirectory (base : String) (root : Url) : Prop where
  read : parse (base ++ "/") = .ok root
  noQuery : root.query = none
  noFragment : root.fragment = none

/-- The last segment is a name, and the segments in front of it lead to the directory again or to
one below it. -/
def LeadsToFile (root : Url) (path : String) : Prop :=
  ∃ front last, pathParts path = front ++ [last] ∧ IsName last ∧
    root.directory <+: front.foldl enter root.directory

/-- The path of what is read below an address goes on from the directory, or it is always the same:
what follows a mark is none of it. -/
lemma below_cases (hremote : Specifier.isRemote base = true)
    (h : parse (base ++ "/") = .ok root) :
    (IsDirectory base root ∧ root.path = .segments (root.directory ++ [[]]) ∧ ∀ path, ∃ u,
      parse (base ++ "/" ++ path) = .ok u ∧ u.scheme = root.scheme ∧ u.authority = root.authority ∧
      u.path = .segments (follow .web root.directory (pathParts path))) ∨
    (¬ IsDirectory base root ∧
      ∀ path u, parse (base ++ "/" ++ path) = .ok u → u.path = root.path) := by
  obtain ⟨scheme, a, behind, hhead, hparse⟩ := exists_behind hremote h
  have hroot := hparse ""
  rw [String.append_empty, h, Except.ok.injEq] at hroot
  have hempty : kept (trimBack "".toList) = [] := by decide
  rw [hempty] at hroot
  rcases mark_cases behind with hbehind | ⟨front, c, more, rfl, hfront, hc⟩
  · have hslash : ∀ c ∈ behind.head?, isSlash .web c = true := fun c hc => by
      have hmark := hbehind c (List.mem_of_mem_head? hc)
      simp only [isMark, Bool.or_eq_false_iff, beq_eq_false_iff_ne] at hmark
      simpa [hmark] using hhead c hc
    obtain ⟨dir, hdir⟩ := behindAuthority_unmarked hbehind hslash scheme a
    simp only [hdir] at hparse hroot
    have hdirectory : root.directory = dir := by
      rw [hroot]
      exact List.dropLast_concat
    rw [hdirectory]
    refine .inl ⟨⟨h, ?_, ?_⟩, ?_, fun path => ⟨_, hparse path, ?_, ?_, rfl⟩⟩ <;> rw [hroot] <;> rfl
  · simp only [List.append_assoc, List.cons_append, behindAuthority_marked hfront hc]
      at hparse hroot
    refine .inr ⟨fun hdirectory => ?_, fun path u hu => ?_⟩
    · have hquery := hdirectory.noQuery
      have hfragment := hdirectory.noFragment
      rw [hroot] at hquery hfragment
      exact readTail_mark hc _ ⟨hquery, hfragment⟩
    · rw [hparse path, Except.ok.injEq] at hu
      rw [← hu, hroot]

/-- The path of what is read below the address of a directory goes on from that directory. -/
lemma IsDirectory.below (h : IsDirectory base root) (hremote : Specifier.isRemote base = true) :
    root.path = .segments (root.directory ++ [[]]) ∧ ∀ path, ∃ u,
      parse (base ++ "/" ++ path) = .ok u ∧ u.scheme = root.scheme ∧ u.authority = root.authority ∧
      u.path = .segments (follow .web root.directory (pathParts path)) := by
  rcases below_cases hremote h.read with ⟨-, hbelow⟩ | ⟨hno, -⟩
  · exact hbelow
  · exact absurd h hno

/-- The last segment of a path is told from the others. -/
lemma exists_pathParts (path : String) : ∃ front last, pathParts path = front ++ [last] :=
  ⟨_, _, (List.dropLast_concat_getLast (splitSlashes_ne_nil _ _)).symm⟩

/-- A path that is followed from a directory goes on there and ends with a name if and only if it
leads to a file. -/
lemma leadsToFile_iff : root.LeadsToFile path ↔
    ∃ dirs file, follow .web root.directory (pathParts path) = root.directory ++ dirs ++ [file] ∧
      file ≠ [] := by
  constructor
  · rintro ⟨front, last, hparts, hname, dirs, hdirs⟩
    refine ⟨dirs, Percent.encode keptInPath last, ?_, Percent.encode_ne_nil hname.nonempty⟩
    rw [hparts, follow_append (List.cons_ne_nil _ _), (follow_last _ _).1 hname, hdirs]
  · rintro ⟨dirs, file, hfollow, hfile⟩
    obtain ⟨front, last, hparts⟩ := exists_pathParts path
    rw [hparts, follow_append (List.cons_ne_nil _ _)] at hfollow
    by_cases hname : IsName last
    · rw [(follow_last _ _).1 hname, List.append_singleton_inj] at hfollow
      exact ⟨front, last, hparts, hname, dirs, hfollow.1.symm⟩
    · obtain ⟨dir, hdir⟩ := (follow_last _ _).2 hname
      rw [hdir, List.append_singleton_inj] at hfollow
      exact absurd hfollow.2.symm hfile

/-- A text names a file below an address if and only if the address is that of a directory and the
text leads to a file from there. -/
theorem namesFile_iff (hremote : Specifier.isRemote base = true) :
    NamesFile base path ↔ ∃ root, IsDirectory base root ∧ root.LeadsToFile path := by
  constructor
  · rintro ⟨root, u, hroot, hu, -, -, start, dirs, file, hstart, hfile, hne⟩
    rcases below_cases hremote hroot with ⟨hdirectory, hpath, hbelow⟩ | ⟨-, hsame⟩
    · obtain ⟨v, hv, -, -, hfollow⟩ := hbelow path
      rw [hu, Except.ok.injEq] at hv
      rw [hstart, UrlPath.segments.injEq, List.append_singleton_inj] at hpath
      rw [← hv, hfile, hpath.1, UrlPath.segments.injEq] at hfollow
      exact ⟨root, hdirectory, leadsToFile_iff.mpr ⟨dirs, file, hfollow.symm, hne⟩⟩
    · rw [hsame path u hu, hstart, UrlPath.segments.injEq, List.append_singleton_inj] at hfile
      exact absurd hfile.2.symm hne
  · rintro ⟨root, hdirectory, hleads⟩
    obtain ⟨dirs, file, hfollow, hne⟩ := leadsToFile_iff.mp hleads
    obtain ⟨hpath, hbelow⟩ := hdirectory.below hremote
    obtain ⟨u, hu, hscheme, hauthority, hfile⟩ := hbelow path
    rw [hfollow] at hfile
    exact ⟨root, u, hdirectory.read, hu, hscheme, hauthority, _, dirs, file, hpath, hfile, hne⟩

/-- Below the address of a directory, those texts name files that lead to one. -/
lemma IsDirectory.namesFile_eq (h : IsDirectory base root)
    (hremote : Specifier.isRemote base = true) : NamesFile base = root.LeadsToFile := by
  funext path
  rw [namesFile_iff hremote, eq_iff_iff]
  constructor
  · rintro ⟨root', h', hleads⟩
    have hread := h'.read
    rw [h.read, Except.ok.injEq] at hread
    rwa [hread]
  · exact fun hleads => ⟨root, h, hleads⟩

/-! ## Texts that lead to a file -/

/-- A dot and a slash in front are a segment of their own. -/
lemma pathParts_dotSlash (path : String) : pathParts ("./" ++ path) = ['.'] :: pathParts path := by
  have hkept : kept (trimBack ("./" ++ path).toList) =
      ['.'] ++ '/' :: kept (trimBack path.toList) := by
    rw [String.toList_append]
    show kept (trimBack (['.'] ++ '/' :: path.toList)) = _
    rw [trimBack_slash, kept, List.filter_append]
    rfl
  have hdot : ∀ c ∈ ['.'] ++ ['/'], isMark c = false := by simp [isMark]
  rw [pathParts, hkept, List.append_cons, splitTail_of_unmarked hdot, ← List.append_cons,
    splitSlashes_append rfl]
  rfl

lemma leadsToFile_dotSlash : root.LeadsToFile ("./" ++ path) ↔ root.LeadsToFile path := by
  have hfollow : follow .web root.directory (pathParts ("./" ++ path)) =
      follow .web root.directory (pathParts path) := by
    rw [pathParts_dotSlash]
    exact follow_append (splitSlashes_ne_nil _ _) root.directory [['.']]
  rw [leadsToFile_iff, leadsToFile_iff, hfollow]

/-- The empty text leads to the directory itself. -/
lemma not_leadsToFile_empty : ¬ root.LeadsToFile "" := by
  rintro ⟨front, last, hparts, hname, -⟩
  have hempty : pathParts "" = [] ++ [[]] := by decide
  rw [hempty, List.append_singleton_inj] at hparts
  exact hname.nonempty hparts.2.symm

lemma leadsToFile_name {name : List Char} (hparts : pathParts path = [name]) (hname : IsName name) :
    root.LeadsToFile path :=
  ⟨[], name, hparts, hname, List.prefix_refl _⟩

end LiveBundle.Web.Url
