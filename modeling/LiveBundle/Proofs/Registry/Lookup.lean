import LiveBundle.Proofs.ModuleId
import LiveBundle.Proofs.Path
import LiveBundle.Registry.Basic
import Mathlib.Data.List.Count
import Mathlib.Data.List.Infix

/-!
# Looking up files

A file is looked up under its path and then under the parts of the path behind each `/`. A path
under which no file is stored is so shortened from the left, segment by segment, until a file is
stored under what is left, and the longest of the texts that come into question decides.

* `Registry.mem_suffixes_iff`: the parts of a path that are tried;
* `Registry.find?_of_get?`: what is stored under the path itself comes first;
* `Registry.find?_congr`: nothing but the path and these parts of it counts;
* `IsTail` are these texts, `isTail_iff_segments`: the last segments of the path, each of them
  whole;
* `Search` is the search, round by round, `exists_search`: it ends with at most one round for each
  slash of the path, and gives what is looked up;
* `find?_longest`: the file that is found is the one of the longest tail under which one is stored.
-/

namespace LiveBundle.Registry

variable {r r' : Registry} {path text : String} {e : FileEntry}

lemma get?_insert (r : Registry) (e : FileEntry) (path : String) :
    (r.insert e).get? path = if e.path = path then some e else r.get? path :=
  Dict.get?_insert r.files e.path path e

/-- What is stored under a path is found under it, without looking for shorter paths. -/
lemma find?_of_get? (h : r.get? path = some e) : r.find? path = some e := by
  rw [find?, List.findSome?_cons, String.ofList_toList, h]

lemma mem_suffixes_iff {s t : List Char} : t ∈ suffixes s ↔ ∃ front, s = front ++ '/' :: t := by
  induction s with
  | nil => exact iff_of_false List.not_mem_nil (by simp)
  | cons c cs ih =>
    have hsplit : (∃ front, c :: cs = front ++ '/' :: t) ↔
        (c = '/' ∧ t = cs) ∨ ∃ front, cs = front ++ '/' :: t := by
      constructor
      · rintro ⟨_ | ⟨d, front⟩, h⟩
        · obtain ⟨rfl, rfl⟩ := List.cons.inj h
          exact .inl ⟨rfl, rfl⟩
        · exact .inr ⟨front, (List.cons.inj h).2⟩
      · rintro (⟨rfl, rfl⟩ | ⟨front, rfl⟩)
        · exact ⟨[], rfl⟩
        · exact ⟨c :: front, rfl⟩
    rw [hsplit, ← ih, suffixes]
    split
    · rename_i hc
      simp [hc]
    · rename_i hc
      simp [hc]

/-- Only what is found at the elements of a list counts. -/
lemma findSome?_congr {α β : Type} {f g : α → Option β} {l : List α} (h : ∀ a ∈ l, f a = g a) :
    l.findSome? f = l.findSome? g := by
  induction l with
  | nil => rfl
  | cons a l ih =>
    obtain ⟨ha, hl⟩ := List.forall_mem_cons.mp h
    rw [List.findSome?_cons, List.findSome?_cons, ha, ih hl]

/-- Registries that agree on a path and on its parts behind each `/` find the same there. -/
lemma find?_congr (h : r.get? path = r'.get? path)
    (hparts : ∀ front part, path = front ++ "/" ++ part → r.get? part = r'.get? part) :
    r.find? path = r'.find? path := by
  refine findSome?_congr fun t ht => ?_
  rcases List.mem_cons.mp ht with rfl | ht
  · rw [String.ofList_toList, h]
  · obtain ⟨front, hfront⟩ := mem_suffixes_iff.mp ht
    refine hparts (String.ofList front) _ (String.toList_injective ?_)
    rw [hfront]
    simp

/-! ## Tails of paths -/

/-- The text is the path, or what stands behind one of its slashes. -/
def IsTail (path text : String) : Prop := text = path ∨ ∃ front, path = front ++ "/" ++ text

/-- The texts that are tried are the tails of the path. -/
lemma mem_tails_iff {t : List Char} :
    t ∈ path.toList :: suffixes path.toList ↔ IsTail path (String.ofList t) := by
  rw [List.mem_cons, mem_suffixes_iff, IsTail, ← String.toList_inj, String.toList_ofList]
  refine or_congr_right ⟨?_, ?_⟩
  · intro ⟨front, hfront⟩
    refine ⟨String.ofList front, String.toList_injective ?_⟩
    rw [hfront]
    simp
  · intro ⟨front, hfront⟩
    refine ⟨front.toList, ?_⟩
    rw [hfront]
    simp

/-- The segments of a tail are the last segments of the path. -/
lemma isTail_iff_segments :
    IsTail path text ↔ Path.segments text.toList <:+ Path.segments path.toList := by
  have hjoin (s : List Char) : Text.join ['/'] (Path.segments s) = s := Text.join_fields '/' s
  constructor
  · intro h
    rcases h with rfl | ⟨front, rfl⟩
    · exact List.suffix_refl _
    · have hsplit : (front ++ "/" ++ text).toList = front.toList ++ '/' :: text.toList := by simp
      rw [hsplit, Path.segments, Path.segments, Text.fields_append]
      exact List.suffix_append _ _
  · intro ⟨front, hfront⟩
    have hpath := hjoin path.toList
    rw [← hfront] at hpath
    by_cases hnil : front = []
    · rw [hnil, List.nil_append, hjoin] at hpath
      exact .inl (String.toList_injective hpath)
    · have hsegments : Path.segments text.toList ≠ [] := Text.fields_ne_nil '/' _
      rw [Text.join_append hnil hsegments, hjoin] at hpath
      refine .inr ⟨String.ofList (Text.join ['/'] front), String.toList_injective ?_⟩
      rw [← hpath]
      simp

/-- The texts that are tried become shorter. -/
lemma suffixes_pairwise (s : List Char) :
    (s :: suffixes s).Pairwise fun t u => u.length < t.length := by
  refine List.pairwise_cons.mpr ⟨?_, ?_⟩
  · intro t ht
    obtain ⟨front, rfl⟩ := mem_suffixes_iff.mp ht
    rw [List.length_append, List.length_cons]
    omega
  · induction s with
    | nil => exact List.Pairwise.nil
    | cons c cs ih =>
      rw [suffixes]
      split
      · refine List.pairwise_cons.mpr ⟨?_, ih⟩
        intro t ht
        obtain ⟨front, rfl⟩ := mem_suffixes_iff.mp ht
        rw [List.length_append, List.length_cons]
        omega
      · exact ih

/-- Tails of a path that are as long as each other are the same. -/
lemma IsTail.eq_of_length_eq {other : String} (h : IsTail path text) (h' : IsTail path other)
    (hlength : text.length = other.length) : text = other := by
  have hsuffix {t : String} (ht : IsTail path t) : t.toList <:+ path.toList := by
    rcases ht with rfl | ⟨front, rfl⟩
    · exact List.suffix_refl _
    · rw [String.toList_append]
      exact List.suffix_append _ _
  exact String.toList_injective
    ((List.suffix_of_suffix_length_le (hsuffix h) (hsuffix h') hlength.le).eq_of_length hlength)

/-! ## The search -/

/-- The search for a file from a text on: after so many rounds it ends with this outcome. A round
goes on to the text behind the first slash. -/
inductive Search (r : Registry) : String → Nat → Option FileEntry → Prop
  | found {text : String} {e : FileEntry} (h : r.get? text = some e) : Search r text 0 (some e)
  | exhausted {text : String} (h : r.get? text = none) (hslash : '/' ∉ text.toList) :
      Search r text 0 none
  | onward {front text : String} {rounds : Nat} {outcome : Option FileEntry}
      (h : r.get? (front ++ "/" ++ text) = none) (hfront : '/' ∉ front.toList)
      (more : Search r text rounds outcome) : Search r (front ++ "/" ++ text) (rounds + 1) outcome

/-- The text behind the first slash of a text is determined. -/
lemma behind_first_slash {front front' text' : String} (h : '/' ∉ front.toList)
    (h' : '/' ∉ front'.toList) (heq : front ++ "/" ++ text = front' ++ "/" ++ text') :
    text = text' := by
  have hchars : front.toList ++ '/' :: text.toList = front'.toList ++ '/' :: text'.toList := by
    simpa using congrArg String.toList heq
  have hsplit := Text.splitAt?_append h text.toList
  rw [hchars, Text.splitAt?_append h' text'.toList] at hsplit
  exact String.toList_injective (Prod.mk.inj (Option.some.inj hsplit)).2.symm

lemma Search.unique {rounds rounds' : Nat} {outcome outcome' : Option FileEntry}
    (h : Search r text rounds outcome) (h' : Search r text rounds' outcome') :
    rounds = rounds' ∧ outcome = outcome' := by
  have hslash (front text : String) : '/' ∈ (front ++ "/" ++ text).toList := by simp
  induction h generalizing rounds' with
  | found h =>
    cases h' with
    | found h' => exact ⟨rfl, h.symm.trans h'⟩
    | exhausted h' _ => cases h.symm.trans h'
    | onward h' _ _ => cases h.symm.trans h'
  | exhausted h hnone =>
    cases h' with
    | found h' => cases h.symm.trans h'
    | exhausted _ _ => exact ⟨rfl, rfl⟩
    | onward _ _ _ => exact absurd (hslash _ _) hnone
  | onward h hfront _ ih =>
    generalize hwhole : _ ++ "/" ++ _ = whole at h h'
    cases h' with
    | found h' => cases h.symm.trans h'
    | exhausted _ hnone => exact absurd (hwhole ▸ hslash _ _) hnone
    | onward _ hfront' more =>
      obtain rfl := behind_first_slash hfront hfront' hwhole
      exact (ih more).imp_left (congrArg Nat.succ)

/-- The texts behind the slashes are the one behind the first slash and those of that text. -/
lemma suffixes_append {front : List Char} (hfront : '/' ∉ front) (t : List Char) :
    suffixes (front ++ '/' :: t) = t :: suffixes t := by
  induction front with
  | nil => exact if_pos rfl
  | cons c front ih =>
    obtain ⟨hc, hfront⟩ := List.ne_and_not_mem_of_not_mem_cons hfront
    rw [List.cons_append, suffixes, if_neg hc.symm, ih hfront]

lemma suffixes_eq_nil {s : List Char} (h : '/' ∉ s) : suffixes s = [] := by
  rw [List.eq_nil_iff_forall_not_mem]
  intro t ht
  obtain ⟨front, rfl⟩ := mem_suffixes_iff.mp ht
  exact h (List.mem_append_right _ List.mem_cons_self)

lemma find?_of_not_mem (h : r.get? path = none) (hslash : '/' ∉ path.toList) :
    r.find? path = none := by
  rw [find?, suffixes_eq_nil hslash, List.findSome?_cons, String.ofList_toList, h]
  rfl

lemma find?_append {front : String} (h : r.get? (front ++ "/" ++ text) = none)
    (hfront : '/' ∉ front.toList) : r.find? (front ++ "/" ++ text) = r.find? text := by
  have hsplit : (front ++ "/" ++ text).toList = front.toList ++ '/' :: text.toList := by simp
  rw [find?, List.findSome?_cons, String.ofList_toList, h, hsplit, suffixes_append hfront]
  rfl

/-- The search ends: each round leaves a slash behind. -/
lemma exists_search (r : Registry) (path : String) :
    ∃ rounds ≤ path.toList.count '/', Search r path rounds (r.find? path) := by
  induction hcount : path.toList.count '/' generalizing path with
  | zero =>
    refine ⟨0, Nat.le_refl 0, ?_⟩
    have hslash : '/' ∉ path.toList := List.count_eq_zero.mp hcount
    cases hget : r.get? path with
    | none =>
      rw [find?_of_not_mem hget hslash]
      exact .exhausted hget hslash
    | some e =>
      rw [find?_of_get? hget]
      exact .found hget
  | succ n ih =>
    cases hget : r.get? path with
    | some e =>
      rw [find?_of_get? hget]
      exact ⟨0, Nat.zero_le _, .found hget⟩
    | none =>
      have hslash : '/' ∈ path.toList := List.count_pos_iff.mp (by omega)
      obtain ⟨front, t, hpath, hfront⟩ := List.eq_append_cons_of_mem hslash
      obtain rfl : path = String.ofList front ++ "/" ++ String.ofList t :=
        String.toList_injective (by rw [hpath]; simp)
      have hfront : '/' ∉ (String.ofList front).toList := by rwa [String.toList_ofList]
      have hn : (String.ofList t).toList.count '/' = n := by
        rw [String.toList_ofList] at hfront ⊢
        rw [hpath, List.count_append, List.count_eq_zero.mpr hfront, List.count_cons_self] at hcount
        omega
      obtain ⟨rounds, hle, hsearch⟩ := ih _ hn
      rw [find?_append hget hfront]
      exact ⟨rounds + 1, Nat.succ_le_succ hle, .onward hget hfront hsearch⟩

/-! ## The longest tail -/

/-- A file is stored under this tail of the path and under no longer one. -/
def LongestStored (r : Registry) (path text : String) : Prop :=
  IsTail path text ∧ (r.get? text).isSome = true ∧
    ∀ other, IsTail path other → (r.get? other).isSome = true → other.length ≤ text.length

lemma find?_eq_none_iff : r.find? path = none ↔ ∀ text, IsTail path text → r.get? text = none := by
  rw [find?, List.findSome?_eq_none_iff]
  constructor
  · intro h text htail
    rw [← String.ofList_toList (s := text)] at htail ⊢
    exact h _ (mem_tails_iff.mpr htail)
  · intro h t ht
    exact h _ (mem_tails_iff.mp ht)

/-- A file that is found is stored under the longest tail. -/
lemma exists_longest (h : r.find? path = some e) :
    ∃ text, r.LongestStored path text ∧ r.get? text = some e := by
  obtain ⟨longer, t, shorter, htails, hget, hlonger⟩ := List.findSome?_eq_some_iff.mp h
  have hpairwise := suffixes_pairwise path.toList
  have hmem (u : List Char) : IsTail path (String.ofList u) ↔ u ∈ longer ++ t :: shorter := by
    rw [← mem_tails_iff, htails]
  rw [htails, List.pairwise_append, List.pairwise_cons] at hpairwise
  obtain ⟨-, ⟨hshorter, -⟩, -⟩ := hpairwise
  refine ⟨String.ofList t, ⟨?_, Option.isSome_of_eq_some hget, ?_⟩, hget⟩
  · exact (hmem t).mpr (List.mem_append_right _ List.mem_cons_self)
  · intro other hother hstored
    rw [← String.ofList_toList (s := other)] at hother hstored
    rcases List.mem_append.mp ((hmem _).mp hother) with hin | hin
    · rw [hlonger _ hin] at hstored
      cases hstored
    · rw [← String.length_toList, String.length_ofList]
      rcases List.mem_cons.mp hin with heq | hin
      · exact (congrArg List.length heq).le
      · exact (hshorter _ hin).le

/-- The file of a path is the one that is stored under the longest tail of it; there is none if none
is stored under any. The path itself is the longest tail, and the tails are the texts that are made
up of the last segments of the path. The search ends for every path, with this outcome. -/
theorem find?_longest (r : Registry) (path : String) :
    (∀ e, r.find? path = some e ↔ ∃ text, r.LongestStored path text ∧ r.get? text = some e) ∧
    (r.find? path = none ↔ ∀ text, IsTail path text → r.get? text = none) ∧
    (∀ e, r.get? path = some e → r.find? path = some e) ∧
    (∀ text, IsTail path text ↔ Path.segments text.toList <:+ Path.segments path.toList) ∧
    ∃ rounds ≤ path.toList.count '/', ∀ n outcome,
      Search r path n outcome ↔ n = rounds ∧ outcome = r.find? path := by
  refine ⟨fun e => ⟨exists_longest, ?_⟩, find?_eq_none_iff, fun e => find?_of_get?,
    fun text => isTail_iff_segments, ?_⟩
  · intro ⟨text, ⟨htail, hstored, hlongest⟩, hget⟩
    cases hfind : r.find? path with
    | none =>
      rw [find?_eq_none_iff.mp hfind text htail] at hget
      cases hget
    | some found =>
      obtain ⟨other, ⟨hotherTail, hotherStored, hotherLongest⟩, hfound⟩ := exists_longest hfind
      obtain rfl : text = other := htail.eq_of_length_eq hotherTail
        (Nat.le_antisymm (hotherLongest _ htail hstored) (hlongest _ hotherTail hotherStored))
      rw [← hfound, hget]
  · obtain ⟨rounds, hle, hsearch⟩ := exists_search r path
    refine ⟨rounds, hle, fun n outcome => ⟨fun h => h.unique hsearch, ?_⟩⟩
    rintro ⟨rfl, rfl⟩
    exact hsearch

namespace Shared

/-- A file whose path is a tail of the other one. -/
def inner : FileEntry := .ofPath "c/x.js" "export default 1;"

/-- A file whose path goes on in front. -/
def outer : FileEntry := .ofPath "b/c/x.js" "export default 2;"

end Shared

/-- Of two files in question the one with more segments is found, and the other one under its own
path. -/
theorem find?_longest_shared :
    (∃ text, (Registry.ofEntries [Shared.inner, Shared.outer]).LongestStored "a//b/c/x.js" text ∧
      (Registry.ofEntries [Shared.inner, Shared.outer]).get? text = some Shared.outer) ∧
    (Registry.ofEntries [Shared.inner, Shared.outer]).find? "c/x.js" = some Shared.inner :=
  ⟨((find?_longest (.ofEntries [Shared.inner, Shared.outer]) "a//b/c/x.js").1 Shared.outer).mp
      (by decide +kernel),
    (find?_longest (.ofEntries [Shared.inner, Shared.outer]) "c/x.js").2.2.1 Shared.inner
      (by decide +kernel)⟩

end LiveBundle.Registry
