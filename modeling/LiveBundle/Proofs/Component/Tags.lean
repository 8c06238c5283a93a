import LiveBundle.Proofs.Component.Sections
import Mathlib.Data.List.TakeWhile

/-!
# Tags and blocks

What stands behind a tag or a block has no part in how it is read: a tag is known by its own text,
and so is a block. An opening tag needs no more of the text behind it than the end of the tag.

* `openTag?_eq_some_iff`, `closeTag?_eq_some_iff` and `untilClose_eq_some_iff` say what is read;
* `Block.Tagged` are the blocks that a pattern finds, `Block.pattern_eq_some_iff` and
  `Region.pattern_eq_some_iff` say so;
* `Alike` are texts with a common front up to a place where a tag begins in both of them,
  `Alike.openTag?_eq_none`: no tag is opened in front of one if none is in front of the other.
-/

namespace LiveBundle

/-! ## Words up to case -/

namespace Text

variable {word matched s t rest : List Char} {c : Char}

/-- The text is the word, up to case. -/
def Spells (word s : List Char) : Prop := wordUpToCase? word s = some (s, [])

/-- A word is matched whatever follows it. -/
lemma wordUpToCase?_append (h : wordUpToCase? word s = some (matched, rest)) (t : List Char) :
    wordUpToCase? word (matched ++ t) = some (matched, t) := by
  induction word generalizing s matched with
  | nil =>
    cases h
    rfl
  | cons w ws ih =>
    cases s with
    | nil => cases h
    | cons c cs =>
      unfold wordUpToCase? at h
      split at h
      · rename_i hc
        obtain ⟨⟨matched', rest'⟩, hread, heq⟩ := Option.map_eq_some_iff.mp h
        cases heq
        rw [List.cons_append, wordUpToCase?, if_pos hc, ih hread]
        rfl
      · cases h

/-- What matches a word spells it, up to case. -/
lemma wordUpToCase?_eq_some_iff :
    wordUpToCase? word s = some (matched, rest) ↔ s = matched ++ rest ∧ Spells word matched := by
  constructor
  · intro h
    have hself := wordUpToCase?_append h []
    rw [List.append_nil] at hself
    exact ⟨wordUpToCase?_text h, hself⟩
  · rintro ⟨rfl, h⟩
    exact wordUpToCase?_append h rest

/-- The first letter of a word is spelled in either case, or by one of two other letters. -/
lemma Spells.cons {w : Char} {ws : List Char} (h : Spells (w :: ws) s) :
    ∃ c cs, s = c :: cs ∧ Spells ws cs ∧
      (c.toLower = w ∨ (w = 's' ∧ c.toNat = 0x17F) ∨ (w = 'k' ∧ c.toNat = 0x212A)) := by
  cases s with
  | nil => cases h
  | cons c cs =>
    unfold Spells wordUpToCase? at h
    split at h
    · rename_i hc
      obtain ⟨⟨matched', rest'⟩, hread, heq⟩ := Option.map_eq_some_iff.mp h
      cases heq
      exact ⟨c, cs, rfl, hread, hc⟩
    · cases h

/-- A spelling has as many characters as its word. -/
lemma Spells.length_eq (h : Spells word s) : s.length = word.length := by
  induction word generalizing s with
  | nil =>
    cases h
    rfl
  | cons w ws ih =>
    obtain ⟨c, cs, rfl, hcs, -⟩ := h.cons
    rw [List.length_cons, List.length_cons, ih hcs]

/-- A character that stands for no letter. -/
lemma Spells.not_mem (h : Spells word s) (hword : c.toLower ∉ word) (hs : c.toNat ≠ 0x17F)
    (hk : c.toNat ≠ 0x212A) : c ∉ s := by
  induction word generalizing s with
  | nil =>
    cases h
    exact List.not_mem_nil
  | cons w ws ih =>
    obtain ⟨d, ds, rfl, hds, hd⟩ := h.cons
    rw [List.mem_cons, not_or] at hword ⊢
    refine ⟨?_, ih hds hword.2⟩
    rintro rfl
    rcases hd with hd | ⟨-, hd⟩ | ⟨-, hd⟩
    · exact hword.1 hd
    · exact hs hd
    · exact hk hd

/-- The first occurrence of a character is at one place. -/
lemma append_cons_inj {a a' b b' : List Char} (ha : c ∉ a) (ha' : c ∉ a')
    (h : a ++ c :: b = a' ++ c :: b') : a = a' ∧ b = b' := by
  have hsplit := splitAt?_append ha b
  rw [h, splitAt?_append ha' b'] at hsplit
  cases hsplit
  exact ⟨rfl, rfl⟩

/-- What is behind an occurrence of a character is at the end of what is behind the first one. -/
lemma suffix_of_append_cons {a a' b b' : List Char} (ha : c ∉ a) (h : a ++ c :: b = a' ++ c :: b') :
    b' <:+ b := by
  rcases List.append_eq_append_iff.mp h with ⟨beyond, rfl, hbeyond⟩ | ⟨beyond, rfl, hbeyond⟩
  · cases beyond with
    | nil => exact (List.cons.inj hbeyond).2 ▸ List.suffix_refl _
    | cons d beyond =>
      obtain ⟨-, rfl⟩ := List.cons.inj hbeyond
      exact ⟨beyond ++ [c], by simp⟩
  · cases beyond with
    | nil => exact (List.cons.inj hbeyond).2 ▸ List.suffix_refl _
    | cons d beyond =>
      obtain ⟨rfl, -⟩ := List.cons.inj hbeyond
      exact absurd (List.mem_append_right _ List.mem_cons_self) ha

end Text

namespace Component

open Text (Spells isBlank wordUpToCase?)

variable {names : List (List Char)} {name attributes body closing s t u rest : List Char} {b : Block}

namespace Block

/-! ## Opening tags -/

/-- The text can stand between the name and the end of an opening tag. -/
def IsAttributes (s : List Char) : Prop := '>' ∉ s ∧ ∀ c ∈ s.head?, isBlank c = true

/-- The text is one of the names. -/
def IsName (names : List (List Char)) (s : List Char) : Prop := ∃ word ∈ names, Spells word s

/-- The names of tags that the library knows. -/
def AreNames (names : List (List Char)) : Prop :=
  ∀ word ∈ names, word = scriptName ∨ word = styleName

/-- The name of style blocks is a name of blocks. -/
lemma areNames_style : AreNames [styleName] := by
  intro word h
  exact .inr (List.mem_singleton.mp h)

/-- So are the names of both kinds of blocks. -/
lemma areNames_both : AreNames [scriptName, styleName] := by
  intro word h
  simpa using h

/-- Attributes reach up to the first closing bracket behind them. -/
lemma attributes?_eq_some_iff :
    attributes? s = some (attributes, rest) ↔ s = attributes ++ '>' :: rest ∧
      IsAttributes attributes := by
  cases s with
  | nil =>
    refine iff_of_false (fun h => ?_) fun h => ?_
    · cases h
    · cases attributes <;> cases h.1
  | cons c cs =>
    rw [attributes?]
    split_ifs with hc hblank
    · -- The tag ends at once.
      subst hc
      constructor
      · rintro ⟨⟩
        exact ⟨rfl, List.not_mem_nil, by rintro _ ⟨⟩⟩
      · rintro ⟨htext, hnot, -⟩
        cases attributes with
        | nil =>
          cases htext
          rfl
        | cons d ds =>
          cases htext
          exact absurd List.mem_cons_self hnot
    · rw [Option.map_eq_some_iff]
      constructor
      · rintro ⟨⟨inner, behind⟩, hsplit, heq⟩
        cases heq
        obtain ⟨rfl, hinner⟩ := Text.splitAt?_eq_some_iff.mp hsplit
        refine ⟨rfl, ?_, ?_⟩
        · rw [List.mem_cons, not_or]
          exact ⟨Ne.symm hc, hinner⟩
        · rintro d ⟨⟩
          exact hblank
      · rintro ⟨htext, hnot, -⟩
        cases attributes with
        | nil => exact absurd (List.cons.inj htext).1 hc
        | cons d ds =>
          obtain ⟨rfl, rfl⟩ := List.cons.inj htext
          rw [List.mem_cons, not_or] at hnot
          exact ⟨(ds, rest), Text.splitAt?_eq_some_iff.mpr ⟨rfl, hnot.2⟩, rfl⟩
    · refine iff_of_false (fun h => ?_) ?_
      · cases h
      rintro ⟨htext, -, hhead⟩
      cases attributes with
      | nil => exact hc (List.cons.inj htext).1
      | cons d ds =>
        obtain ⟨rfl, -⟩ := List.cons.inj htext
        exact hblank (hhead c rfl)

/-- No text starts with both names. -/
lemma not_both_names {m m' r r' : List Char} (hscript : wordUpToCase? scriptName s = some (m, r))
    (hstyle : wordUpToCase? styleName s = some (m', r')) : False := by
  obtain ⟨rfl, h⟩ := Text.wordUpToCase?_eq_some_iff.mp hscript
  obtain ⟨htext, h'⟩ := Text.wordUpToCase?_eq_some_iff.mp hstyle
  obtain ⟨c, cs, rfl, hcs, -⟩ := h.cons
  obtain ⟨c', cs', rfl, hcs', -⟩ := h'.cons
  obtain ⟨d, ds, rfl, -, hd⟩ := hcs.cons
  obtain ⟨d', ds', rfl, -, hd'⟩ := hcs'.cons
  obtain rfl : d = d' := (List.cons.inj (List.cons.inj htext).2).1
  -- The second letters differ.
  rcases hd with hd | ⟨hw, -⟩ | ⟨hw, -⟩
  · rcases hd' with hd' | ⟨hw, -⟩ | ⟨hw, -⟩
    · exact absurd (hd.symm.trans hd') (by decide)
    · exact absurd hw (by decide)
    · exact absurd hw (by decide)
  · exact absurd hw (by decide)
  · exact absurd hw (by decide)

/-- The first name that fits is the one that is spelled. -/
lemma findSome?_name_eq_some_iff (hnames : AreNames names) :
    names.findSome? (wordUpToCase? · s) = some (name, rest) ↔
      s = name ++ rest ∧ IsName names name := by
  constructor
  · intro h
    obtain ⟨word, hword, hread⟩ := List.exists_of_findSome?_eq_some h
    obtain ⟨htext, hspells⟩ := Text.wordUpToCase?_eq_some_iff.mp hread
    exact ⟨htext, word, hword, hspells⟩
  · rintro ⟨rfl, word, hword, hspells⟩
    have hread := Text.wordUpToCase?_append hspells rest
    cases hfind : names.findSome? (wordUpToCase? · (name ++ rest)) with
    | none => exact absurd (List.findSome?_eq_none_iff.mp hfind word hword) (by simp [hread])
    | some found =>
      obtain ⟨word', hword', hread'⟩ := List.exists_of_findSome?_eq_some hfind
      rcases hnames word hword with rfl | rfl <;> rcases hnames word' hword' with rfl | rfl
      · exact hread'.symm.trans hread
      · exact (not_both_names hread hread').elim
      · exact (not_both_names hread' hread).elim
      · exact hread'.symm.trans hread

/-- What an opening tag is: its text, and nothing behind it. -/
lemma openTag?_eq_some_iff (hnames : AreNames names) :
    openTag? names s = some (name, attributes, rest) ↔
      s = openText name attributes ++ rest ∧ IsName names name ∧ IsAttributes attributes := by
  constructor
  · intro h
    refine ⟨openTag?_text h, ?_⟩
    unfold openTag? at h
    split at h
    · split at h
      · rename_i hname
        obtain ⟨⟨inner, behind⟩, hattributes, heq⟩ := Option.map_eq_some_iff.mp h
        cases heq
        exact ⟨((findSome?_name_eq_some_iff hnames).mp hname).2,
          (attributes?_eq_some_iff.mp hattributes).2⟩
      · cases h
    · cases h
  · rintro ⟨rfl, hname, hattributes⟩
    have htext : openText name attributes ++ rest =
        '<' :: (name ++ (attributes ++ '>' :: rest)) := by
      simp [openText]
    rw [htext, openTag?, (findSome?_name_eq_some_iff hnames).mpr ⟨rfl, hname⟩]
    simp only
    rw [attributes?_eq_some_iff.mpr ⟨rfl, hattributes⟩]
    rfl

/-! ## Closing tags -/

/-- The text is a closing tag. -/
def IsClosing (name s : List Char) : Prop :=
  ∃ written blanks, Spells name written ∧ (∀ c ∈ blanks, isBlank c = true) ∧
    s = '<' :: '/' :: written ++ blanks ++ ['>']

/-- A closing tag has the name, and white space before its bracket. -/
lemma closeTag?_eq_some_iff :
    closeTag? name s = some (closing, rest) ↔ s = closing ++ rest ∧ IsClosing name closing := by
  constructor
  · intro h
    refine ⟨closeTag?_text h, ?_⟩
    unfold closeTag? at h
    split at h
    · split at h
      · rename_i _ _ written behind hname
        split at h
        · cases h
          exact ⟨written, _, (Text.wordUpToCase?_eq_some_iff.mp hname).2,
            fun c hc => List.mem_takeWhile_imp hc, rfl⟩
        · cases h
      · cases h
    · cases h
  · rintro ⟨rfl, written, blanks, hspells, hblanks, rfl⟩
    have htext : '<' :: '/' :: written ++ blanks ++ ['>'] ++ rest =
        '<' :: '/' :: (written ++ (blanks ++ '>' :: rest)) := by simp
    have hend : isBlank '>' = false := by decide
    have hdrop : (blanks ++ '>' :: rest).dropWhile isBlank = '>' :: rest := by
      rw [List.dropWhile_append_of_pos hblanks, List.dropWhile_cons_of_neg (by simp [hend])]
    have htake : (blanks ++ '>' :: rest).takeWhile isBlank = blanks := by
      rw [List.takeWhile_append_of_pos hblanks, List.takeWhile_cons_of_neg (by simp [hend]),
        List.append_nil]
    rw [htext, closeTag?, Text.wordUpToCase?_append hspells]
    simp only [hdrop, htake]

/-- Where tags begin, a closing tag has no second one. -/
lemma IsClosing.exists_tail (h : IsClosing name closing) (hname : '<' ∉ name) :
    ∃ tail, closing = '<' :: tail ∧ '<' ∉ tail := by
  obtain ⟨written, blanks, hspells, hblanks, rfl⟩ := h
  refine ⟨'/' :: written ++ blanks ++ ['>'], rfl, ?_⟩
  have hwritten : '<' ∉ written := hspells.not_mem hname (by decide) (by decide)
  have hblank : '<' ∉ blanks := fun hmem => absurd (hblanks _ hmem) (by decide)
  simp [hwritten, hblank]

/-- A closing tag ends with its first `>`. -/
lemma IsClosing.exists_front (h : IsClosing name closing) (hname : '>' ∉ name) :
    ∃ front, closing = front ++ ['>'] ∧ '>' ∉ front := by
  obtain ⟨written, blanks, hspells, hblanks, rfl⟩ := h
  refine ⟨'<' :: '/' :: written ++ blanks, rfl, ?_⟩
  have hwritten : '>' ∉ written := hspells.not_mem hname (by decide) (by decide)
  have hblank : '>' ∉ blanks := fun hmem => absurd (hblanks _ hmem) (by decide)
  simp [hwritten, hblank]

/-- A closing tag needs nothing of what is behind it. -/
lemma closeTag?_eq_none_of_append (h : closeTag? name (t ++ u) = none) : closeTag? name t = none := by
  rw [Option.eq_none_iff_forall_ne_some]
  rintro ⟨closing, rest⟩ hclose
  obtain ⟨rfl, hclosing⟩ := closeTag?_eq_some_iff.mp hclose
  rw [List.append_assoc, closeTag?_eq_some_iff.mpr ⟨rfl, hclosing⟩] at h
  cases h

/-- No closing tag reaches to the place where another tag begins. -/
lemma closeTag?_append_eq_none (hname : '<' ∉ name) (ht : t ≠ []) (h : closeTag? name t = none)
    (u : List Char) : closeTag? name (t ++ '<' :: u) = none := by
  rw [Option.eq_none_iff_forall_ne_some]
  rintro ⟨closing, rest⟩ hclose
  obtain ⟨htext, hclosing⟩ := closeTag?_eq_some_iff.mp hclose
  rcases List.append_eq_append_iff.mp htext with ⟨beyond, rfl, hbeyond⟩ | ⟨left, rfl, -⟩
  · obtain ⟨tail, heq, hnot⟩ := hclosing.exists_tail hname
    cases t with
    | nil => exact ht rfl
    | cons c t =>
      cases beyond with
      | nil =>
        rw [List.append_nil] at hclosing
        rw [closeTag?_eq_some_iff.mpr ⟨(List.append_nil _).symm, hclosing⟩] at h
        cases h
      | cons d beyond =>
        obtain ⟨-, rfl⟩ := List.cons.inj heq
        obtain ⟨rfl, -⟩ := List.cons.inj hbeyond
        exact hnot (List.mem_append_right _ List.mem_cons_self)
  · rw [closeTag?_eq_some_iff.mpr ⟨rfl, hclosing⟩] at h
    cases h

/-- Where a closing tag follows, a block is closed. -/
lemma untilClose_ne_none (h : t <:+ s) (hclose : closeTag? name t ≠ none) :
    untilClose name s ≠ none := by
  induction s with
  | nil =>
    rw [List.suffix_nil.mp h] at hclose
    exact absurd rfl hclose
  | cons c cs ih =>
    unfold untilClose
    split
    · exact Option.some_ne_none _
    · rename_i hnone
      rcases List.suffix_cons_iff.mp h with rfl | h
      · exact absurd hnone hclose
      · rw [ne_eq, Option.map_eq_none_iff]
        exact ih h

/-- The text holds no closing tag. -/
def IsBody (name body : List Char) : Prop := ∀ t, t <:+ body → closeTag? name t = none

/-- A text without an opening bracket is a body. -/
lemma isBody_of_not_mem (h : '<' ∉ body) : IsBody name body := by
  intro t ht
  rw [Option.eq_none_iff_forall_ne_some]
  rintro ⟨closing, rest⟩ hclose
  obtain ⟨rfl, written, blanks, -, -, rfl⟩ := closeTag?_eq_some_iff.mp hclose
  exact h (ht.subset List.mem_cons_self)

/-- A body and the first closing tag. -/
lemma untilClose_eq_some_iff (hname : '<' ∉ name) :
    untilClose name s = some (body, closing, rest) ↔
      s = body ++ closing ++ rest ∧ IsClosing name closing ∧ IsBody name body := by
  constructor
  · intro h
    refine ⟨untilClose_text h, ?_⟩
    induction s generalizing body with
    | nil => cases h
    | cons c cs ih =>
      unfold untilClose at h
      split at h
      · rename_i hclose
        cases h
        refine ⟨(closeTag?_eq_some_iff.mp hclose).2, fun t ht => ?_⟩
        rw [List.suffix_nil.mp ht]
        rfl
      · rename_i hnone
        obtain ⟨⟨body', closing', rest'⟩, hread, heq⟩ := Option.map_eq_some_iff.mp h
        cases heq
        obtain ⟨hclosing, hbody⟩ := ih hread
        refine ⟨hclosing, fun t ht => ?_⟩
        rcases List.suffix_cons_iff.mp ht with rfl | ht
        · rw [untilClose_text hread, List.append_assoc, ← List.cons_append] at hnone
          exact closeTag?_eq_none_of_append hnone
        · exact hbody t ht
  · rintro ⟨rfl, hclosing, hbody⟩
    obtain ⟨tail, rfl, -⟩ := hclosing.exists_tail hname
    induction body with
    | nil =>
      have hread : closeTag? name ('<' :: tail ++ rest) = some ('<' :: tail, rest) :=
        closeTag?_eq_some_iff.mpr ⟨rfl, hclosing⟩
      rw [List.nil_append, List.cons_append, untilClose, ← List.cons_append, hread]
    | cons c cs ih =>
      have hnone : closeTag? name (c :: (cs ++ '<' :: tail ++ rest)) = none := by
        have hlocal := closeTag?_append_eq_none hname (List.cons_ne_nil c cs)
          (hbody _ (List.suffix_refl _)) (tail ++ rest)
        simpa using hlocal
      have htext : c :: cs ++ '<' :: tail ++ rest = c :: (cs ++ '<' :: tail ++ rest) := by simp
      rw [htext, untilClose, hnone, ih fun t ht => hbody t (ht.trans (List.suffix_cons _ _))]
      rfl

/-! ## Blocks -/

/-- The name of a closing tag has no bracket. -/
lemma not_mem_closingName (name : List Char) : '<' ∉ closingName name := by
  unfold closingName
  split
  · decide
  · decide

/-- A style is closed as such. -/
lemma IsName.not_namesScript (h : IsName [styleName] name) : namesScript name = false := by
  obtain ⟨word, hword, hspells⟩ := h
  obtain rfl := List.mem_singleton.mp hword
  refine beq_eq_false_iff_ne.mpr fun heq => ?_
  have hlength := congrArg List.length heq
  rw [List.length_map, hspells.length_eq] at hlength
  exact absurd hlength (by decide)

/-- A style block is closed by its own name. -/
lemma IsName.closingName_eq (h : IsName [styleName] name) : closingName name = styleName := by
  rw [closingName, h.not_namesScript]
  rfl

/-- A name of few kinds of blocks is one of more kinds. -/
lemma IsName.mono {names' : List (List Char)} (h : IsName names name) (hsub : names ⊆ names') :
    IsName names' name := by
  obtain ⟨word, hword, hspells⟩ := h
  exact ⟨word, hsub hword, hspells⟩

/-- A block that is closed by the first closing tag behind its opening tag. -/
structure Tagged (names : List (List Char)) (b : Block) : Prop where
  name : IsName names b.name
  attributes : IsAttributes b.attributes
  closing : IsClosing (closingName b.name) b.closing
  body : IsBody (closingName b.name) b.body

/-- The text of a block is its opening tag, its body and its closing tag. -/
lemma text_eq (b : Block) : b.text = openText b.name b.attributes ++ (b.body ++ b.closing) :=
  List.append_assoc _ _ _

/-- A block is known by its text alone. -/
lemma pattern_eq_some_iff (hnames : AreNames names) {lineStart : Bool} :
    pattern names lineStart s = some (b, rest) ↔ s = b.text ++ rest ∧ b.Tagged names := by
  constructor
  · intro h
    unfold pattern at h
    split at h
    · cases h
    · rename_i hopen
      obtain ⟨⟨body, closing, behind⟩, hclose, heq⟩ := Option.map_eq_some_iff.mp h
      cases heq
      obtain ⟨rfl, hname, hattributes⟩ := (openTag?_eq_some_iff hnames).mp hopen
      obtain ⟨rfl, hclosing, hbody⟩ :=
        (untilClose_eq_some_iff (not_mem_closingName _)).mp hclose
      exact ⟨by simp [text], hname, hattributes, hclosing, hbody⟩
  · rintro ⟨rfl, h⟩
    have htext : b.text ++ rest =
        openText b.name b.attributes ++ (b.body ++ b.closing ++ rest) := by
      simp [text]
    rw [htext, pattern, (openTag?_eq_some_iff hnames).mpr ⟨rfl, h.name, h.attributes⟩]
    simp only
    rw [(untilClose_eq_some_iff (not_mem_closingName _)).mpr ⟨rfl, h.closing, h.body⟩]
    rfl

/-- A block is found where its text stands. -/
lemma reads (hnames : AreNames names) : (pattern names).Reads text := by
  intro lineStart s b rest h
  exact ⟨((pattern_eq_some_iff hnames).mp h).1, by simp [text, openText]⟩

/-- A block may stand anywhere in a line. -/
lemma unanchored (names : List (List Char)) : (pattern names).Unanchored := fun _ _ => rfl

end Block

namespace Region

lemma unanchored : pattern.Unanchored := fun _ _ => rfl

/-- Closed regions are blocks. -/
lemma pattern_eq_some_iff {lineStart : Bool} :
    pattern lineStart s = some (.closed b, rest) ↔
      s = b.text ++ rest ∧ b.Tagged [Block.scriptName, Block.styleName] := by
  have hblock : pattern lineStart s = some (.closed b, rest) ↔
      Block.pattern [Block.scriptName, Block.styleName] lineStart s = some (b, rest) := by
    unfold pattern Block.pattern
    cases Block.openTag? [Block.scriptName, Block.styleName] s with
    | none => exact iff_of_false nofun nofun
    | some tag =>
      obtain ⟨name, attributes, behind⟩ := tag
      cases hclose : Block.untilClose (Block.closingName name) behind <;> simp [hclose]
  rw [hblock, Block.pattern_eq_some_iff Block.areNames_both]

/-- Every opening tag begins a region. -/
lemma pattern_eq_none_iff {lineStart : Bool} :
    pattern lineStart s = none ↔
      Block.openTag? [Block.scriptName, Block.styleName] s = none := by
  rw [pattern]
  split
  · rename_i h
    exact iff_of_true rfl h
  · rename_i h
    refine iff_of_false ?_ (by simp [h])
    split <;> exact Option.some_ne_none _

end Region

/-! ## Texts that open the same tags -/

/-- The texts have a common front, and what is behind it begins a tag in both. -/
inductive Alike : List Char → List Char → Prop
  | refl (s : List Char) : Alike s s
  | tags {s t : List Char} (hs : '>' ∈ s) (ht : '>' ∈ t) : Alike ('<' :: s) ('<' :: t)
  | cons (c : Char) {s t : List Char} (h : Alike s t) : Alike (c :: s) (c :: t)

namespace Alike

/-- Of two texts that open the same tags, it does not matter which one is named first. -/
lemma symm (h : Alike s t) : Alike t s := by
  induction h with
  | refl s => exact .refl s
  | tags hs ht => exact .tags ht hs
  | cons c _ ih => exact .cons c ih

/-- A text in front changes nothing about it. -/
lemma append_left (u : List Char) (h : Alike s t) : Alike (u ++ s) (u ++ t) := by
  induction u with
  | nil => exact h
  | cons c u ih => exact .cons c ih

/-- Both texts have a closing bracket, or neither. -/
lemma mem_iff (h : Alike s t) : '>' ∈ s ↔ '>' ∈ t := by
  induction h with
  | refl s => rfl
  | tags hs ht => exact iff_of_true (List.mem_cons_of_mem _ hs) (List.mem_cons_of_mem _ ht)
  | cons c _ ih => rw [List.mem_cons, List.mem_cons, ih]

/-- Both texts start with the same character. -/
lemma head?_eq (h : Alike s t) : s.head? = t.head? := by
  cases h <;> rfl

/-- A name is read in front of both. -/
lemma exists_name {written : List Char} {word : List Char} (h : Alike s t) (hword : '<' ∉ word)
    (hread : wordUpToCase? word s = some (written, rest)) :
    ∃ rest', wordUpToCase? word t = some (written, rest') ∧ Alike rest rest' := by
  obtain ⟨rfl, hspells⟩ := Text.wordUpToCase?_eq_some_iff.mp hread
  have hnot : '<' ∉ written := hspells.not_mem hword (by decide) (by decide)
  suffices hsplit : ∃ rest', t = written ++ rest' ∧ Alike rest rest' by
    obtain ⟨rest', rfl, hrest⟩ := hsplit
    exact ⟨rest', Text.wordUpToCase?_append hspells rest', hrest⟩
  clear hread hspells
  induction written generalizing t with
  | nil => exact ⟨t, rfl, h⟩
  | cons c cs ih =>
    rw [List.mem_cons, not_or] at hnot
    cases h with
    | refl => exact ⟨rest, rfl, .refl rest⟩
    | tags => exact absurd rfl hnot.1
    | cons _ h =>
      obtain ⟨rest', rfl, hrest⟩ := ih h hnot.2
      exact ⟨rest', rfl, hrest⟩

/-- Where one text goes on with attributes, so does the other one. -/
lemma exists_attributes (h : Alike s t) (hread : Block.attributes? s = some (attributes, rest)) :
    ∃ attributes' rest', Block.attributes? t = some (attributes', rest') := by
  obtain ⟨rfl, hnot, hhead⟩ := Block.attributes?_eq_some_iff.mp hread
  obtain ⟨attributes', rest', rfl, hnot'⟩ :=
    List.eq_append_cons_of_mem (h.mem_iff.mp (List.mem_append_right _ List.mem_cons_self))
  refine ⟨attributes', rest', Block.attributes?_eq_some_iff.mpr ⟨rfl, hnot', fun c hc => ?_⟩⟩
  obtain ⟨cs, rfl⟩ := List.head?_eq_some_iff.mp hc
  have hfirst := h.head?_eq
  cases attributes with
  | nil =>
    obtain rfl : '>' = c := Option.some.inj hfirst
    exact absurd List.mem_cons_self hnot'
  | cons d ds =>
    obtain rfl : d = c := Option.some.inj hfirst
    exact hhead d rfl

/-- Behind the same character, both texts begin with an opening tag or none does. -/
lemma openTag?_eq_none {c : Char} (hnames : Block.AreNames names) (h : Alike s t)
    (hnone : Block.openTag? names (c :: s) = none) : Block.openTag? names (c :: t) = none := by
  rw [Option.eq_none_iff_forall_ne_some]
  rintro ⟨name, attributes, rest⟩ hopen
  obtain ⟨htext, ⟨word, hword, hspells⟩, hattributes⟩ :=
    (Block.openTag?_eq_some_iff hnames).mp hopen
  have hcons : Block.openText name attributes ++ rest =
      '<' :: (name ++ (attributes ++ '>' :: rest)) := by
    simp [Block.openText]
  obtain ⟨rfl, rfl⟩ := List.cons.inj (htext.trans hcons)
  have hangle : '<' ∉ word := by
    rcases hnames word hword with rfl | rfl <;> decide
  obtain ⟨behind, hname, hbehind⟩ := h.symm.exists_name hangle (Text.wordUpToCase?_append hspells _)
  obtain ⟨attributes', rest', hread⟩ :=
    hbehind.exists_attributes (Block.attributes?_eq_some_iff.mpr ⟨rfl, hattributes⟩)
  obtain ⟨rfl, hvalid⟩ := Block.attributes?_eq_some_iff.mp hread
  obtain ⟨rfl, -⟩ := Text.wordUpToCase?_eq_some_iff.mp hname
  have hother : Block.openTag? names ('<' :: (name ++ (attributes' ++ '>' :: rest'))) =
      some (name, attributes', rest') :=
    (Block.openTag?_eq_some_iff hnames).mpr
      ⟨by simp [Block.openText], ⟨word, hword, hspells⟩, hvalid⟩
  rw [hother] at hnone
  cases hnone

end Alike

end Component

end LiveBundle
