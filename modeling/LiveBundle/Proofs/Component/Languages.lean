import LiveBundle.Component.Preprocess
import LiveBundle.Proofs.Component.Tags

/-!
# Style blocks with a language

A style block is preprocessed if the first `lang` attribute of its opening tag has one of the
recognized languages as its value. The attribute may be spelled in many ways, and the languages are
compared up to case; the test in front of preprocessing knows one spelling only.

* `LangAttribute` is an attribute as it is spelled, `takeLang_eq_some_iff` says which one is taken;
* `Block.Recognized` are the blocks that are preprocessed, `Block.rewritten` is what they become;
* `preprocessAll` goes without the test in front, `preprocessAll_eq_self_iff`: it changes a source
  if and only if a block of it is recognized;
* `preprocess_eq_preprocessAll_iff`: when the test makes no difference.
-/

namespace LiveBundle.Component

open Text (isBlank writePieces)

variable {styleCompiler : Style.Compiler} {languages : List String} {source : String}
  {s t rest value front back : List Char} {b : Block}

/-! ## Attributes -/

/-- A `lang` attribute as it is spelled. -/
structure LangAttribute where
  /-- The white space in front. -/
  gap : List Char
  name : List Char
  /-- White space before the equals sign. -/
  before : List Char
  /-- White space behind the equals sign. -/
  behind : List Char
  quote : Char
  value : List Char

namespace LangAttribute

/-- The word in its plain spelling. -/
def word : List Char := ['l', 'a', 'n', 'g']

def text (a : LangAttribute) : List Char :=
  a.gap ++ a.name ++ a.before ++ '=' :: a.behind ++ a.quote :: a.value ++ [a.quote]

/-- The parts are what their names say. -/
structure Valid (a : LangAttribute) : Prop where
  gap_ne : a.gap ≠ []
  gap : ∀ c ∈ a.gap, isBlank c = true
  name : a.name.map Char.toLower = word
  before : ∀ c ∈ a.before, isBlank c = true
  behind : ∀ c ∈ a.behind, isBlank c = true
  quote : a.quote = '"' ∨ a.quote = '\''
  value : a.quote ∉ a.value

/-- The attribute is spelled in lower case and without white space in it. -/
def Plain (a : LangAttribute) : Prop := a.name = word ∧ a.before = [] ∧ a.behind = []

/-- An attribute has characters. -/
lemma text_ne_nil {a : LangAttribute} : a.text ≠ [] := by simp [text]

end LangAttribute

open LangAttribute (word)

/-- Words without letters of two capital forms. -/
lemma spells_iff {w s : List Char} (hs : 's' ∉ w) (hk : 'k' ∉ w) :
    Text.Spells w s ↔ s.map Char.toLower = w := by
  induction w generalizing s with
  | nil =>
    rw [List.map_eq_nil_iff, Text.Spells, Text.wordUpToCase?, Option.some_inj, Prod.mk.injEq]
    simp [eq_comm]
  | cons w ws ih =>
    rw [List.mem_cons, not_or] at hs hk
    constructor
    · intro h
      obtain ⟨c, cs, rfl, hcs, hc | ⟨rfl, -⟩ | ⟨rfl, -⟩⟩ := h.cons
      · rw [List.map_cons, hc, (ih hs.2 hk.2).mp hcs]
      · exact absurd rfl hs.1
      · exact absurd rfl hk.1
    · intro h
      cases s with
      | nil => cases h
      | cons c cs =>
        obtain ⟨hc, hcs⟩ := List.cons.inj h
        rw [Text.Spells, Text.wordUpToCase?, if_pos (.inl hc), (ih hs.2 hk.2).mpr hcs]
        rfl

/-- White space has no other forms. -/
lemma toLower_of_isBlank {c : Char} (h : isBlank c = true) : c.toLower = c := by
  unfold Char.toLower
  split
  · rename_i hupper
    have hlow : 65 ≤ c.toNat := hupper.1
    have hhigh : c.toNat ≤ 90 := hupper.2
    have hnot : isBlank c = false := by
      simp only [isBlank, Bool.or_eq_false_iff, Bool.and_eq_false_iff, decide_eq_false_iff_not,
        beq_eq_false_iff_ne]
      omega
    rw [hnot] at h
    cases h
  · rfl

lemma dropWhile_blanks {blanks : List Char} (hblanks : ∀ c ∈ blanks, isBlank c = true) {c : Char}
    (hc : isBlank c = false) (rest : List Char) :
    (blanks ++ c :: rest).dropWhile isBlank = c :: rest := by
  rw [List.dropWhile_append_of_pos hblanks, List.dropWhile_cons_of_neg (by simp [hc])]

namespace LangAttribute

variable {a : LangAttribute}

lemma text_append (a : LangAttribute) (rest : List Char) :
    a.text ++ rest = a.gap ++ (a.name ++ (a.before ++ '=' ::
      (a.behind ++ a.quote :: (a.value ++ a.quote :: rest)))) := by
  simp [text]

/-- The name starts with a letter. -/
lemma Valid.exists_name (h : a.Valid) : ∃ c cs, a.name = c :: cs ∧ isBlank c = false := by
  have hname := h.name
  cases hsplit : a.name with
  | nil =>
    rw [hsplit] at hname
    cases hname
  | cons c cs =>
    refine ⟨c, cs, rfl, ?_⟩
    rw [hsplit] at hname
    have hlower : c.toLower = 'l' := (List.cons.inj hname).1
    by_contra hblank
    rw [Bool.not_eq_false] at hblank
    rw [toLower_of_isBlank hblank] at hlower
    rw [hlower] at hblank
    exact absurd hblank (by decide)

lemma Valid.langPattern_text (h : a.Valid) (lineStart : Bool) (rest : List Char) :
    langPattern lineStart (a.text ++ rest) = some (a.value, rest) := by
  obtain ⟨c, gap, hgap⟩ := List.exists_cons_of_ne_nil h.gap_ne
  have hc : isBlank c = true := h.gap c (hgap ▸ List.mem_cons_self)
  obtain ⟨l, name, hname, hl⟩ := h.exists_name
  have hquote : isBlank a.quote = false := by
    rcases h.quote with h | h <;> rw [h] <;> decide
  have hread := Text.wordUpToCase?_append ((spells_iff (by decide) (by decide)).mpr h.name)
    (a.before ++ '=' :: (a.behind ++ a.quote :: (a.value ++ a.quote :: rest)))
  have hdrop := dropWhile_blanks h.gap hl
    (name ++ (a.before ++ '=' :: (a.behind ++ a.quote :: (a.value ++ a.quote :: rest))))
  have hvalue : Text.splitAt? a.quote (a.value ++ a.quote :: rest) = some (a.value, rest) :=
    Text.splitAt?_eq_some_iff.mpr ⟨rfl, h.value⟩
  rw [text_append, hname]
  rw [hname, List.cons_append, word] at hread
  rw [hgap, List.cons_append] at hdrop ⊢
  unfold langPattern
  rw [List.cons_append]
  simp only [hc, hdrop, hread, Bool.not_true, Bool.false_eq_true, if_false,
    dropWhile_blanks h.before (show isBlank '=' = false by decide),
    dropWhile_blanks h.behind hquote]
  rcases h.quote with h | h <;> rw [h] at hvalue ⊢ <;> exact hvalue

end LangAttribute

lemma exists_of_langPattern {lineStart : Bool} (h : langPattern lineStart s = some (value, rest)) :
    ∃ a : LangAttribute, a.Valid ∧ s = a.text ++ rest ∧ a.value = value := by
  have hsplit {t u : List Char} (h : t.dropWhile isBlank = u) : t = t.takeWhile isBlank ++ u := by
    rw [← h, List.takeWhile_append_dropWhile]
  have hblanks (t : List Char) : ∀ c ∈ t.takeWhile isBlank, isBlank c = true :=
    fun c hc => List.mem_takeWhile_imp hc
  unfold langPattern at h
  split at h
  · rename_i c cs
    split at h
    · cases h
    rename_i hblank
    split at h
    · cases h
    rename_i _ name behindName hname
    obtain ⟨hgap, hspells⟩ := Text.wordUpToCase?_eq_some_iff.mp hname
    split at h
    swap
    · cases h
    rename_i behindEquals hequals
    have hquoted {quote : Char} (hquote : quote = '"' ∨ quote = '\'') {behind : List Char}
        (hbehind : behindEquals.dropWhile isBlank = quote :: behind)
        (hvalue : Text.splitAt? quote behind = some (value, rest)) :
        ∃ a : LangAttribute, a.Valid ∧ c :: cs = a.text ++ rest ∧ a.value = value := by
      obtain ⟨rfl, hnot⟩ := Text.splitAt?_eq_some_iff.mp hvalue
      refine ⟨⟨(c :: cs).takeWhile isBlank, name, behindName.takeWhile isBlank,
        behindEquals.takeWhile isBlank, quote, value⟩, ⟨?_, hblanks _,
        (spells_iff (by decide) (by decide)).mp hspells, hblanks _, hblanks _, hquote, hnot⟩, ?_,
        rfl⟩
      · rw [List.takeWhile_cons_of_pos (by simpa using hblank)]
        exact List.cons_ne_nil _ _
      · rw [LangAttribute.text_append]
        simp only
        rw [← hsplit hbehind, ← hsplit hequals]
        exact hsplit hgap
    split at h
    · rename_i hbehind
      exact hquoted (.inl rfl) hbehind h
    · rename_i hbehind
      exact hquoted (.inr rfl) hbehind h
    · cases h
  · cases h

/-- The attribute in front of a text. -/
lemma langPattern_eq_some_iff {lineStart : Bool} :
    langPattern lineStart s = some (value, rest) ↔
      ∃ a : LangAttribute, a.Valid ∧ s = a.text ++ rest ∧ a.value = value := by
  refine ⟨exists_of_langPattern, ?_⟩
  rintro ⟨a, ha, rfl, rfl⟩
  exact ha.langPattern_text lineStart rest

/-- The first `lang` attribute of a text, between what stands in front of it and behind it. -/
structure FirstLang (s front : List Char) (a : LangAttribute) (back : List Char) : Prop where
  text : s = front ++ a.text ++ back
  valid : a.Valid
  first : ∀ front' a' back', LangAttribute.Valid a' → s = front' ++ a'.text ++ back' →
    front.length ≤ front'.length

/-- The first attribute is taken out of the text. -/
lemma takeLang_eq_some_iff : takeLang s = some (value, rest) ↔
    ∃ front a back, FirstLang s front a back ∧ a.value = value ∧ front ++ back = rest := by
  induction s generalizing rest with
  | nil =>
    refine iff_of_false nofun ?_
    rintro ⟨front, a, back, h, -⟩
    have hnil := h.text.symm
    simp [LangAttribute.text_ne_nil] at hnil
  | cons c cs ih =>
    unfold takeLang
    split
    · rename_i hit hhit
      obtain ⟨value', rest'⟩ := hit
      obtain ⟨a, ha, htext, rfl⟩ := langPattern_eq_some_iff.mp hhit
      constructor
      · rintro ⟨⟩
        exact ⟨[], a, rest, ⟨htext, ha, fun _ _ _ _ _ => Nat.zero_le _⟩, rfl, rfl⟩
      · rintro ⟨front, a', back, h, rfl, rfl⟩
        have hfront : front = [] :=
          List.eq_nil_of_length_eq_zero (Nat.le_zero.mp (h.first [] a rest' ha htext))
        subst hfront
        have hread := h.valid.langPattern_text false back
        rw [← List.nil_append a'.text, ← h.text, hhit] at hread
        exact hread
    · rename_i hnone
      have hstart {a : LangAttribute} {back : List Char} (ha : a.Valid)
          (htext : c :: cs = a.text ++ back) : False := by
        rw [htext, ha.langPattern_text] at hnone
        cases hnone
      rw [Option.map_eq_some_iff]
      constructor
      · rintro ⟨⟨value', rest'⟩, hread, heq⟩
        cases heq
        obtain ⟨front, a, back, h, rfl, rfl⟩ := ih.mp hread
        refine ⟨c :: front, a, back, ⟨by rw [h.text]; rfl, h.valid, ?_⟩, rfl, rfl⟩
        intro front' a' back' ha' htext
        cases front' with
        | nil => exact (hstart ha' htext).elim
        | cons d front' =>
          exact Nat.succ_le_succ (h.first front' a' back' ha' (List.cons.inj htext).2)
      · rintro ⟨front, a, back, h, rfl, rfl⟩
        cases front with
        | nil => exact (hstart h.valid h.text).elim
        | cons d front =>
          obtain ⟨rfl, htext⟩ := List.cons.inj h.text
          refine ⟨(a.value, front ++ back), ih.mpr ⟨front, a, back, ⟨htext, h.valid, ?_⟩, rfl, rfl⟩,
            rfl⟩
          intro front' a' back' ha' htext'
          exact Nat.le_of_succ_le_succ
            (h.first (c :: front') a' back' ha' (by rw [htext']; rfl))

/-! ## Recognized blocks -/

namespace Block

/-- The value of the first `lang` attribute is one of the languages, up to case. -/
def Recognized (languages : List String) (b : Block) : Prop :=
  ∃ front a back, FirstLang b.attributes front a back ∧
    ∃ language ∈ languages, Text.eqIgnoreAsciiCase language (String.ofList a.value) = true

lemma recognized_iff : b.Recognized languages ↔ ∃ value rest,
    takeLang b.attributes = some (value, rest) ∧
      languages.any (Text.eqIgnoreAsciiCase · (String.ofList value)) = true := by
  simp only [List.any_eq_true]
  constructor
  · rintro ⟨front, a, back, h, hany⟩
    exact ⟨a.value, _, takeLang_eq_some_iff.mpr ⟨front, a, back, h, rfl, rfl⟩, hany⟩
  · rintro ⟨value, rest, htake, hany⟩
    obtain ⟨front, a, back, h, rfl, -⟩ := takeLang_eq_some_iff.mp htake
    exact ⟨front, a, back, h, hany⟩

instance (languages : List String) (b : Block) : Decidable (b.Recognized languages) :=
  decidable_of_iff ((takeLang b.attributes).any fun (value, _) =>
      languages.any (Text.eqIgnoreAsciiCase · (String.ofList value))) <| by
    rw [recognized_iff, Option.any_eq_true]
    simp

/-- What a style compiler makes of the body; a body that does not compile stays. -/
def content (styleCompiler : Style.Compiler) (b : Block) : List Char :=
  match styleCompiler (String.ofList b.body) with
  | .ok css => css.toList
  | .error _ => b.body

/-- The closing tag that is written. -/
def closingText : List Char := "</style>".toList

/-- The block in its place: compiled and without the attribute, if it is recognized. -/
def rewritten (styleCompiler : Style.Compiler) (languages : List String) (b : Block) : Block :=
  match takeLang b.attributes with
  | none => b
  | some (value, attributes) =>
    if languages.any (Text.eqIgnoreAsciiCase · (String.ofList value)) then
      ⟨styleName, attributes, b.content styleCompiler, closingText⟩
    else b

lemma rewritten_of_not (h : ¬b.Recognized languages) :
    b.rewritten styleCompiler languages = b := by
  unfold rewritten
  split
  · rfl
  · rename_i value attributes htake
    rw [if_neg]
    intro hany
    exact h (recognized_iff.mpr ⟨value, attributes, htake, hany⟩)

lemma Recognized.exists_rewritten (h : b.Recognized languages) (styleCompiler : Style.Compiler) :
    ∃ front a back, FirstLang b.attributes front a back ∧ b.rewritten styleCompiler languages =
      ⟨styleName, front ++ back, b.content styleCompiler, closingText⟩ := by
  obtain ⟨value, attributes, htake, hany⟩ := recognized_iff.mp h
  obtain ⟨front, a, back, hfirst, -, rfl⟩ := takeLang_eq_some_iff.mp htake
  refine ⟨front, a, back, hfirst, ?_⟩
  rw [rewritten, htake]
  exact if_pos hany

end Block

lemma preprocessBlock_eq (styleCompiler : Style.Compiler) (languages : List String) (b : Block) :
    preprocessBlock styleCompiler languages b = (b.rewritten styleCompiler languages).text := by
  unfold preprocessBlock Block.rewritten
  cases takeLang b.attributes with
  | none => rfl
  | some found =>
    simp only
    split
    · rfl
    · rfl

/-! ## Preprocessing without the test in front -/

/-- What a source is cut into. -/
def stylePieces (source : String) : List (Char ⊕ Block) :=
  Text.pieces (Block.pattern [Block.styleName]) source.toList

/-- The style blocks of a source, in order. -/
def styleBlocks (source : String) : List Block :=
  Text.hits (Block.pattern [Block.styleName]) source.toList

/-- Compiles all blocks in one of the languages, whatever else the source holds. -/
def preprocessAll (styleCompiler : Style.Compiler) (languages : List String) (source : String) :
    String :=
  String.ofList (Text.replaceAll (Block.pattern [Block.styleName])
    (preprocessBlock styleCompiler languages) source.toList)

lemma mem_styleBlocks : b ∈ styleBlocks source ↔ .inr b ∈ stylePieces source := by
  unfold styleBlocks Text.hits
  rw [List.mem_filterMap]
  constructor
  · rintro ⟨piece, hpiece, heq⟩
    cases piece with
    | inl c => cases heq
    | inr b' =>
      cases heq
      exact hpiece
  · intro h
    exact ⟨.inr b, h, rfl⟩

/-- The pieces make up the source, and are what is found at their places. -/
lemma stylePieces_cut (source : String) :
    writePieces Block.text (stylePieces source) = source.toList ∧
      Text.Cut (Block.pattern [Block.styleName]) Block.text (stylePieces source) :=
  (Text.pieces_eq_iff (Block.reads Block.areNames_style) (Block.unanchored _)).mp rfl

lemma tagged_of_cut {ps : List (Char ⊕ Block)}
    (hcut : Text.Cut (Block.pattern [Block.styleName]) Block.text ps) (h : .inr b ∈ ps) :
    b.Tagged [Block.styleName] := by
  obtain ⟨front, more, rfl⟩ := List.append_of_mem h
  exact ((Block.pattern_eq_some_iff Block.areNames_style).mp hcut.of_append.1).2

lemma tagged_of_mem (h : b ∈ styleBlocks source) : b.Tagged [Block.styleName] :=
  tagged_of_cut (stylePieces_cut source).2 (mem_styleBlocks.mp h)

lemma toList_preprocessAll (styleCompiler : Style.Compiler) (languages : List String)
    (source : String) : (preprocessAll styleCompiler languages source).toList =
      writePieces (fun b => (b.rewritten styleCompiler languages).text) (stylePieces source) := by
  have hblock : preprocessBlock styleCompiler languages =
      fun b => (b.rewritten styleCompiler languages).text :=
    funext fun b => preprocessBlock_eq styleCompiler languages b
  rw [preprocessAll, String.toList_ofList, Text.replaceAll, hblock, stylePieces]

/-- The opening tag of a recognized block does not stay as it is, whatever follows. -/
lemma Block.Recognized.openText_ne (h : b.Recognized languages) (hb : b.Tagged [Block.styleName])
    (styleCompiler : Style.Compiler) (s t : List Char) :
    Block.openText (b.rewritten styleCompiler languages).name
        (b.rewritten styleCompiler languages).attributes ++ s ≠
      Block.openText b.name b.attributes ++ t := by
  obtain ⟨front, a, back, hfirst, hrewritten⟩ := h.exists_rewritten styleCompiler
  obtain ⟨word, hword, hspells⟩ := hb.name
  obtain rfl := List.mem_singleton.mp hword
  have hnot := hb.attributes.1
  intro heq
  rw [hrewritten] at heq
  simp only [Block.openText, List.cons_append, List.append_assoc, List.cons.injEq, true_and,
    List.nil_append] at heq
  obtain ⟨-, heq⟩ := List.append_inj heq hspells.length_eq.symm
  rw [hfirst.text] at heq hnot
  have hshort : '>' ∉ front ++ back := by
    simp only [List.mem_append, not_or] at hnot ⊢
    exact ⟨hnot.1.1, hnot.2⟩
  -- The tags end at different places.
  simp only [← List.append_assoc front] at heq
  obtain ⟨heq, -⟩ := Text.append_cons_inj hshort hnot heq
  have hlength := congrArg List.length heq
  have hpos : 0 < a.text.length := List.length_pos_iff.mpr LangAttribute.text_ne_nil
  simp only [List.length_append] at hlength
  omega

lemma Block.Recognized.text_ne (h : b.Recognized languages) (hb : b.Tagged [Block.styleName])
    (s t : List Char) : (b.rewritten styleCompiler languages).text ++ s ≠ b.text ++ t := by
  rw [Block.text_eq, Block.text_eq, List.append_assoc, List.append_assoc (Block.openText b.name _)]
  exact h.openText_ne hb styleCompiler _ _

lemma writePieces_rewritten_eq_iff (styleCompiler : Style.Compiler) (languages : List String)
    {ps : List (Char ⊕ Block)} (hps : ∀ b, .inr b ∈ ps → b.Tagged [Block.styleName]) :
    writePieces (fun b => (b.rewritten styleCompiler languages).text) ps =
      writePieces Block.text ps ↔ ∀ b, .inr b ∈ ps → ¬b.Recognized languages := by
  induction ps with
  | nil => exact iff_of_true rfl nofun
  | cons piece ps ih =>
    have ih := ih fun b hb => hps b (List.mem_cons_of_mem _ hb)
    cases piece with
    | inl c =>
      rw [Text.writePieces_inl, Text.writePieces_inl, List.cons_inj_right, ih]
      simp
    | inr b =>
      rw [Text.writePieces_inr, Text.writePieces_inr]
      by_cases hb : b.Recognized languages
      · refine iff_of_false (hb.text_ne (hps b List.mem_cons_self) _ _) ?_
        exact fun h => h b List.mem_cons_self hb
      · rw [Block.rewritten_of_not hb, List.append_right_inj, ih]
        simp [hb]

/-- A source stays as it is if and only if no block of it is recognized. -/
lemma preprocessAll_eq_self_iff : preprocessAll styleCompiler languages source = source ↔
    ∀ b ∈ styleBlocks source, ¬b.Recognized languages := by
  have htagged (b : Block) (hb : .inr b ∈ stylePieces source) : b.Tagged [Block.styleName] :=
    tagged_of_mem (mem_styleBlocks.mpr hb)
  have hpieces := writePieces_rewritten_eq_iff styleCompiler languages htagged
  rw [(stylePieces_cut source).1, ← toList_preprocessAll, String.toList_inj] at hpieces
  simpa only [mem_styleBlocks] using hpieces

/-! ## The test in front -/

lemma occursIn_iff : Text.occursIn s t = true ↔ s <:+: t := by
  induction t with
  | nil => rw [Text.occursIn, List.isEmpty_iff, List.infix_nil]
  | cons c cs ih =>
    rw [Text.occursIn, Bool.or_eq_true, List.isPrefixOf_iff_prefix, ih, List.infix_cons_iff]

/-- One of the languages stands in quotes behind a plain `lang=`, somewhere in the source. -/
def NamesPlainly (languages : List String) (source : String) : Prop :=
  ∃ language ∈ languages, ∃ quote, (quote = '"' ∨ quote = '\'') ∧
    word ++ '=' :: quote :: language.toList ++ [quote] <:+: source.toList

lemma needsPreprocessing_iff :
    needsPreprocessing languages source = true ↔ NamesPlainly languages source := by
  have hcontains (quote : Char) (language : String) :
      Text.contains (String.ofList (word ++ ['=', quote]) ++ language ++ String.ofList [quote])
        source = true ↔ word ++ '=' :: quote :: language.toList ++ [quote] <:+: source.toList := by
    rw [Text.contains, occursIn_iff]
    simp
  rw [needsPreprocessing, List.any_eq_true]
  refine exists_congr fun language => and_congr_right fun _ => ?_
  rw [Bool.or_eq_true]
  refine (or_congr (hcontains '"' language) (hcontains '\'' language)).trans ?_
  simp only [or_and_right, exists_or, exists_eq_left]

/-- The test knows languages as they are given, in attributes in their plain spelling. -/
lemma FirstLang.namesPlainly {a : LangAttribute} (h : FirstLang b.attributes front a back)
    (hplain : a.Plain) (hvalue : String.ofList a.value ∈ languages) (hb : b ∈ styleBlocks source) :
    NamesPlainly languages source := by
  refine ⟨_, hvalue, a.quote, h.valid.quote, ?_⟩
  obtain ⟨hname, hbefore, hbehind⟩ := hplain
  have hspelling : a.text = a.gap ++ (word ++ '=' :: a.quote :: a.value ++ [a.quote]) := by
    rw [LangAttribute.text, hname, hbefore, hbehind]
    simp
  have hattribute : word ++ '=' :: a.quote :: a.value ++ [a.quote] <:+: b.attributes := by
    rw [h.text, hspelling]
    exact ⟨front ++ a.gap, back, by simp⟩
  have hattributes : b.attributes <:+: b.text :=
    ⟨'<' :: b.name, '>' :: (b.body ++ b.closing), by simp [Block.text, Block.openText]⟩
  have hblock : b.text <:+: source.toList := by
    obtain ⟨more, rest, hsplit⟩ := List.append_of_mem (mem_styleBlocks.mp hb)
    rw [← (stylePieces_cut source).1, hsplit, Text.writePieces_append, Text.writePieces_inr]
    exact ⟨_, _, List.append_assoc _ _ _⟩
  rw [String.toList_ofList]
  exact hattribute.trans (hattributes.trans hblock)

/-- The test makes no difference if and only if it holds or nothing is recognized, and it holds
where a block names a language in the plain spelling. -/
theorem preprocess_eq_preprocessAll_iff (styleCompiler : Style.Compiler) (languages : List String)
    (source : String) :
    (preprocess styleCompiler languages source = preprocessAll styleCompiler languages source ↔
      NamesPlainly languages source ∨ ∀ b ∈ styleBlocks source, ¬b.Recognized languages) ∧
    ∀ b ∈ styleBlocks source, ∀ front a back, FirstLang b.attributes front a back → a.Plain →
      String.ofList a.value ∈ languages →
        preprocess styleCompiler languages source =
          preprocessAll styleCompiler languages source := by
  have hiff : preprocess styleCompiler languages source =
      preprocessAll styleCompiler languages source ↔
      NamesPlainly languages source ∨ ∀ b ∈ styleBlocks source, ¬b.Recognized languages := by
    by_cases hneeds : needsPreprocessing languages source = true
    · rw [preprocess, if_pos hneeds]
      exact iff_of_true rfl (.inl (needsPreprocessing_iff.mp hneeds))
    · rw [preprocess, if_neg hneeds, ← needsPreprocessing_iff, or_iff_right hneeds, eq_comm,
        preprocessAll_eq_self_iff]
  exact ⟨hiff, fun b hb front a back h hplain hvalue =>
    hiff.mpr (.inl (h.namesPlainly hplain hvalue hb))⟩

/-- The plain spelling. -/
theorem preprocess_eq_preprocessAll_plain :
    preprocess (fun css => .ok ("[" ++ css ++ "]")) ["scss"] "<style lang=\"scss\">b</style>" =
      preprocessAll (fun css => .ok ("[" ++ css ++ "]")) ["scss"]
        "<style lang=\"scss\">b</style>" :=
  (preprocess_eq_preprocessAll_iff _ _ _).2
    ⟨"style".toList, " lang=\"scss\"".toList, ['b'], "</style>".toList⟩ (by decide +kernel)
    [] ⟨[' '], word, [], [], '"', "scss".toList⟩ []
    ⟨by decide, ⟨by decide, List.forall_mem_singleton.mpr (by decide), by decide, nofun, nofun,
      .inl rfl, by decide⟩, fun _ _ _ _ _ => Nat.zero_le _⟩
    ⟨rfl, rfl, rfl⟩ (by decide)

/-- This block is recognized, and the test does not know its spelling. -/
theorem not_preprocess_eq_capitals :
    preprocess (fun css => .ok ("[" ++ css ++ "]")) ["scss"] "<style LANG=\"scss\">p {}</style>" ≠
      preprocessAll (fun css => .ok ("[" ++ css ++ "]")) ["scss"]
        "<style LANG=\"scss\">p {}</style>" := by
  decide +kernel

end LiveBundle.Component
