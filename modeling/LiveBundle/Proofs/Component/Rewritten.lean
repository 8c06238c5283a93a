import LiveBundle.Proofs.Component.Languages
import Mathlib.Data.List.Forall2
import Mathlib.Data.Sum.Order

/-!
# Preprocessed sources

Preprocessing writes the recognized blocks of a source anew. What it writes can be read as blocks
again, at the same places, if the style compiler closes no block and the attributes of a tag that
loses one are attributes still.

* `Block.Recognized.tagged_rewritten`: a block that was written anew is a block;
* `alike_writePieces`: writing tags anew does not open others in front of them;
* `stylePieces_preprocessAll`, `mem_styleBlocks_preprocessAll`: the blocks of a preprocessed source
  are those of the source, written anew;
* `preprocess_eq_self_iff`: when preprocessing changes nothing.
-/

namespace LiveBundle.Component

open Text (isBlank writePieces)
open Block (styleName scriptName)

variable {styleCompiler : Style.Compiler} {languages : List String} {source : String}
  {name attributes s t rest : List Char} {b : Block}

/-! ## What is written -/

/-- No output of the compiler holds the closing tag of a style. -/
def NeverCloses (styleCompiler : Style.Compiler) : Prop :=
  ∀ body css, styleCompiler body = .ok css → Block.IsBody styleName css.toList

/-- A style compiler that gives no bracket closes no block. -/
lemma neverCloses_const {css : String} (h : '<' ∉ css.toList) : NeverCloses fun _ => .ok css := by
  rintro body _ ⟨⟩
  exact Block.isBody_of_not_mem h

/-- If the first attribute is a `lang` attribute, white space or nothing follows it. -/
def Block.Spaced (b : Block) : Prop :=
  ∀ a back, FirstLang b.attributes [] a back → ∀ c ∈ back.head?, isBlank c = true

/-- Without their language, spaced attributes are attributes. -/
lemma Block.Spaced.isAttributes {a : LangAttribute} {front back : List Char} (hb : b.Spaced)
    (hattributes : Block.IsAttributes b.attributes) (h : FirstLang b.attributes front a back) :
    Block.IsAttributes (front ++ back) := by
  obtain ⟨hnot, hhead⟩ := hattributes
  rw [h.text] at hnot hhead
  simp only [List.mem_append, not_or] at hnot
  refine ⟨by simp [hnot.1.1, hnot.2], ?_⟩
  cases front with
  | nil => exact hb a back h
  | cons c front => exact hhead

/-- White space behind the language makes a block spaced. -/
lemma Block.spaced_of_takeLang {value : List Char} (h : takeLang b.attributes = some (value, rest))
    (hrest : ∀ c ∈ rest.head?, isBlank c = true) : b.Spaced := by
  intro a back hfirst
  have htake := takeLang_eq_some_iff.mpr ⟨[], a, back, hfirst, rfl, rfl⟩
  rw [h] at htake
  obtain rfl : rest = back := (Prod.mk.inj (Option.some.inj htake)).2
  exact hrest

/-- The name of style blocks is spelled by itself. -/
lemma Block.isName_styleName : Block.IsName [styleName] styleName :=
  ⟨styleName, List.mem_singleton_self _, rfl⟩

/-- A block that was written anew is a block. -/
lemma Block.Recognized.tagged_rewritten (h : b.Recognized languages) (hb : b.Tagged [styleName])
    (hcompiler : NeverCloses styleCompiler) (hspaced : b.Spaced) :
    (b.rewritten styleCompiler languages).Tagged [styleName] := by
  obtain ⟨front, a, back, hfirst, hrewritten⟩ := h.exists_rewritten styleCompiler
  have hname := Block.isName_styleName.closingName_eq
  rw [hrewritten]
  refine ⟨Block.isName_styleName, hspaced.isAttributes hb.attributes hfirst, ?_, ?_⟩
  · rw [hname]
    exact ⟨styleName, [], rfl, nofun, rfl⟩
  · rw [hname]
    show Block.IsBody styleName (b.content styleCompiler)
    unfold Block.content
    split
    · rename_i css hcss
      exact hcompiler _ _ hcss
    · rw [← hb.name.closingName_eq]
      exact hb.body

/-! ## Texts of pieces -/

/-- The text begins a tag. -/
def Opens (s : List Char) : Prop := ∃ t, s = '<' :: t ∧ '>' ∈ t

/-- A text that opens a tag does so whatever follows. -/
lemma Opens.append (h : Opens s) (t : List Char) : Opens (s ++ t) := by
  obtain ⟨u, rfl, hu⟩ := h
  exact ⟨u ++ t, rfl, List.mem_append_left _ hu⟩

/-- An opening tag opens a tag. -/
lemma opens_openText (name attributes : List Char) : Opens (Block.openText name attributes) :=
  ⟨name ++ attributes ++ ['>'], rfl, by simp⟩

/-- A block opens a tag. -/
lemma Block.opens_text (b : Block) : Opens b.text :=
  ((opens_openText b.name b.attributes).append b.body).append b.closing

/-- All texts that open a tag are alike. -/
lemma Opens.alike (hs : Opens s) (ht : Opens t) : Alike s t := by
  obtain ⟨s, rfl, hs⟩ := hs
  obtain ⟨t, rfl, ht⟩ := ht
  exact .tags hs ht

/-- Pieces of the same characters, with matches that stand in a relation. -/
abbrev Related {α : Type} (R : α → α → Prop) : List (Char ⊕ α) → List (Char ⊕ α) → Prop :=
  List.Forall₂ (Sum.LiftRel Eq R)

/-- Texts of pieces are alike if their matches are the same or both begin tags. -/
lemma alike_writePieces {α : Type} {f : α → List Char} {R : α → α → Prop}
    (hR : ∀ ⦃v v'⦄, R v v' → v = v' ∨ Opens (f v) ∧ Opens (f v')) {ps ps' : List (Char ⊕ α)}
    (h : Related R ps ps') (hst : Alike s t) :
    Alike (writePieces f ps ++ s) (writePieces f ps' ++ t) := by
  induction h with
  | nil => exact hst
  | cons hpiece _ ih =>
    cases hpiece with
    | inl hc =>
      subst hc
      exact .cons _ ih
    | inr hv =>
      rw [Text.writePieces_inr, Text.writePieces_inr, List.append_assoc, List.append_assoc]
      rcases hR hv with rfl | ⟨hopen, hopen'⟩
      · exact ih.append_left _
      · exact (hopen.append _).alike (hopen'.append _)

/-! ## The blocks of a preprocessed source -/

/-- An opening tag in front of a block is closed, if not before then with the block. -/
lemma openTag?_eq_none_of_mem {c : Char} {ps : List (Char ⊕ Block)}
    (hcut : Text.Cut (Block.pattern [styleName]) Block.text (.inl c :: ps)) (hb : .inr b ∈ ps) :
    Block.openTag? [styleName] (c :: writePieces Block.text ps) = none := by
  have htagged := tagged_of_cut hcut.2 hb
  obtain ⟨front, more, rfl⟩ := List.append_of_mem hb
  rw [Option.eq_none_iff_forall_ne_some]
  rintro ⟨name, attributes, rest⟩ hopen
  obtain ⟨htext, hname, hattributes⟩ := (Block.openTag?_eq_some_iff Block.areNames_style).mp hopen
  have hnot : '>' ∉ '<' :: name ++ attributes := by
    obtain ⟨word, hword, hspells⟩ := hname
    obtain rfl := List.mem_singleton.mp hword
    have hwritten : '>' ∉ name := hspells.not_mem (by decide) (by decide) (by decide)
    simp [hwritten, hattributes.1]
  -- The opening tag of the block ends with the first `>` or behind it.
  have hbehind : b.body ++ (b.closing ++ writePieces Block.text more) <:+ rest := by
    have hplaces : '<' :: name ++ attributes ++ '>' :: rest =
        c :: writePieces Block.text front ++ '<' :: b.name ++ b.attributes ++
          '>' :: (b.body ++ (b.closing ++ writePieces Block.text more)) := by
      rw [Text.writePieces_append, Text.writePieces_inr] at htext
      simpa [Block.text, Block.openText] using htext.symm
    exact Text.suffix_of_append_cons hnot hplaces
  have hclose : Block.closeTag? styleName (b.closing ++ writePieces Block.text more) ≠ none := by
    have hclosing := htagged.closing
    rw [htagged.name.closingName_eq] at hclosing
    rw [Block.closeTag?_eq_some_iff.mpr ⟨rfl, hclosing⟩]
    exact Option.some_ne_none _
  have hnone := hcut.1
  rw [Block.pattern, hopen] at hnone
  simp only [Option.map_eq_none_iff, hname.closingName_eq] at hnone
  exact Block.untilClose_ne_none ((List.suffix_append _ _).trans hbehind) hclose hnone

/-- Changed matches are related to the ones in their place. -/
lemma related_map {α : Type} (g : α → α) (ps : List (Char ⊕ α)) :
    Related (fun _ _ => True) ps (ps.map (Sum.map id g)) := by
  refine List.forall₂_map_right_iff.mpr (List.forall₂_same.mpr ?_)
  rintro (c | v) -
  · exact .inl rfl
  · exact .inr trivial

/-- Blocks that are written anew are found again, and no others. -/
lemma cut_rewritten {ps : List (Char ⊕ Block)}
    (hcut : Text.Cut (Block.pattern [styleName]) Block.text ps)
    (hcompiler : NeverCloses styleCompiler)
    (hspaced : ∀ b, .inr b ∈ ps → b.Recognized languages → b.Spaced) :
    Text.Cut (Block.pattern [styleName]) Block.text
      (ps.map (Sum.map id (Block.rewritten styleCompiler languages))) := by
  induction ps with
  | nil => trivial
  | cons piece ps ih =>
    cases piece with
    | inl c =>
      refine ⟨?_, ih hcut.2 fun b hb => hspaced b (List.mem_cons_of_mem _ hb)⟩
      by_cases hblock : ∃ b, .inr b ∈ ps
      · obtain ⟨b, hb⟩ := hblock
        have halike := alike_writePieces (fun b b' _ => .inr ⟨b.opens_text, b'.opens_text⟩)
          (related_map (Block.rewritten styleCompiler languages) ps) (.refl [])
        rw [List.append_nil, List.append_nil] at halike
        have hnone := halike.openTag?_eq_none Block.areNames_style (openTag?_eq_none_of_mem hcut hb)
        show Block.pattern [styleName] true (c :: _) = none
        rw [Block.pattern, hnone]
      · -- What follows are characters only.
        have hsame : ps.map (Sum.map id (Block.rewritten styleCompiler languages)) = ps := by
          refine (List.map_congr_left fun piece hpiece => ?_).trans (List.map_id _)
          cases piece with
          | inl d => rfl
          | inr b => exact absurd ⟨b, hpiece⟩ hblock
        rw [hsame]
        exact hcut.1
    | inr b =>
      refine ⟨(Block.pattern_eq_some_iff Block.areNames_style).mpr ⟨rfl, ?_⟩,
        ih hcut.2 fun b hb => hspaced b (List.mem_cons_of_mem _ hb)⟩
      have htagged := tagged_of_cut hcut List.mem_cons_self
      by_cases hb : b.Recognized languages
      · exact hb.tagged_rewritten htagged hcompiler (hspaced b List.mem_cons_self hb)
      · rw [Block.rewritten_of_not hb]
        exact htagged

variable (languages) in
/-- The pieces of a preprocessed source are those of the source, written anew. -/
lemma stylePieces_preprocessAll (hcompiler : NeverCloses styleCompiler)
    (hspaced : ∀ b ∈ styleBlocks source, b.Recognized languages → b.Spaced) :
    stylePieces (preprocessAll styleCompiler languages source) =
      (stylePieces source).map (Sum.map id (Block.rewritten styleCompiler languages)) := by
  refine (Text.pieces_eq_iff (Block.reads Block.areNames_style) (Block.unanchored _)).mpr ⟨?_, ?_⟩
  · rw [toList_preprocessAll, writePieces, writePieces, List.flatMap_map]
    congr 1
    funext piece
    cases piece <;> rfl
  · exact cut_rewritten (stylePieces_cut source).2 hcompiler
      fun b hb => hspaced b (mem_styleBlocks.mpr hb)

/-- The style blocks of a preprocessed source are those of the source, rewritten. -/
lemma mem_styleBlocks_preprocessAll (hcompiler : NeverCloses styleCompiler)
    (hspaced : ∀ b ∈ styleBlocks source, b.Recognized languages → b.Spaced) :
    b ∈ styleBlocks (preprocessAll styleCompiler languages source) ↔
      ∃ b₀ ∈ styleBlocks source, b₀.rewritten styleCompiler languages = b := by
  rw [mem_styleBlocks, stylePieces_preprocessAll languages hcompiler hspaced, List.mem_map]
  constructor
  · rintro ⟨piece, hpiece, heq⟩
    cases piece with
    | inl c => cases heq
    | inr b₀ => exact ⟨b₀, mem_styleBlocks.mpr hpiece, Sum.inr.inj heq⟩
  · rintro ⟨b₀, hb₀, rfl⟩
    exact ⟨.inr b₀, mem_styleBlocks.mp hb₀, rfl⟩

/-! ## Preprocessing twice -/

/-- Preprocessing leaves a source if it is not asked for or nothing is recognized. -/
lemma preprocess_eq_self_iff : preprocess styleCompiler languages source = source ↔
    needsPreprocessing languages source = false ∨
      ∀ b ∈ styleBlocks source, ¬b.Recognized languages := by
  rw [preprocess]
  split
  · rename_i hneeds
    rw [hneeds, or_iff_right (by decide), ← preprocessAll_eq_self_iff, preprocessAll]
  · rename_i hneeds
    exact iff_of_true rfl (.inl (Bool.not_eq_true _ ▸ hneeds))

/-- A block that was written anew has to have a second attribute to be recognized again. -/
lemma forall_mem_styleBlocks_preprocess (hcompiler : NeverCloses styleCompiler)
    (hspaced : ∀ b ∈ styleBlocks source, b.Recognized languages → b.Spaced)
    (hneeds : needsPreprocessing languages source = true) :
    (∀ b ∈ styleBlocks (preprocess styleCompiler languages source), ¬b.Recognized languages) ↔
      ∀ b ∈ styleBlocks source, b.Recognized languages →
        ¬(b.rewritten styleCompiler languages).Recognized languages := by
  have hall : preprocess styleCompiler languages source =
      preprocessAll styleCompiler languages source := by rw [preprocess, if_pos hneeds]; rfl
  rw [hall]
  simp only [mem_styleBlocks_preprocessAll hcompiler hspaced]
  constructor
  · intro h b hb _
    exact h _ ⟨b, hb, rfl⟩
  · rintro h b ⟨b₀, hb₀, rfl⟩
    by_cases hrecognized : b₀.Recognized languages
    · exact h b₀ hb₀ hrecognized
    · rwa [Block.rewritten_of_not hrecognized]

end LiveBundle.Component
