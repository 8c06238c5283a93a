import LiveBundle.Proofs.Component.Languages

/-!
# Preprocessing goes block by block

Preprocessing writes the style blocks of a component that have a recognized language, one by one:
what one block becomes depends on nothing but that block, whether or not the style compiler takes
it. All that stands between them is left.

* `Leftmost` says which characters and blocks a text is made of when its leftmost blocks are taken;
* `Written` says what stands in place of one of these pieces;
* `preprocess_blockwise`: a preprocessed source is made of what stands in place of its pieces, and
  an answer of the style compiler shows inside the blocks that it was given for.
-/

namespace LiveBundle.Component

open Text (writePieces)
open Block (styleName)

variable {styleCompiler other : Style.Compiler} {languages : List String} {source : String}
  {body : List Char} {ps : List (Char ⊕ Block)} {piece : Char ⊕ Block} {b : Block}

/-! ## The leftmost blocks -/

/-- A text as characters and style blocks. The blocks are the leftmost ones: none begins at a
character that is outside of them. -/
structure Leftmost (s : List Char) (ps : List (Char ⊕ Block)) : Prop where
  text : writePieces Block.text ps = s
  block : ∀ (front : List (Char ⊕ Block)) (b : Block) (more : List (Char ⊕ Block)),
    ps = front ++ .inr b :: more → b.Tagged [styleName]
  between : ∀ (front : List (Char ⊕ Block)) (c : Char) (more : List (Char ⊕ Block)),
    ps = front ++ .inl c :: more → ∀ (b : Block) (rest : List Char), b.Tagged [styleName] →
      c :: writePieces Block.text more ≠ b.text ++ rest

/-- The leftmost blocks are those that are found one after the other. -/
lemma leftmost_iff : Leftmost source.toList ps ↔ stylePieces source = ps := by
  rw [stylePieces, Text.pieces_eq_iff (Block.reads Block.areNames_style) (Block.unanchored _)]
  constructor
  · intro h
    refine ⟨h.text, ?_⟩
    have hcut (front more : List (Char ⊕ Block)) (hps : ps = front ++ more) :
        Text.Cut (Block.pattern [styleName]) Block.text more := by
      induction more generalizing front with
      | nil => trivial
      | cons piece more ih =>
        have hmore := ih (front ++ [piece]) (by rw [hps, List.append_assoc, List.singleton_append])
        cases piece with
        | inl c =>
          refine ⟨?_, hmore⟩
          rw [Option.eq_none_iff_forall_ne_some]
          intro found hfound
          obtain ⟨b, rest⟩ := found
          obtain ⟨htext, htagged⟩ := (Block.pattern_eq_some_iff Block.areNames_style).mp hfound
          exact h.between front c more hps b rest htagged htext
        | inr b =>
          refine ⟨(Block.pattern_eq_some_iff Block.areNames_style).mpr ⟨rfl, ?_⟩, hmore⟩
          exact h.block front b more hps
    exact hcut [] ps rfl
  · intro h
    obtain ⟨htext, hcut⟩ := h
    refine ⟨htext, ?_, ?_⟩
    · intro front b more hps
      exact tagged_of_cut hcut (hps ▸ List.mem_append_right _ List.mem_cons_self)
    · intro front c more hps b rest htagged heq
      rw [hps] at hcut
      have hnone := hcut.of_append.1
      rw [heq, (Block.pattern_eq_some_iff Block.areNames_style).mpr ⟨rfl, htagged⟩] at hnone
      cases hnone

/-! ## What is written for a piece -/

/-- A style block as it is written, with these attributes and this content. -/
def styleText (attributes content : List Char) : List Char :=
  "<style".toList ++ attributes ++ ['>'] ++ content ++ "</style>".toList

/-- What stands in place of a piece. A block whose first `lang` attribute has a recognized language
loses that attribute and gets the styles that its body is compiled to, or keeps the body. -/
inductive Written (styleCompiler : Style.Compiler) (languages : List String) :
    Char ⊕ Block → List Char → Prop
  | outside (c : Char) : Written styleCompiler languages (.inl c) [c]
  | other {b : Block} (h : ¬b.Recognized languages) :
      Written styleCompiler languages (.inr b) b.text
  | compiled {b : Block} {front back : List Char} {a : LangAttribute} {css : String}
      (first : FirstLang b.attributes front a back)
      (recognized : ∃ language ∈ languages,
        Text.eqIgnoreAsciiCase language (String.ofList a.value) = true)
      (h : styleCompiler (String.ofList b.body) = .ok css) :
      Written styleCompiler languages (.inr b) (styleText (front ++ back) css.toList)
  | failed {b : Block} {front back : List Char} {a : LangAttribute} {failure : Style.Failure}
      (first : FirstLang b.attributes front a back)
      (recognized : ∃ language ∈ languages,
        Text.eqIgnoreAsciiCase language (String.ofList a.value) = true)
      (h : styleCompiler (String.ofList b.body) = .error failure) :
      Written styleCompiler languages (.inr b) (styleText (front ++ back) b.body)

/-- The text that preprocessing gives for a piece. -/
def pieceText (styleCompiler : Style.Compiler) (languages : List String) :
    Char ⊕ Block → List Char
  | .inl c => [c]
  | .inr b => (b.rewritten styleCompiler languages).text

/-- A recognized block, whatever its body is compiled to. -/
lemma Block.Recognized.exists_pieceText (h : b.Recognized languages) :
    ∃ front a back, FirstLang b.attributes front a back ∧
      (∃ language ∈ languages, Text.eqIgnoreAsciiCase language (String.ofList a.value) = true) ∧
      ∀ styleCompiler, pieceText styleCompiler languages (.inr b) =
        styleText (front ++ back) (b.content styleCompiler) := by
  obtain ⟨value, attributes, htake, hany⟩ := Block.recognized_iff.mp h
  obtain ⟨front, a, back, hfirst, rfl, rfl⟩ := takeLang_eq_some_iff.mp htake
  refine ⟨front, a, back, hfirst, by simpa [List.any_eq_true] using hany, ?_⟩
  intro styleCompiler
  have hrewritten : b.rewritten styleCompiler languages =
      ⟨styleName, front ++ back, b.content styleCompiler, Block.closingText⟩ := by
    rw [Block.rewritten, htake]
    exact if_pos hany
  show (b.rewritten styleCompiler languages).text = _
  rw [hrewritten]
  rfl

lemma written_pieceText (styleCompiler : Style.Compiler) (languages : List String)
    (piece : Char ⊕ Block) :
    Written styleCompiler languages piece (pieceText styleCompiler languages piece) := by
  cases piece with
  | inl c => exact .outside c
  | inr b =>
    by_cases h : b.Recognized languages
    · obtain ⟨front, a, back, hfirst, hlanguage, htext⟩ := h.exists_pieceText
      rw [htext, Block.content]
      cases hcompile : styleCompiler (String.ofList b.body) with
      | ok css => exact .compiled hfirst hlanguage hcompile
      | error failure => exact .failed hfirst hlanguage hcompile
    · show Written styleCompiler languages (.inr b) (b.rewritten styleCompiler languages).text
      rw [Block.rewritten_of_not h]
      exact .other h

/-- Another answer for one body shows inside the recognized blocks with that body. -/
lemma pieceText_of_ne (hanswers : ∀ text, text ≠ String.ofList body → other text =
      styleCompiler text)
    (hne : pieceText other languages piece ≠ pieceText styleCompiler languages piece) :
    ∃ b attributes content content', piece = .inr b ∧ b.Recognized languages ∧ b.body = body ∧
      pieceText styleCompiler languages piece = styleText attributes content ∧
      pieceText other languages piece = styleText attributes content' := by
  cases piece with
  | inl c => exact absurd rfl hne
  | inr b =>
    have hrecognized : b.Recognized languages := by
      by_contra h
      apply hne
      show (b.rewritten other languages).text = (b.rewritten styleCompiler languages).text
      rw [Block.rewritten_of_not h, Block.rewritten_of_not h]
    obtain ⟨front, a, back, -, -, htext⟩ := hrecognized.exists_pieceText
    have hbody : b.body = body := by
      by_contra h
      have hsame := hanswers (String.ofList b.body) fun heq => h (String.ofList_injective heq)
      apply hne
      rw [htext, htext, Block.content, Block.content, hsame]
    exact ⟨b, front ++ back, _, _, rfl, hrecognized, hbody, htext _, htext _⟩

/-! ## Whole sources -/

/-- A source that names a language is written piece by piece: its characters outside of the leftmost
style blocks and its other blocks stay, and a recognized block gets its styles or keeps its body.
A compiler with another answer for one body changes the inside of the blocks with that body. -/
theorem preprocess_blockwise (hneeds : needsPreprocessing languages source = true) :
    ∃ ps, Leftmost source.toList ps ∧ (∀ qs, Leftmost source.toList qs → qs = ps) ∧
      ∀ styleCompiler : Style.Compiler,
        (preprocess styleCompiler languages source).toList =
          ps.flatMap (pieceText styleCompiler languages) ∧
        (∀ piece ∈ ps,
          Written styleCompiler languages piece (pieceText styleCompiler languages piece)) ∧
        ∀ (other : Style.Compiler) (body : List Char),
          (∀ text, text ≠ String.ofList body → other text = styleCompiler text) →
          (preprocess other languages source).toList = ps.flatMap (pieceText other languages) ∧
          ∀ piece ∈ ps,
            pieceText other languages piece ≠ pieceText styleCompiler languages piece →
            ∃ b attributes content content', piece = .inr b ∧ b.Recognized languages ∧
              b.body = body ∧
              pieceText styleCompiler languages piece = styleText attributes content ∧
              pieceText other languages piece = styleText attributes content' := by
  have htext (styleCompiler : Style.Compiler) :
      (preprocess styleCompiler languages source).toList =
        (stylePieces source).flatMap (pieceText styleCompiler languages) := by
    rw [preprocess, if_pos hneeds]
    show (preprocessAll styleCompiler languages source).toList = _
    rw [toList_preprocessAll]
    apply List.flatMap_congr
    intro piece _
    cases piece with
    | inl c => rfl
    | inr b => rfl
  refine ⟨stylePieces source, leftmost_iff.mpr rfl, ?_, ?_⟩
  · intro qs hqs
    exact (leftmost_iff.mp hqs).symm
  · intro styleCompiler
    refine ⟨htext styleCompiler, fun piece _ => written_pieceText _ _ _, ?_⟩
    intro other body hanswers
    exact ⟨htext other, fun piece _ hne => pieceText_of_ne hanswers hne⟩

namespace Mixed

/-- A component with a block that does not compile beside one that does. -/
def card : String :=
  "<p>a</p><style lang='scss'>$x</style><style global lang=\"scss\">b</style>"

/-- A compiler that takes the second block only. -/
def compiler : Style.Compiler := fun body =>
  if body = "b" then .ok "c" else .error .parse

end Mixed

/-- The block that does not compile keeps its body beside one that does. -/
theorem preprocess_blockwise_mixed :
    needsPreprocessing ["scss"] Mixed.card = true ∧
    preprocess Mixed.compiler ["scss"] Mixed.card =
      "<p>a</p><style>$x</style><style global>c</style>" ∧
    ∃ ps, Leftmost Mixed.card.toList ps ∧
      "<p>a</p><style>$x</style><style global>c</style>".toList =
        ps.flatMap (pieceText Mixed.compiler ["scss"]) := by
  have hneeds : needsPreprocessing ["scss"] Mixed.card = true := by decide +kernel
  have hwritten : preprocess Mixed.compiler ["scss"] Mixed.card =
      "<p>a</p><style>$x</style><style global>c</style>" := by decide +kernel
  obtain ⟨ps, hps, -, h⟩ := preprocess_blockwise hneeds
  exact ⟨hneeds, hwritten, ps, hps, hwritten ▸ (h Mixed.compiler).1⟩

end LiveBundle.Component
