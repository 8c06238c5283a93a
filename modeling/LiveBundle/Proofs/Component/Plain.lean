import LiveBundle.Component.Compile
import LiveBundle.Component.Preprocess
import LiveBundle.Proofs.Component.Template
import Mathlib.Data.List.Induction

/-!
# Components without blocks and expressions

Markup that opens no script or style block is kept by preprocessing and is the whole of its
component; without braces it is literal text.

* `Untagged` says that no block is opened anywhere in a text.
* `compile_of_ok`, `compile_of_fault` and `compile_of_uncut` are the outcomes of compiling.
* `compile_plain` is the module of such a component, `compile_closing` the failure at a brace that
  closes nothing.
* `isAlphanum_fingerprint`: the digest in names consists of letters and digits.
-/

namespace LiveBundle.Component

variable {styleCompiler : Style.Compiler} {languages : List String} {source file : String}
  {sections : Sections}

/-! ## Blocks -/

/-- No script or style block is opened in the text. -/
def Untagged (s : List Char) : Prop :=
  ∀ t, t <:+ s → Block.openTag? [Block.scriptName, Block.styleName] t = none ∧
    Block.openTag? [Block.styleName] t = none

lemma untagged_nil : Untagged [] := by
  intro t ht
  rw [List.suffix_nil.mp ht]
  exact ⟨rfl, rfl⟩

/-- Only an angle bracket opens a block. -/
lemma untagged_cons {c : Char} {cs : List Char} (hc : c ≠ '<') (hcs : Untagged cs) :
    Untagged (c :: cs) := by
  intro t ht
  rcases List.suffix_cons_iff.mp ht with rfl | ht
  · have hopen : ∀ names, Block.openTag? names (c :: cs) = none := by
      intro names
      unfold Block.openTag?
      split
      · rename_i heq
        exact absurd (List.cons.inj heq).1 hc
      · rfl
    exact ⟨hopen _, hopen _⟩
  · exact hcs t ht

lemma untagged_append {a b : List Char} (ha : '<' ∉ a) (hb : Untagged b) : Untagged (a ++ b) := by
  induction a with
  | nil => exact hb
  | cons c cs ih =>
    rw [List.mem_cons, not_or] at ha
    exact untagged_cons (Ne.symm ha.1) (ih ha.2)

/-- A tag with another name opens no block. -/
lemma untagged_tag {c : Char} {cs : List Char} (hc : c = 'd' ∨ c = '/')
    (hcs : Untagged (c :: cs)) : Untagged ('<' :: c :: cs) := by
  intro t ht
  rcases List.suffix_cons_iff.mp ht with rfl | ht
  · rcases hc with rfl | rfl
    · simp [Block.openTag?, Block.scriptName, Block.styleName, Text.wordUpToCase?]
    · simp [Block.openTag?, Block.scriptName, Block.styleName, Text.wordUpToCase?]
  · exact hcs t ht

/-- There is nothing to preprocess. -/
lemma preprocess_eq (h : Untagged source.toList) :
    preprocess styleCompiler languages source = source := by
  have hpieces : Text.pieces (Block.pattern [Block.styleName]) source.toList =
      source.toList.map .inl := by
    refine Text.pieces_of_no_match _ _ fun t _ ht => ?_
    unfold Block.pattern
    rw [(h t ht).2]
  unfold preprocess
  split
  · rw [Text.replaceAll, hpieces, Text.writePieces, List.flatMap_map]
    simp
  · rfl

lemma ofPieces_inl (s : List Char) : Sections.ofPieces (s.map .inl) = .ok ⟨[], [], s⟩ := by
  induction s with
  | nil => rfl
  | cons c cs ih =>
    rw [List.map_cons, Sections.ofPieces, ih]

/-- Everything is markup. -/
lemma split_eq (h : Untagged source.toList) :
    Sections.split source file = .ok ⟨[], [], source.toList⟩ := by
  have hpieces : Text.pieces Region.pattern source.toList = source.toList.map .inl := by
    refine Text.pieces_of_no_match _ _ fun t _ ht => ?_
    unfold Region.pattern
    rw [(h t ht).1]
  unfold Sections.split
  rw [hpieces, ofPieces_inl]

/-! ## The compiler -/

/-- Literal markup inside a template literal. -/
def escaped (markup : List Char) : List Char := Text.trim (Template.escape markup)

lemma escapeChar_blank {c : Char} (h : Text.isBlank c = true) : Template.escapeChar c = [c] := by
  unfold Template.escapeChar
  rw [if_neg]
  rintro (rfl | rfl | rfl) <;> exact absurd h (by decide)

/-- What a character without white space becomes has none at its ends. -/
lemma escapeChar_ends {c : Char} (h : Text.isBlank c = false) :
    ∃ d ds, Template.escapeChar c = d :: ds ∧ Text.isBlank d = false ∧
      ∃ front, Template.escapeChar c = front ++ [c] := by
  unfold Template.escapeChar
  split
  · exact ⟨'\\', [c], rfl, rfl, ['\\'], rfl⟩
  · exact ⟨c, [], rfl, h, [], rfl⟩

lemma trimStart_flatMap (s : List Char) :
    Text.trimStart (s.flatMap Template.escapeChar) =
      (Text.trimStart s).flatMap Template.escapeChar := by
  unfold Text.trimStart
  induction s with
  | nil => rfl
  | cons c cs ih =>
    cases h : Text.isBlank c with
    | true =>
      rw [List.flatMap_cons, escapeChar_blank h, List.singleton_append,
        List.dropWhile_cons_of_pos h, List.dropWhile_cons_of_pos h, ih]
    | false =>
      obtain ⟨d, ds, hd, hblank, -⟩ := escapeChar_ends h
      rw [List.dropWhile_cons_of_neg (by simp [h]), List.flatMap_cons, hd, List.cons_append,
        List.dropWhile_cons_of_neg (by simp [hblank])]

lemma trimEnd_flatMap (s : List Char) :
    Text.trimEnd (s.flatMap Template.escapeChar) =
      (Text.trimEnd s).flatMap Template.escapeChar := by
  unfold Text.trimEnd
  -- The text is cut at its end, so the induction goes from there.
  induction s using List.reverseRecOn with
  | nil => rfl
  | append_singleton cs c ih =>
    cases h : Text.isBlank c with
    | true =>
      rw [List.flatMap_append, List.flatMap_singleton, escapeChar_blank h, List.reverse_append,
        List.reverse_append, List.reverse_singleton, List.singleton_append, List.singleton_append,
        List.dropWhile_cons_of_pos h, List.dropWhile_cons_of_pos h, ih]
    | false =>
      obtain ⟨-, -, -, -, front, hfront⟩ := escapeChar_ends h
      have hkeep : (cs ++ [c]).reverse.dropWhile Text.isBlank = (cs ++ [c]).reverse := by
        rw [List.reverse_append, List.reverse_singleton, List.singleton_append,
          List.dropWhile_cons_of_neg (by simp [h])]
      rw [hkeep, List.reverse_reverse, List.flatMap_append, List.flatMap_singleton, hfront,
        ← List.append_assoc, List.reverse_append, List.reverse_singleton, List.singleton_append,
        List.dropWhile_cons_of_neg (by simp [h])]
      simp

/-- Markup inside a template literal is trimmed and then escaped. -/
lemma escaped_eq (markup : List Char) :
    escaped markup = (Text.trim markup).flatMap Template.escapeChar := by
  rw [escaped, Template.escape, Text.trim, trimStart_flatMap, trimEnd_flatMap, Text.trim]

/-- A component that is cut and whose markup is read. -/
lemma compile_of_ok (hsplit : Sections.split source (Path.fileName file) = .ok sections)
    {parts : List Template.Part} (hparse : Template.parse sections.markup = .ok parts) :
    compile styleCompiler source file = .ok
      ⟨moduleText (Digest.Sha256.fingerprint source) (String.ofList (Template.render parts))
          (withoutPropExports sections.script) (propNames sections.script),
        scopeStyles styleCompiler (Digest.Sha256.fingerprint source) sections.styles⟩ := by
  unfold compile
  simp only [hsplit, bind, Except.bind, hparse]

/-- A component whose markup has a fault. -/
lemma compile_of_fault (hsplit : Sections.split source (Path.fileName file) = .ok sections)
    {fault : Template.Fault} {offset : Nat}
    (hparse : Template.parse sections.markup = .error (fault, offset)) :
    compile styleCompiler source file =
      .error (Diagnostic.at fault.message (Path.fileName file) source offset) := by
  unfold compile
  simp only [hsplit, bind, Except.bind, hparse]

/-- A component that is not cut. -/
lemma compile_of_uncut {d : Diagnostic}
    (hsplit : Sections.split source (Path.fileName file) = .error d) :
    compile styleCompiler source file = .error d := by
  unfold compile
  simp only [hsplit, bind, Except.bind]

/-- A component that compiles is cut into sections, and its markup is read. -/
lemma exists_of_compile {compiled : Compiled} (h : compile styleCompiler source file = .ok compiled) :
    ∃ sections parts, Sections.split source (Path.fileName file) = .ok sections ∧
      Template.parse sections.markup = .ok parts := by
  cases hsplit : Sections.split source (Path.fileName file) with
  | error d =>
    rw [compile_of_uncut hsplit] at h
    cases h
  | ok sections =>
    cases hparse : Template.parse sections.markup with
    | error f =>
      rw [compile_of_fault hsplit hparse] at h
      cases h
    | ok parts => exact ⟨sections, parts, rfl, hparse⟩

/-- A component that compiles does so under any name. -/
lemma compile_of_compile {compiled : Compiled} (h : compile styleCompiler source file = .ok compiled)
    (file' : String) : compile styleCompiler source file' = .ok compiled := by
  obtain ⟨sections, parts, hsplit, hparse⟩ := exists_of_compile h
  have hsplit' : Sections.split source (Path.fileName file') = .ok sections := by
    unfold Sections.split at hsplit ⊢
    cases hpieces : Sections.ofPieces (Text.pieces Region.pattern source.toList) with
    | ok s => rwa [hpieces] at hsplit
    | error culprit =>
      rw [hpieces] at hsplit
      cases hsplit
  rw [compile_of_ok hsplit' hparse, ← compile_of_ok hsplit hparse, h]

/-- The module of a component that is literal markup. -/
lemma compile_plain (h : Untagged source.toList) (hbraces : Template.Literal source.toList) :
    compile styleCompiler source file = .ok
      ⟨moduleText (Digest.Sha256.fingerprint source) (String.ofList (escaped source.toList)) [] [],
        none⟩ := by
  have hparse : Template.parse source.toList = .ok (source.toList.map .literal) := by
    have hfront := Template.partsFrom_front hbraces 0 []
    rwa [List.append_nil, Template.partsFrom, Template.foldr_consPart_ok, List.append_nil]
      at hfront
  have hrender : Template.render (source.toList.map .literal) = escaped source.toList := by
    rw [Template.render, Template.flatMap_literal, escaped]
  rw [compile_of_ok (split_eq h) hparse, hrender]
  rfl

/-- A closing brace that closes nothing is an error of the component. -/
lemma compile_closing {a b : List Char} (h : Untagged source.toList)
    (hsource : source.toList = a ++ '\x7d' :: b) (ha : Template.Literal a) :
    ∃ d, compile styleCompiler source file = .error d := by
  have hparse : Template.parse source.toList =
      .error (.unexpectedClose, 0 + Text.byteSize a) := by
    rw [hsource, Template.parse, Template.partsFrom_front ha]
    exact Template.foldr_consPart_error _ _
  exact ⟨_, compile_of_fault (split_eq h) hparse⟩

/-! ## Digests -/

lemma isAlphanum_toDigits (n : Nat) : ∀ c ∈ Nat.toDigits 16 n, c.isAlphanum = true := by
  induction n using Nat.strongRecOn with
  | ind n ih =>
    have hdigit : ∀ k < 16, (Nat.digitChar k).isAlphanum = true := by decide
    rw [Nat.toDigits_eq_if (by decide)]
    split
    · rename_i h
      simpa using hdigit n h
    · rename_i h
      intro c hc
      rw [List.mem_append, List.mem_singleton] at hc
      rcases hc with hc | rfl
      · exact ih (n / 16) (Nat.div_lt_self (by omega) (by decide)) c hc
      · exact hdigit _ (Nat.mod_lt _ (by decide))

/-- The digest of a text is written in letters and digits. -/
lemma isAlphanum_fingerprint (text : String) :
    ∀ c ∈ (Digest.Sha256.fingerprint text).toList, c.isAlphanum = true := by
  intro c hc
  unfold Digest.Sha256.fingerprint at hc
  rw [String.toList_append, String.toList_ofList, List.mem_append] at hc
  rcases hc with hc | hc
  · rw [List.eq_of_mem_replicate hc]
    rfl
  · rw [Text.hex, String.toList_ofList] at hc
    exact isAlphanum_toDigits _ c hc

end LiveBundle.Component
