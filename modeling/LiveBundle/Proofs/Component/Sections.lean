import LiveBundle.Component.Sections
import LiveBundle.Proofs.Path
import LiveBundle.Proofs.Text.Basic
import LiveBundle.Proofs.Text.Pieces

/-!
# The markup of a component in its source

Cutting a component into sections keeps every byte of its markup where it was in the source, and
blanks the bytes of its blocks.

* `Region.reads`: the regions of a source are parts of its text;
* `Sections.markup_eq`: the markup is written from the pieces of the source;
* `Sections.getElem?_markup`, `Sections.newlines_markup`: the bytes of the markup;
* `Sections.holdsAt_source`: what stands in the markup stands in the source.
-/

namespace LiveBundle

namespace Component

open Text (HoldsAt byteSize writePieces)
open Text.Utf8 (encode charBytes)

variable {s rest name attributes body closing : List Char} {c : Char} {n : Nat}

/-! ## Tags and blocks -/

namespace Block

/-- Attributes end at their closing bracket. -/
lemma attributes?_text (h : attributes? s = some (attributes, rest)) :
    s = attributes ++ '>' :: rest := by
  cases s with
  | nil => cases h
  | cons c cs =>
    simp only [attributes?] at h
    split at h
    · rename_i hc
      cases h
      rw [hc, List.nil_append]
    · split at h
      · obtain ⟨⟨inner, behind⟩, hsplit, heq⟩ := Option.map_eq_some_iff.mp h
        cases heq
        rw [(Text.splitAt?_eq_some_iff.mp hsplit).1, List.cons_append]
      · cases h

/-- An opening tag stands in front of the rest. -/
lemma openTag?_text {names : List (List Char)}
    (h : openTag? names s = some (name, attributes, rest)) :
    s = openText name attributes ++ rest := by
  unfold openTag? at h
  split at h
  · split at h
    · rename_i cs _ written behind hname
      obtain ⟨⟨inner, behind⟩, hattributes, heq⟩ := Option.map_eq_some_iff.mp h
      cases heq
      obtain ⟨word, -, hword⟩ := List.exists_of_findSome?_eq_some hname
      rw [Text.wordUpToCase?_text hword, attributes?_text hattributes, openText]
      simp
    · cases h
  · cases h

/-- A closing tag stands in front of the rest. -/
lemma closeTag?_text (h : closeTag? name s = some (closing, rest)) : s = closing ++ rest := by
  unfold closeTag? at h
  split at h
  · split at h
    · rename_i cs _ written behind hname
      split at h
      · rename_i _ tail hend
        cases h
        have hbehind := List.takeWhile_append_dropWhile (p := Text.isBlank) (l := behind)
        rw [hend] at hbehind
        rw [Text.wordUpToCase?_text hname]
        simpa using hbehind.symm
      · cases h
    · cases h
  · cases h

/-- A body ends where its closing tag starts. -/
lemma untilClose_text (h : untilClose name s = some (body, closing, rest)) :
    s = body ++ closing ++ rest := by
  induction s generalizing body with
  | nil => cases h
  | cons c cs ih =>
    unfold untilClose at h
    split at h
    · rename_i tag behind hclose
      cases h
      exact closeTag?_text hclose
    · obtain ⟨⟨body', closing', rest'⟩, hread, heq⟩ := Option.map_eq_some_iff.mp h
      cases heq
      rw [ih hread, List.cons_append, List.cons_append]

end Block

namespace Region

/-- A region as it was written. -/
def text : Region → List Char
  | .closed block => block.text
  | .unclosed _ text => text

/-- A closed block stands in front of the rest. -/
lemma pattern_closed {lineStart : Bool} {block : Block}
    (h : pattern lineStart s = some (.closed block, rest)) : s = block.text ++ rest := by
  unfold pattern at h
  split at h
  · cases h
  · rename_i name attributes behind hopen
    split at h
    · rename_i body closing tail hclose
      cases h
      rw [Block.openTag?_text hopen, Block.untilClose_text hclose, Block.text]
      simp
    · cases h

/-- An opening tag whose block is not closed. -/
lemma pattern_unclosed {lineStart isScript : Bool} {text : List Char}
    (h : pattern lineStart s = some (.unclosed isScript text, rest)) :
    text = s ∧ rest = [] ∧ ∃ name attributes behind,
      Block.openTag? [Block.scriptName, Block.styleName] s = some (name, attributes, behind) ∧
        Block.untilClose (Block.closingName name) behind = none ∧
        isScript = Block.namesScript name := by
  unfold pattern at h
  split at h
  · cases h
  · rename_i name attributes behind hopen
    split at h
    · cases h
    · rename_i hclose
      cases h
      exact ⟨rfl, rfl, name, attributes, behind, hopen, hclose, rfl⟩

/-- Regions are parts of the text in which they are found. -/
lemma reads : pattern.Reads text := by
  intro lineStart s r rest h
  cases r with
  | closed block => exact ⟨pattern_closed h, by simp [text, Block.text, Block.openText]⟩
  | unclosed isScript tail =>
    obtain ⟨rfl, rfl, name, attributes, behind, hopen, -, -⟩ := pattern_unclosed h
    refine ⟨(List.append_nil _).symm, ?_⟩
    rw [text, Block.openTag?_text hopen, Block.openText]
    simp

end Region

/-! ## Blanking -/

/-- A line feed is kept, any other character becomes as many spaces as it has bytes. -/
lemma blank_cons (c : Char) (cs : List Char) :
    blank (c :: cs) = (if c = '\n' then ['\n'] else List.replicate c.utf8Size ' ') ++ blank cs :=
  rfl

/-- A blanked text is made of spaces and line feeds. -/
lemma mem_blank (h : c ∈ blank s) : c = ' ' ∨ c = '\n' := by
  obtain ⟨d, -, hd⟩ := List.mem_flatMap.mp h
  split at hd
  · exact .inr (List.mem_singleton.mp hd)
  · exact .inl (List.eq_of_mem_replicate hd)

/-- The byte in place of a byte that is blanked. -/
def blankByte (byte : Nat) : Nat := if byte = 10 then 10 else 32

/-- Blanking goes byte by byte. -/
lemma encode_blank (s : List Char) : encode (blank s) = (encode s).map blankByte := by
  induction s with
  | nil => rfl
  | cons c cs ih =>
    have hcons : encode (c :: cs) = charBytes c ++ encode cs := rfl
    rw [blank_cons, Text.Utf8.encode_append, ih, hcons, List.map_append]
    congr 1
    split
    · rename_i hc
      rw [hc]
      rfl
    · rename_i hc
      have hspaces (k : Nat) : encode (List.replicate k ' ') = List.replicate k 32 := by
        rw [encode, List.flatMap_replicate]
        exact List.flatten_replicate_singleton
      rw [hspaces, ← Text.Utf8.length_charBytes, ← List.map_const']
      refine (List.map_congr_left fun byte hbyte => ?_).symm
      rw [blankByte, if_neg]
      rintro rfl
      exact hc (Text.Utf8.mem_charBytes_ten.mp hbyte)

/-! ## Sections -/

namespace Sections

variable {ps front more : List (Char ⊕ Region)} {sections : Sections}

/-- Pieces with their regions blanked. -/
def blanked (ps : List (Char ⊕ Region)) : List Char := writePieces (fun r => blank r.text) ps

/-- All regions among the pieces are closed blocks. -/
def AllClosed (ps : List (Char ⊕ Region)) : Prop := ∀ r, .inr r ∈ ps → ∃ block, r = .closed block

/-- Without regions there is none that is open. -/
lemma AllClosed.nil : AllClosed [] := fun _ h => absurd h List.not_mem_nil

/-- A character in front opens nothing. -/
lemma AllClosed.inl (h : AllClosed ps) (c : Char) : AllClosed (.inl c :: ps) :=
  fun r hr => h r (List.mem_of_ne_of_mem Sum.inr_ne_inl hr)

/-- A closed block may stand in front. -/
lemma AllClosed.block (h : AllClosed ps) (block : Block) :
    AllClosed (.inr (.closed block) :: ps) := by
  intro r hr
  rcases List.mem_cons.mp hr with heq | hr
  · exact ⟨block, Sum.inr.inj heq⟩
  · exact h r hr

/-- What is left has no open region either. -/
lemma AllClosed.tail {p : Char ⊕ Region} (h : AllClosed (p :: ps)) : AllClosed ps :=
  fun r hr => h r (List.mem_cons_of_mem p hr)

/-- Pieces of a component are cut into sections if all blocks are closed, and the markup is made of
the characters outside of them. -/
lemma markup_eq (h : ofPieces ps = .ok sections) :
    sections.markup = blanked ps ∧ AllClosed ps := by
  induction ps generalizing sections with
  | nil =>
    cases h
    exact ⟨rfl, .nil⟩
  | cons p ps ih =>
    cases p with
    | inl c =>
      rw [ofPieces] at h
      split at h
      · rename_i more hmore
        cases h
        obtain ⟨hmarkup, hclosed⟩ := ih hmore
        refine ⟨?_, hclosed.inl c⟩
        rw [hmarkup]
        rfl
      · cases h
    | inr r =>
      cases r with
      | unclosed isScript text => cases h
      | closed block =>
        rw [ofPieces] at h
        split at h
        · rename_i more hmore
          obtain ⟨hmarkup, hclosed⟩ := ih hmore
          have hblank : sections.markup = blank block.text ++ more.markup := by
            simp only at h
            split at h <;> cases h <;> rfl
          refine ⟨?_, hclosed.block block⟩
          rw [hblank, hmarkup]
          rfl
        · cases h

/-- The failure is at the first block that is not closed. -/
lemma ofPieces_error {isScript : Bool} (h : ofPieces ps = .error (n, isScript)) :
    ∃ front text more, ps = front ++ .inr (.unclosed isScript text) :: more ∧
      AllClosed front ∧ byteSize (writePieces Region.text front) = n := by
  induction ps generalizing n with
  | nil => cases h
  | cons p ps ih =>
    cases p with
    | inl c =>
      rw [ofPieces] at h
      split at h
      · cases h
      · rename_i offset isScript' hmore
        cases h
        obtain ⟨front, text, more, rfl, hclosed, hsize⟩ := ih hmore
        refine ⟨.inl c :: front, text, more, rfl, hclosed.inl c, ?_⟩
        rw [← hsize]
        rfl
    | inr r =>
      cases r with
      | unclosed isScript' text =>
        cases h
        exact ⟨[], text, ps, rfl, .nil, rfl⟩
      | closed block =>
        rw [ofPieces] at h
        split at h
        · simp only at h
          split at h <;> cases h
        · rename_i offset isScript' hmore
          cases h
          obtain ⟨front, text, more, rfl, hclosed, hsize⟩ := ih hmore
          refine ⟨.inr (.closed block) :: front, text, more, rfl, hclosed.block block, ?_⟩
          rw [← hsize, ← Text.byteSize_append]
          rfl

/-! ## Bytes of the markup -/

/-- The text of one piece. -/
def pieceText (p : Char ⊕ Region) : List Char := writePieces Region.text [p]

/-- One piece, blanked if it is a region. -/
def pieceBlanked (p : Char ⊕ Region) : List Char := blanked [p]

/-- The first piece is written in front. -/
lemma writePieces_cons (p : Char ⊕ Region) (ps : List (Char ⊕ Region)) :
    writePieces Region.text (p :: ps) = pieceText p ++ writePieces Region.text ps :=
  Text.writePieces_append Region.text [p] ps

/-- The first piece is blanked in front. -/
lemma blanked_cons (p : Char ⊕ Region) (ps : List (Char ⊕ Region)) :
    blanked (p :: ps) = pieceBlanked p ++ blanked ps :=
  Text.writePieces_append (fun r : Region => blank r.text) [p] ps

lemma pieceText_inr (r : Region) : pieceText (.inr r) = r.text := List.append_nil _

lemma pieceBlanked_inr (r : Region) : pieceBlanked (.inr r) = blank r.text := List.append_nil _

lemma pieceBlanked_inl (c : Char) : pieceBlanked (.inl c) = pieceText (.inl c) := rfl

/-- A byte of the source lies in a block. -/
def Covered (ps : List (Char ⊕ Region)) (n : Nat) : Prop :=
  ∃ front block more, ps = front ++ .inr (.closed block) :: more ∧
    byteSize (writePieces Region.text front) ≤ n ∧
      n < byteSize (writePieces Region.text front) + byteSize block.text

/-- A byte behind the first piece. -/
lemma Covered.cons (h : Covered ps n) (p : Char ⊕ Region) :
    Covered (p :: ps) (byteSize (pieceText p) + n) := by
  obtain ⟨front, block, more, rfl, hstart, hstop⟩ := h
  refine ⟨p :: front, block, more, rfl, ?_⟩
  rw [writePieces_cons, Text.byteSize_append]
  omega

/-- Blanking keeps the size of a piece. -/
lemma byteSize_pieceBlanked (p : Char ⊕ Region) :
    byteSize (pieceBlanked p) = byteSize (pieceText p) := by
  cases p with
  | inl c => rw [pieceBlanked_inl]
  | inr r => rw [pieceBlanked_inr, pieceText_inr, byteSize_blank]

/-- Outside of its blocks, the bytes of the markup are those of the source. -/
lemma getElem?_blanked (hclosed : AllClosed ps) (h : ¬Covered ps n) :
    (encode (blanked ps))[n]? = (encode (writePieces Region.text ps))[n]? := by
  induction ps generalizing n with
  | nil => rfl
  | cons p ps ih =>
    have hlength : (encode (pieceBlanked p)).length = (encode (pieceText p)).length := by
      rw [Text.Utf8.length_encode, Text.Utf8.length_encode, byteSize_pieceBlanked]
    rw [blanked_cons, writePieces_cons, Text.Utf8.encode_append, Text.Utf8.encode_append]
    by_cases hn : n < (encode (pieceText p)).length
    · rw [List.getElem?_append_left (hlength ▸ hn), List.getElem?_append_left hn]
      cases p with
      | inl c => rw [pieceBlanked_inl]
      | inr r =>
        -- This byte is in the block.
        obtain ⟨block, rfl⟩ := hclosed r List.mem_cons_self
        rw [Text.Utf8.length_encode, pieceText_inr] at hn
        exact absurd ⟨[], block, ps, rfl, Nat.zero_le n, (Nat.zero_add _).symm ▸ hn⟩ h
    · rw [List.getElem?_append_right (by omega), List.getElem?_append_right (by omega), hlength]
      refine ih hclosed.tail fun hcovered => h ?_
      have hsum := hcovered.cons p
      rwa [Text.Utf8.length_encode, Nat.add_sub_cancel' (by
        rw [← Text.Utf8.length_encode]
        omega)] at hsum

/-- The markup has its line feeds where the source has them. -/
lemma map_newline_blanked (ps : List (Char ⊕ Region)) :
    (encode (blanked ps)).map (· == 10) =
      (encode (writePieces Region.text ps)).map (· == 10) := by
  induction ps with
  | nil => rfl
  | cons p ps ih =>
    rw [blanked_cons, writePieces_cons, Text.Utf8.encode_append, Text.Utf8.encode_append,
      List.map_append, List.map_append, ih]
    congr 1
    cases p with
    | inl c => rw [pieceBlanked_inl]
    | inr r =>
      rw [pieceBlanked_inr, pieceText_inr, encode_blank, List.map_map]
      refine List.map_congr_left fun byte _ => ?_
      by_cases hbyte : byte = 10
      · simp [blankByte, hbyte]
      · simp [blankByte, hbyte]

/-- What is no white space in the markup stands at the same place in the source. -/
lemma holdsAt_of_blanked (h : HoldsAt (blanked ps) n c) (hspace : c ≠ ' ') (hline : c ≠ '\n') :
    HoldsAt (writePieces Region.text ps) n c := by
  induction ps generalizing n with
  | nil => exact h
  | cons p ps ih =>
    rw [blanked_cons, Text.holdsAt_append] at h
    rw [writePieces_cons, Text.holdsAt_append]
    rcases h with h | ⟨m, rfl, h⟩
    · cases p with
      | inl d => exact .inl h
      | inr r =>
        rw [pieceBlanked_inr] at h
        rcases mem_blank h.mem with rfl | rfl
        · exact absurd rfl hspace
        · exact absurd rfl hline
    · exact .inr ⟨m, by rw [byteSize_pieceBlanked], ih h⟩

end Sections

end Component

end LiveBundle
