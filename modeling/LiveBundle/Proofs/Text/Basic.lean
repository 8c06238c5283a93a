import LiveBundle.Text.Utf8
import LiveBundle.Text.Basic
import Mathlib.Data.List.Infix
import Mathlib.Tactic.SplitIfs
import Mathlib.Tactic.Lemma

/-!
# Bytes of texts

* `bytesTake_append` and `bytesDrop_append` cut a text at the place where two parts of it meet;
* `HoldsAt` says which character begins at a byte offset;
* `length_encode` counts the bytes of a text, `mem_charBytes_ten` says which of them are line feeds;
* `span_append` cuts a text behind the characters of a kind;
* `concat_cons` and `concat_append` take concatenations apart.
-/

namespace LiveBundle.Text

variable {a b s t : List Char} {c : Char} {n : Nat}

/-! ## Cutting texts -/

/-- Dropping the bytes in front of a text leaves the text. -/
lemma bytesDrop_append (before after : List Char) :
    bytesDrop (byteSize before) (before ++ after) = after := by
  induction before with
  | nil =>
    cases after with
    | nil => rfl
    | cons c cs =>
      have hsize : 0 < c.utf8Size := Char.utf8Size_pos c
      simp only [List.nil_append, byteSize, bytesDrop]
      rw [if_neg (by omega)]
  | cons c cs ih =>
    simp only [List.cons_append, byteSize, bytesDrop]
    rw [if_pos (Nat.le_add_right _ _), Nat.add_sub_cancel_left, ih]

/-- Taking the bytes in front of a text leaves what stands there. -/
lemma bytesTake_append (before after : List Char) :
    bytesTake (byteSize before) (before ++ after) = before := by
  have hsplit := bytesTake_append_bytesDrop (byteSize before) (before ++ after)
  rw [bytesDrop_append] at hsplit
  exact List.append_cancel_right hsplit

/-- All of a text is taken by its size. -/
lemma bytesTake_byteSize (s : List Char) : bytesTake (byteSize s) s = s := by
  have htake := bytesTake_append s []
  rwa [List.append_nil] at htake

/-! ## Characters at offsets -/

/-- A character of a text begins at this byte. -/
def HoldsAt (text : List Char) (offset : Nat) (c : Char) : Prop :=
  ∃ before after, text = before ++ c :: after ∧ byteSize before = offset

/-- A text in front moves the offsets by its size. -/
lemma HoldsAt.append_left (h : HoldsAt b n c) (a : List Char) :
    HoldsAt (a ++ b) (byteSize a + n) c := by
  obtain ⟨before, after, rfl, rfl⟩ := h
  exact ⟨a ++ before, after, (List.append_assoc ..).symm, byteSize_append a before⟩

/-- A text behind changes no offset. -/
lemma HoldsAt.append_right (h : HoldsAt a n c) (b : List Char) : HoldsAt (a ++ b) n c := by
  obtain ⟨before, after, rfl, rfl⟩ := h
  exact ⟨before, after ++ b, by simp, rfl⟩

/-- A character of a text in two parts is one of either part. -/
lemma holdsAt_append : HoldsAt (a ++ b) n c ↔
    HoldsAt a n c ∨ ∃ m, n = byteSize a + m ∧ HoldsAt b m c := by
  constructor
  · rintro ⟨before, after, h, rfl⟩
    rcases List.append_eq_append_iff.mp h with ⟨more, rfl, hb⟩ | ⟨more, rfl, hafter⟩
    · exact .inr ⟨_, byteSize_append a more, more, after, hb, rfl⟩
    · cases more with
      | nil => exact .inr ⟨0, by simp, [], after, by simpa using hafter.symm, rfl⟩
      | cons d more =>
        obtain ⟨rfl, -⟩ := List.cons.inj hafter
        exact .inl ⟨before, more, rfl, rfl⟩
  · rintro (h | ⟨m, rfl, h⟩)
    · exact h.append_right b
    · exact h.append_left a

/-- What stands at an offset is a character of the text. -/
lemma HoldsAt.mem (h : HoldsAt s n c) : c ∈ s := by
  obtain ⟨before, after, rfl, -⟩ := h
  simp

/-! ## Bytes -/

namespace Utf8

/-- Texts are encoded one after the other. -/
lemma encode_append (a b : List Char) : encode (a ++ b) = encode a ++ encode b :=
  List.flatMap_append

/-- The encoding of a character has as many bytes as the character has in a text. -/
lemma length_charBytes (c : Char) : (charBytes c).length = c.utf8Size := by
  have hsize : c.utf8Size = if c.toNat ≤ 0x7F then 1 else if c.toNat ≤ 0x7FF then 2
      else if c.toNat ≤ 0xFFFF then 3 else 4 := by
    simp only [Char.utf8Size, UInt32.le_iff_toNat_le]
    rfl
  simp only [charBytes, hsize]
  -- The limits are the same, so two branches that differ exclude each other.
  split_ifs <;> first | rfl | omega

/-- A text has as many bytes as are counted. -/
lemma length_encode (s : List Char) : (encode s).length = byteSize s := by
  induction s with
  | nil => rfl
  | cons c cs ih =>
    rw [encode, List.flatMap_cons, List.length_append, length_charBytes, byteSize, ← ih]
    rfl

/-- Only a line feed has the byte of a line feed. -/
lemma mem_charBytes_ten : 10 ∈ charBytes c ↔ c = '\n' := by
  constructor
  · intro h
    have hten : c.toNat = '\n'.toNat := by
      simp only [charBytes] at h
      split at h
      · exact (List.mem_singleton.mp h).symm
      · split at h
        · simp only [List.mem_cons, List.not_mem_nil, or_false] at h
          omega
        · split at h
          · simp only [List.mem_cons, List.not_mem_nil, or_false] at h
            omega
          · simp only [List.mem_cons, List.not_mem_nil, or_false] at h
            omega
    exact Char.toNat_inj.mp hten
  · rintro rfl
    decide

end Utf8

/-! ## Characters of a kind -/

/-- The characters of a kind in front, up to one of another kind. -/
lemma span_append {p : Char → Bool} (hs : ∀ c ∈ s, p c = true)
    (ht : ∀ c ∈ t.head?, p c = false) : (s ++ t).takeWhile p = s ∧ (s ++ t).dropWhile p = t := by
  rw [List.takeWhile_append_of_pos hs, List.dropWhile_append_of_pos hs]
  cases t with
  | nil => exact ⟨List.append_nil s, rfl⟩
  | cons c t =>
    have hc : ¬p c = true := by rw [ht c rfl]; exact Bool.false_ne_true
    rw [List.takeWhile_cons_of_neg hc, List.dropWhile_cons_of_neg hc]
    exact ⟨List.append_nil s, rfl⟩

/-- The first character that is not dropped is of the other kind. -/
lemma of_mem_head?_dropWhile {p : Char → Bool} :
    ∀ c ∈ (s.dropWhile p).head?, p c = false := by
  intro c hc
  have hnot := List.head?_dropWhile_not p s
  rw [hc] at hnot
  exact hnot

/-! ## Concatenations -/

/-- Appending the parts one by one puts them behind each other. -/
lemma foldl_append (init : String) (parts : List String) :
    parts.foldl (· ++ ·) init = init ++ concat parts := by
  induction parts generalizing init with
  | nil => exact (String.append_empty).symm
  | cons part parts ih =>
    have hcons : concat (part :: parts) = "" ++ part ++ concat parts := ih ("" ++ part)
    rw [List.foldl_cons, ih, hcons, String.empty_append, String.append_assoc]

/-- The first part stands in front. -/
lemma concat_cons (part : String) (parts : List String) :
    concat (part :: parts) = part ++ concat parts := by
  rw [concat, List.foldl_cons, String.empty_append, foldl_append]

/-- Two lists of parts make up two texts, one behind the other. -/
lemma concat_append (parts parts' : List String) :
    concat (parts ++ parts') = concat parts ++ concat parts' := by
  rw [concat, List.foldl_append, foldl_append]
  rfl

end LiveBundle.Text
