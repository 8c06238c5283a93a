import LiveBundle.Web.Percent
import Mathlib.Data.List.Basic
import Mathlib.Tactic.IntervalCases
import Mathlib.Tactic.Lemma

/-!
# Percent encoding and back

An encoded text is made up of the characters that may stay and of escaped bytes, and decoding it
gives the bytes of the text that was encoded. Only `%` itself must not stay: it would be taken for
the start of an escape.

* `Encoded` are the texts that are made up in this way, `encoded_encode`: the encoder writes them;
* `decode_encode` gives the bytes back, `decode?_decode_encode` the text.
-/

namespace LiveBundle.Web.Percent

open Text (Utf8.charBytes Utf8.encode Utf8.decode? isHexDigit hexValue)

variable {keep : Char → Bool} {plain : Char → Prop} {c : Char}

/-! ## What encoded texts are made of -/

/-- The hexadecimal digits of escapes. -/
def isEscapeDigit (c : Char) : Bool := c.isDigit || ('A' ≤ c && c ≤ 'F')

/-- A text of plain characters and escaped bytes. -/
inductive Encoded (plain : Char → Prop) : List Char → Prop
  | nil : Encoded plain []
  | char {c : Char} {s : List Char} (hc : plain c) (more : Encoded plain s) : Encoded plain (c :: s)
  | byte {high low : Char} {s : List Char} (hhigh : isEscapeDigit high = true)
      (hlow : isEscapeDigit low = true) (more : Encoded plain s) :
      Encoded plain ('%' :: high :: low :: s)

/-- Two encoded texts make one. -/
lemma Encoded.append {s t : List Char} (hs : Encoded plain s) (ht : Encoded plain t) :
    Encoded plain (s ++ t) := by
  induction hs with
  | nil => exact ht
  | char hc _ ih => exact .char hc ih
  | byte hhigh hlow _ ih => exact .byte hhigh hlow ih

/-- Which characters there are in an encoded text. -/
lemma Encoded.mem {s : List Char} (h : Encoded plain s) (hc : c ∈ s) :
    plain c ∨ c = '%' ∨ isEscapeDigit c = true := by
  induction h with
  | nil => cases hc
  | char hplain _ ih =>
    rcases List.mem_cons.mp hc with rfl | hc
    · exact .inl hplain
    · exact ih hc
  | byte hhigh hlow _ ih =>
    simp only [List.mem_cons] at hc
    rcases hc with rfl | rfl | rfl | hc
    · exact .inr (.inl rfl)
    · exact .inr (.inr hhigh)
    · exact .inr (.inr hlow)
    · exact ih hc

/-! ## Digits and bytes -/

/-- A digit of an escape is written in upper case. -/
lemma isEscapeDigit_hexDigit {n : Nat} (hn : n < 16) : isEscapeDigit (hexDigit n) = true := by
  interval_cases n <;> rfl

/-- What a small number is written as is a hexadecimal digit. -/
lemma isHexDigit_hexDigit {n : Nat} (hn : n < 16) : isHexDigit (hexDigit n) = true := by
  interval_cases n <;> rfl

/-- The digit of a small number has its value. -/
lemma hexValue_hexDigit {n : Nat} (hn : n < 16) : hexValue (hexDigit n) = n := by
  interval_cases n <;> rfl

/-- The bytes of a character are bytes. -/
lemma lt_of_mem_charBytes {b : Nat} (hb : b ∈ Utf8.charBytes c) : b < 256 := by
  have hc : c.toNat < 0x110000 := by
    rcases c.valid with h | ⟨-, h⟩
    · exact Nat.lt_trans h (by decide)
    · exact h
  unfold Utf8.charBytes at hb
  dsimp only at hb
  split at hb
  · simp only [List.mem_singleton] at hb
    omega
  · split at hb
    · simp only [List.mem_cons, List.not_mem_nil, or_false] at hb
      omega
    · split at hb
      · simp only [List.mem_cons, List.not_mem_nil, or_false] at hb
        omega
      · simp only [List.mem_cons, List.not_mem_nil, or_false] at hb
        omega

/-! ## The encoder -/

/-- An encoded byte is an escape. -/
lemma encoded_encodeByte {b : Nat} (hb : b < 256) : Encoded plain (encodeByte b) :=
  .byte (isEscapeDigit_hexDigit (by omega)) (isEscapeDigit_hexDigit (Nat.mod_lt b (by decide))) .nil

/-- Encoded bytes are escapes, one after the other. -/
lemma encoded_bytes {bytes : List Nat} (h : ∀ b ∈ bytes, b < 256) :
    Encoded plain (bytes.flatMap encodeByte) := by
  induction bytes with
  | nil => exact .nil
  | cons b bytes ih =>
    obtain ⟨hb, h⟩ := List.forall_mem_cons.mp h
    exact (encoded_encodeByte hb).append (ih h)

/-- No character is lost. -/
lemma encode_ne_nil {s : List Char} (h : s ≠ []) : encode keep s ≠ [] := by
  obtain ⟨c, cs, rfl⟩ := List.exists_cons_of_ne_nil h
  have hbytes : Utf8.charBytes c ≠ [] := by
    simp only [Utf8.charBytes]
    split_ifs <;> exact List.cons_ne_nil _ _
  obtain ⟨b, bytes, hb⟩ := List.exists_cons_of_ne_nil hbytes
  rw [encode, List.flatMap_cons, encodeChar]
  split
  · exact List.cons_ne_nil _ _
  · rw [hb]
    exact List.cons_ne_nil _ _

/-- What may stay is plain, everything else is escaped. -/
lemma encoded_encode (hkeep : ∀ c, c.toNat < 0x80 → keep c = true → plain c) (s : List Char) :
    Encoded plain (encode keep s) := by
  induction s with
  | nil => exact .nil
  | cons c cs ih =>
    refine Encoded.append ?_ ih
    rw [encodeChar]
    split
    · rename_i hstays
      obtain ⟨hascii, hkept⟩ := Bool.and_eq_true_iff.mp hstays
      exact .char (hkeep c (of_decide_eq_true hascii) hkept) .nil
    · exact encoded_bytes fun b => lt_of_mem_charBytes

/-! ## The decoder -/

/-- A character that starts no escape stands for its own bytes. -/
lemma decode_of_ne (hc : c ≠ '%') (rest : List Char) :
    decode (c :: rest) = Utf8.charBytes c ++ decode rest := by
  rw [decode]
  rintro a b more rfl
  exact absurd rfl hc

/-- An encoded byte is read back. -/
lemma decode_encodeByte {b : Nat} (hb : b < 256) (rest : List Char) :
    decode (encodeByte b ++ rest) = b :: decode rest := by
  have hhigh : b / 16 < 16 := by omega
  have hlow : b % 16 < 16 := Nat.mod_lt b (by decide)
  simp only [encodeByte, List.cons_append, List.nil_append]
  rw [decode, if_pos (by rw [isHexDigit_hexDigit hhigh, isHexDigit_hexDigit hlow]; rfl),
    hexValue_hexDigit hhigh, hexValue_hexDigit hlow, Nat.div_add_mod']

/-- Encoded bytes are read back, one after the other. -/
lemma decode_bytes {bytes : List Nat} (h : ∀ b ∈ bytes, b < 256) (rest : List Char) :
    decode (bytes.flatMap encodeByte ++ rest) = bytes ++ decode rest := by
  induction bytes with
  | nil => rfl
  | cons b bytes ih =>
    obtain ⟨hb, h⟩ := List.forall_mem_cons.mp h
    rw [List.flatMap_cons, List.append_assoc, decode_encodeByte hb, ih h, List.cons_append]

/-- A character is decoded to its bytes, whether it stays or not. -/
lemma decode_encodeChar (hpercent : keep '%' = false) (c : Char) (rest : List Char) :
    decode (encodeChar keep c ++ rest) = Utf8.charBytes c ++ decode rest := by
  rw [encodeChar]
  split
  · rename_i hstays
    refine decode_of_ne ?_ rest
    rintro rfl
    rw [hpercent, Bool.and_false] at hstays
    cases hstays
  · exact decode_bytes (fun b => lt_of_mem_charBytes) rest

/-- Decoding gives the bytes of the text that was encoded. -/
theorem decode_encode (hpercent : keep '%' = false) (s : List Char) :
    decode (encode keep s) = Utf8.encode s := by
  induction s with
  | nil => rfl
  | cons c cs ih =>
    have hencode : encode keep (c :: cs) = encodeChar keep c ++ encode keep cs := rfl
    rw [hencode, decode_encodeChar hpercent, ih]
    rfl

/-- The bytes that decoding gives are those of the text that was encoded. -/
theorem decode?_decode_encode (hpercent : keep '%' = false) (s : List Char) :
    Utf8.decode? (decode (encode keep s)) = some s := by
  rw [decode_encode hpercent, Text.Utf8.decode?_encode]

end LiveBundle.Web.Percent
