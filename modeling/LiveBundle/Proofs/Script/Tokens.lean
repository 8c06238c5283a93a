import LiveBundle.Script.Lexer
import LiveBundle.Specifier
import LiveBundle.Text.Basic
import Mathlib

/-!
# Tokens with unknown characters

Words and strings are read to their end whatever their characters are, as long as none of these ends
them early; and so are comments.

* `token_word`, `token_identifier` and `token_string` give the token at the front of a text.
* `blanks_lineComment` and `blanks_comment` pass over comments.
-/

namespace LiveBundle.Script.Lexer

/-! ## Words -/

lemma isAlphanum_iff {c : Char} : c.isAlphanum = true ↔
    ((65 ≤ c.toNat ∧ c.toNat ≤ 90) ∨ (97 ≤ c.toNat ∧ c.toNat ≤ 122)) ∨
      (48 ≤ c.toNat ∧ c.toNat ≤ 57) := by
  simp only [Char.isAlphanum, Char.isAlpha, Char.isUpper, Char.isLower, Char.isDigit,
    Bool.or_eq_true, Bool.and_eq_true, decide_eq_true_eq, ge_iff_le, UInt32.le_iff_toNat_le]
  rfl

lemma isDigit_of_isAlpha {c : Char} (h : c.isAlpha = true) : c.isDigit = false := by
  rw [← Bool.not_eq_true]
  simp only [Char.isAlpha, Char.isUpper, Char.isLower, Char.isDigit, Bool.or_eq_true,
    Bool.and_eq_true, decide_eq_true_eq, ge_iff_le, UInt32.le_iff_toNat_le] at h ⊢
  change (65 ≤ c.toNat ∧ c.toNat ≤ 90) ∨ (97 ≤ c.toNat ∧ c.toNat ≤ 122) at h
  change ¬ (48 ≤ c.toNat ∧ c.toNat ≤ 57)
  omega

lemma toNat_lt_of_isAlphanum {c : Char} (h : c.isAlphanum = true) : c.toNat < 0x80 := by
  rw [isAlphanum_iff] at h
  omega

/-- ASCII letters and digits are part of names. -/
lemma isNamePart_of_isAlphanum {c : Char} (h : c.isAlphanum = true) : isNamePart c = true := by
  have hid : Text.isIdContinue c = true := by
    unfold Text.isIdContinue
    rw [if_pos (toNat_lt_of_isAlphanum h), Bool.or_eq_true]
    exact Or.inl h
  unfold isNamePart
  rw [hid]
  simp

/-- Characters of a name up to one that is none. -/
lemma wordChars_append {cs : List Char} (hcs : ∀ c ∈ cs, isNamePart c = true) {d : Char}
    (hd : isNamePart d = false) (hslash : d ≠ '\\') (n : Nat) (rest : List Char) :
    wordChars false false 0 n (cs ++ d :: rest) = some (cs, n + cs.length, false) := by
  induction cs generalizing n with
  | nil =>
    unfold wordChars
    simp [hd, hslash]
  | cons c cs ih =>
    obtain ⟨hc, hcs⟩ := List.forall_mem_cons.mp hcs
    unfold wordChars
    simp only [List.cons_append, Bool.false_eq_true, if_false, hc, if_true, ih hcs, Option.map_some,
      List.length_cons]
    rw [Nat.add_assoc, Nat.add_comm 1]

/-- No name starts with a digit. -/
lemma isDigit_of_isNameStart {c : Char} (h : isNameStart c = true) : c.isDigit = false := by
  by_contra hdigit
  rw [Bool.not_eq_false] at hdigit
  have halphanum : c.isAlphanum = true := by rw [Char.isAlphanum, hdigit, Bool.or_true]
  have halpha : c.isAlpha = false := by
    rw [← Bool.not_eq_true]
    intro halpha
    rw [isDigit_of_isAlpha halpha] at hdigit
    cases hdigit
  unfold isNameStart Text.isIdStart at h
  rw [if_pos (toNat_lt_of_isAlphanum halphanum), halpha] at h
  simp only [Bool.or_false, Bool.or_eq_true, beq_iff_eq] at h
  rcases h with rfl | rfl <;> cases hdigit

/-- A word that ends at a character of no name. -/
lemma token_word {c d : Char} {cs : List Char} (hc : isNameStart c = true)
    (hcs : ∀ c ∈ cs, isNamePart c = true) (hd : isNamePart d = false) (hslash : d ≠ '\\')
    (rest : List Char) :
    token (c :: cs ++ d :: rest) = some (.word (String.ofList (c :: cs)) false, cs.length + 1) := by
  have hne : ∀ e : Char, isNameStart e = false → c ≠ e := by
    rintro e he rfl
    rw [hc] at he
    cases he
  have hword : word (c :: cs ++ d :: rest) =
      some (.word (String.ofList (c :: cs)) false, cs.length + 1) := by
    unfold word wordChars
    simp only [List.cons_append, hc, if_true, wordChars_append hcs hd hslash, Option.map_some]
    rw [Nat.zero_add, Nat.add_comm 1]
  -- The tests in front of the one for words are for other first characters.
  unfold token
  simp only [List.cons_append] at hword ⊢
  rw [if_neg (by simp [hne '"' rfl, hne '\'' rfl]), if_neg (hne (Char.ofNat 96) rfl),
    if_neg (by simp [isDigit_of_isNameStart hc]), if_neg (by simp [hne '.' rfl]),
    if_neg (hne '#' rfl), if_pos (by simp [hc]), hword]

lemma isNameStart_of_specifier {c : Char} (h : Specifier.isNameStart c = true) :
    isNameStart c = true := by
  simp only [Specifier.isNameStart, Bool.or_eq_true, beq_iff_eq] at h
  unfold isNameStart Text.isIdStart
  rcases h with (h | rfl) | rfl
  · have halphanum : c.isAlphanum = true := by rw [Char.isAlphanum, h, Bool.true_or]
    rw [if_pos (toNat_lt_of_isAlphanum halphanum), h, Bool.or_true]
  · rfl
  · rfl

lemma isNamePart_of_specifier {c : Char} (h : Specifier.isNamePart c = true) :
    isNamePart c = true := by
  simp only [Specifier.isNamePart, Bool.or_eq_true, beq_iff_eq] at h
  rcases h with ((h | h) | rfl) | rfl
  · exact isNamePart_of_isAlphanum (by rw [Char.isAlphanum, h, Bool.true_or])
  · exact isNamePart_of_isAlphanum (by rw [Char.isAlphanum, h, Bool.or_true])
  · decide
  · decide

/-- An identifier is read as a word. -/
lemma token_identifier {name : String} (h : Specifier.isIdentifier name = true) {d : Char}
    (hd : isNamePart d = false) (hslash : d ≠ '\\') (rest : List Char) :
    token (name.toList ++ d :: rest) = some (.word name false, name.toList.length) := by
  unfold Specifier.isIdentifier at h
  cases hname : name.toList with
  | nil =>
    rw [hname] at h
    cases h
  | cons c cs =>
    rw [hname, Bool.and_eq_true, List.all_eq_true] at h
    have hword := token_word (isNameStart_of_specifier h.1)
      (fun c hc => isNamePart_of_specifier (h.2 c hc)) hd hslash rest
    rwa [← hname, String.ofList_toList, hname] at hword

/-- No blank and no comment starts like a name. -/
lemma not_blank_of_specifier {c : Char} (h : Specifier.isNameStart c = true) :
    isLineEnd c = false ∧ isSpace c = false ∧ c ≠ '/' := by
  have hsolid : ∀ n < 0x80, Specifier.isNameStart (Char.ofNat n) = true →
      (isLineEnd (Char.ofNat n) || isSpace (Char.ofNat n) || Char.ofNat n == '/') = false := by
    decide
  have hascii : c.toNat < 0x80 := by
    have hstart := h
    simp only [Specifier.isNameStart, Bool.or_eq_true, beq_iff_eq] at hstart
    rcases hstart with (hstart | rfl) | rfl
    · exact toNat_lt_of_isAlphanum (by rw [Char.isAlphanum, hstart, Bool.true_or])
    · decide
    · decide
  have hc := hsolid c.toNat hascii
  rw [Char.ofNat_toNat] at hc
  have hc := hc h
  simp only [Bool.or_eq_false_iff, beq_eq_false_iff_ne] at hc
  exact ⟨hc.1.1, hc.1.2, hc.2⟩

/-- In front of an identifier nothing is passed over. -/
lemma blanks_front {name : String} (h : Specifier.isIdentifier name = true) (n : Nat)
    (rest : List Char) :
    blanks .outside false n (name.toList ++ rest) = some (n, false) := by
  unfold Specifier.isIdentifier at h
  cases hname : name.toList with
  | nil =>
    rw [hname] at h
    cases h
  | cons c cs =>
    rw [hname, Bool.and_eq_true] at h
    have hc := not_blank_of_specifier h.1
    rw [List.cons_append, blanks]
    simp [hc]

/-- A blank in front of an identifier is all that is passed over. -/
lemma blanks_identifier {name : String} (h : Specifier.isIdentifier name = true)
    (rest : List Char) :
    blanks .outside false 0 (' ' :: (name.toList ++ rest)) = some (1, false) := by
  rw [blanks, if_neg (by decide), if_pos (by decide)]
  exact blanks_front h 1 rest

/-- An identifier is no first line for the operating system. -/
lemma hashbang_identifier {name : String} (h : Specifier.isIdentifier name = true)
    (rest : List Char) : hashbang (name.toList ++ rest) = 0 := by
  unfold Specifier.isIdentifier at h
  cases hname : name.toList with
  | nil =>
    rw [hname] at h
    cases h
  | cons c cs =>
    rw [hname, Bool.and_eq_true] at h
    have hc : c ≠ '#' := by
      rintro rfl
      cases h.1
    unfold hashbang
    split
    · rename_i heq
      exact absurd (List.cons.inj heq).1 hc
    · rfl

/-! ## Strings -/

/-- A string without its quote, escapes or line breaks is its own value. -/
lemma stringPieces_append {quote : Char} {cs : List Char}
    (hcs : ∀ c ∈ cs, c ≠ quote ∧ c ≠ '\\' ∧ c ≠ '\n' ∧ c ≠ '\r') (n : Nat) (rest : List Char) :
    stringPieces quote 0 n (cs ++ quote :: rest) = some (cs.map .char, n + cs.length + 1) := by
  induction cs generalizing n with
  | nil => simp [stringPieces]
  | cons c cs ih =>
    obtain ⟨⟨hquote, hslash, hn, hr⟩, hcs⟩ := List.forall_mem_cons.mp hcs
    rw [List.cons_append, stringPieces, if_neg hquote, if_neg (by simp [hn, hr]), if_neg hslash,
      ih hcs]
    simp [Nat.add_comm, Nat.add_left_comm]

/-- A string in single quotes. -/
lemma token_string {cs : List Char} (hcs : ∀ c ∈ cs, c ≠ '\'' ∧ c ≠ '\\' ∧ c ≠ '\n' ∧ c ≠ '\r')
    (rest : List Char) :
    token ('\'' :: cs ++ '\'' :: rest) = some (.string (String.ofList cs), cs.length + 2) := by
  have htext : textOf (cs.map .char) = String.ofList cs := by
    unfold textOf
    simp [List.flatMap_map]
  unfold token
  simp only [List.cons_append]
  rw [if_pos (by simp), stringPieces_append hcs, Option.map_some, htext]
  simp only [Nat.add_comm, Nat.add_left_comm]

/-! ## Comments -/

/-- A class of characters without line terminators. -/
lemma isLineEnd_of_class (p : Char → Bool) {c : Char} (hn : p '\n' = false) (hr : p '\r' = false)
    (hline : p '\u2028' = false) (hparagraph : p '\u2029' = false) (hc : p c = true) :
    isLineEnd c = false := by
  have hne {d : Char} (hd : p d = false) : c ≠ d := by
    rintro rfl
    rw [hc] at hd
    cases hd
  simp [isLineEnd, hne hn, hne hr, hne hline, hne hparagraph]

/-- The rest of a line comment is passed over with the line break behind it. -/
lemma blanks_lineComment {cs : List Char} (hcs : ∀ c ∈ cs, isLineEnd c = false) (broken : Bool)
    (n : Nat) (rest : List Char) :
    blanks .lineComment broken n (cs ++ '\n' :: rest) =
      blanks .outside true (n + cs.length + 1) rest := by
  induction cs generalizing n with
  | nil => rw [List.nil_append, blanks, if_pos (by decide), List.length_nil]
  | cons c cs ih =>
    obtain ⟨hc, hcs⟩ := List.forall_mem_cons.mp hcs
    rw [List.cons_append, blanks, if_neg (by simp [hc]), ih hcs, List.length_cons, Nat.add_right_comm n,
      Nat.add_assoc n]

/-- The body of a comment is passed over up to the mark that closes it. -/
lemma blanks_body {body : List Char} (hbody : Text.occursIn ['*', '/'] body = false)
    (broken : Bool) (n : Nat) (rest : List Char) :
    ∃ broken', blanks .blockComment broken n (body ++ ' ' :: '*' :: '/' :: rest) =
      blanks .outside broken' (n + body.length + 3) rest := by
  induction body generalizing broken n with
  | nil => exact ⟨broken, by simp [blanks, isLineEnd]⟩
  | cons c cs ih =>
    rw [Text.occursIn, Bool.or_eq_false_iff] at hbody
    -- A star in front of a slash would be in the body, or in front of the blank behind it.
    have hopen : ¬ (c = '*' ∧ (cs ++ ' ' :: '*' :: '/' :: rest).head? = some '/') := by
      rintro ⟨rfl, hhead⟩
      cases cs with
      | nil => simp at hhead
      | cons d ds =>
        simp only [List.cons_append, List.head?_cons, Option.some.injEq] at hhead
        subst hhead
        simp at hbody
    obtain ⟨broken', h⟩ := ih hbody.2 (broken || isLineEnd c) (n + 1)
    refine ⟨broken', ?_⟩
    rw [List.cons_append, blanks, if_neg (by simpa using hopen), h, List.length_cons]
    congr 1
    omega

/-- A comment alone is a text without tokens. -/
lemma blanks_comment {body : List Char} (hbody : Text.occursIn ['*', '/'] body = false) :
    ∃ broken, blanks .outside false 0 ('/' :: '*' :: (body ++ [' ', '*', '/'])) =
      some (body.length + 5, broken) := by
  obtain ⟨broken, h⟩ := blanks_body hbody false 2 []
  refine ⟨broken, ?_⟩
  have hend : blanks .outside broken (2 + body.length + 3) [] =
      some (2 + body.length + 3, broken) := by
    simp [blanks]
  rw [blanks, if_neg (by decide), if_neg (by decide), if_neg (by simp), if_pos (by simp), blanks,
    if_pos rfl, h, hend, Nat.add_comm 2]

end LiveBundle.Script.Lexer
