import LiveBundle.Proofs.Component.Plain
import LiveBundle.Proofs.Quoted
import LiveBundle.Proofs.Script.Tokens

/-!
# Strings that are read as themselves

What stands between single quotes is the value of the string, unless a character of it ends the
string, ends the line or starts an escape. An escape never gives back what it is written with: it
stands for fewer characters, and half of a surrogate pair for fewer backslashes.

* `escape?_shape`: how far an escape reaches.
* `stringPieces_quoted`: the pieces of a string, beside the characters that it is written with.
* `token_string_iff`: which strings are read as themselves.
-/

namespace LiveBundle.Script.Lexer

open Text (isHexDigit hexValue)

/-- Characters that stand for themselves between single quotes. -/
def Literal (cs : List Char) : Prop := ∀ c ∈ cs, c ≠ '\'' ∧ c ≠ '\\' ∧ c ≠ '\n' ∧ c ≠ '\r'

instance (cs : List Char) : Decidable (Literal cs) :=
  decidable_of_iff (cs.all fun c => c != '\'' && c != '\\' && c != '\n' && c != '\r')
    (by simp [Literal, and_assoc])

variable {s cs rest : List Char} {c : Char} {pieces : List Piece} {n m : Nat}

/-! ## Escapes -/

/-- A hexadecimal digit is no quote. -/
lemma isHexDigit_ne (h : isHexDigit c = true) : c ≠ '\'' := by
  rintro rfl
  cases h

/-- Hexadecimal digits in braces hold no quote. -/
lemma bracedHex_unquoted {value count v : Nat} (h : bracedHex value count s = some (v, n)) :
    ∃ k, n = count + k ∧ '\'' ∉ s.take k := by
  induction s generalizing value count with
  | nil => cases h
  | cons c s ih =>
    unfold bracedHex at h
    split at h
    · rename_i hc
      split at h
      · cases h
      · cases h
        exact ⟨1, rfl, by simp [hc]⟩
    · split at h
      · rename_i hdigit
        simp only at h
        split at h
        · obtain ⟨k, rfl, hk⟩ := ih h
          refine ⟨k + 1, by omega, ?_⟩
          rw [List.take_succ_cons, List.mem_cons, not_or]
          exact ⟨(isHexDigit_ne hdigit).symm, hk⟩
        · cases h
      · cases h

/-- Four hexadecimal digits hold no quote. -/
lemma hex4?_unquoted {v : Nat} (h : hex4? s = some v) : '\'' ∉ s.take 4 := by
  unfold hex4? at h
  split at h
  · split at h
    · rename_i hdigits
      simp only [Bool.and_eq_true] at hdigits
      obtain ⟨⟨⟨ha, hb⟩, hc⟩, hd⟩ := hdigits
      simp [(isHexDigit_ne ha).symm, (isHexDigit_ne hb).symm, (isHexDigit_ne hc).symm,
        (isHexDigit_ne hd).symm]
    · cases h
  · cases h

/-- An escape by a code point holds no quote. -/
lemma unicode?_unquoted {v : Nat} (h : unicode? s = some (v, n)) : '\'' ∉ s.take n := by
  unfold unicode? at h
  split at h
  · obtain ⟨⟨value, count⟩, hbraced, heq⟩ := Option.map_eq_some_iff.mp h
    cases heq
    obtain ⟨k, rfl, hk⟩ := bracedHex_unquoted hbraced
    rw [Nat.zero_add, List.take_succ_cons, List.mem_cons, not_or]
    exact ⟨by decide, hk⟩
  · obtain ⟨value, hhex, heq⟩ := Option.map_eq_some_iff.mp h
    cases heq
    exact hex4?_unquoted hhex

/-- An escape by a code point may have a second one behind it, for the other half of a pair. -/
lemma unicodePiece?_unquoted {piece : Piece} (h : unicodePiece? s = some (piece, n)) :
    '\'' ∉ s.take n := by
  unfold unicodePiece? at h
  split at h
  · cases h
  · rename_i v count hfirst
    have hunquoted := unicode?_unquoted hfirst
    split at h
    · split at h
      · rename_i rest hdrop
        split at h
        · rename_i low count' hsecond
          split at h
          · cases h
            rw [Nat.add_assoc, List.take_add, hdrop, Nat.add_comm 2, List.take_succ_cons,
              List.take_succ_cons, List.mem_append, List.mem_cons, List.mem_cons]
            simp only [hunquoted, unicode?_unquoted hsecond, or_false, false_or]
            decide
          · cases h
            exact hunquoted
        · cases h
          exact hunquoted
      · cases h
        exact hunquoted
    · split at h
      · cases h
        exact hunquoted
      · cases h
        exact hunquoted

/-- The octal digits stand side by side. -/
lemma isOctal_iff : isOctal c = true ↔ 48 ≤ c.toNat ∧ c.toNat ≤ 55 := by
  simp only [isOctal, Bool.and_eq_true, decide_eq_true_eq, Char.le_def, UInt32.le_iff_toNat_le]
  rfl

/-- An octal digit is at most seven. -/
lemma hexValue_le (h : isOctal c = true) : hexValue c ≤ 7 := by
  obtain ⟨hlow, hhigh⟩ := isOctal_iff.mp h
  obtain ⟨k, hk, rfl⟩ : ∃ k, k = c.toNat ∧ c = Char.ofNat k := ⟨c.toNat, rfl, by simp⟩
  rw [← hk] at hlow hhigh
  interval_cases k <;> decide

/-- Octal digits hold no quote. -/
lemma octal_unquoted (s : List Char) : '\'' ∉ s.take (octal s).2 := by
  have hdigits : ∀ c ∈ (s.take 3).takeWhile isOctal, isOctal c = true :=
    fun c hc => List.mem_takeWhile_imp hc
  have hunquoted : '\'' ∉ (s.take 3).takeWhile isOctal := fun h => nomatch hdigits _ h
  have hprefix : (s.take 3).takeWhile isOctal <+: s :=
    (List.takeWhile_prefix _).trans (List.take_prefix _ _)
  generalize hds : (s.take 3).takeWhile isOctal = ds at hdigits hunquoted hprefix
  obtain ⟨tail, rfl⟩ := hprefix
  have hle : (octal (ds ++ tail)).2 ≤ ds.length := by
    unfold octal
    simp only [hds]
    split
    · rename_i hlarge
      -- Two digits are read only if there are three.
      match ds, hdigits with
      | [], _ => simp at hlarge
      | [a], hdigits =>
        have ha := hexValue_le (hdigits a (by simp))
        simp at hlarge
        omega
      | _ :: _ :: _, _ => simp
    · exact Nat.le_refl _
  rw [List.take_append_of_le_length hle]
  exact fun h => hunquoted (List.mem_of_mem_take h)

/-- A number that starts with an octal digit is not empty. -/
lemma octal_pos (h : isOctal c = true) (s : List Char) : ∃ k, (octal (c :: s)).2 = k + 1 := by
  unfold octal
  simp only [List.take_succ_cons, List.takeWhile_cons_of_pos h]
  split
  · exact ⟨1, rfl⟩
  · exact ⟨((s.take 2).takeWhile isOctal).length, rfl⟩

/-- What is known of an escape that is read from a character and the text `s` behind it: how far it
reaches there without a quote, and that it has one piece at most. -/
def Shaped (s : List Char) (escape : Option (List Piece × Nat)) : Prop :=
  ∀ ⦃pieces n⦄, escape = some (pieces, n) →
    ∃ k, n = k + 1 ∧ '\'' ∉ s.take k ∧ pieces.length ≤ 1

namespace Shaped

/-- Where nothing is read, nothing has to fit. -/
lemma none : Shaped s none := nofun

/-- One piece at most is read from behind the slash. -/
lemma some {k : Nat} (hk : '\'' ∉ s.take k) (hpieces : pieces.length ≤ 1) :
    Shaped s (some (pieces, k + 1)) := by
  rintro _ _ ⟨⟩
  exact ⟨k, rfl, hk, hpieces⟩

/-- An escape of one character. -/
lemma short (hpieces : pieces.length ≤ 1) : Shaped s (Option.some (pieces, 1)) :=
  .some (by simp) hpieces

/-- On both ways the reading has the shape. -/
lemma ite {p : Prop} [Decidable p] {a b : Option (List Piece × Nat)} (ha : p → Shaped s a)
    (hb : ¬p → Shaped s b) : Shaped s (if p then a else b) := by
  split
  · exact ha ‹_›
  · exact hb ‹_›

end Shaped

/-- An octal escape is one character. -/
lemma octal_shaped (h : isOctal c = true) :
    Shaped s (some ([.char (Char.ofNat (octal (c :: s)).1)], (octal (c :: s)).2)) := by
  have hunquoted := octal_unquoted (c :: s)
  obtain ⟨k, hk⟩ := octal_pos h s
  rw [hk, List.take_succ_cons, List.mem_cons, not_or] at hunquoted
  rw [hk]
  exact .some hunquoted.2 (Nat.le_refl 1)

/-- Every escape is read as one piece at most, and over no quote. -/
lemma escape?_shaped (c : Char) (s : List Char) : Shaped s (escape? false (c :: s)) := by
  unfold escape?
  refine .ite (fun _ => .short (Nat.le_refl 1)) fun _ => ?_
  refine .ite (fun _ => .short (Nat.le_refl 1)) fun _ => ?_
  refine .ite (fun _ => .short (Nat.le_refl 1)) fun _ => ?_
  refine .ite (fun _ => .short (Nat.le_refl 1)) fun _ => ?_
  refine .ite (fun _ => .short (Nat.le_refl 1)) fun _ => ?_
  refine .ite (fun _ => .short (Nat.le_refl 1)) fun _ => .ite (fun _ => ?_) fun _ => ?_
  · -- A line break of two characters is left out as one.
    split
    · rename_i hnext
      obtain ⟨rest, rfl⟩ := List.head?_eq_some_iff.mp hnext
      exact .some (k := 1) (by simp) (Nat.zero_le 1)
    · exact .short (Nat.zero_le 1)
  refine .ite (fun _ => .short (by simp)) fun _ => .ite (fun _ => ?_) fun _ => ?_
  · split
    · refine .ite (fun hdigits => ?_) fun _ => .none
      rw [Bool.and_eq_true] at hdigits
      refine .some (k := 2) ?_ (Nat.le_refl 1)
      simp [(isHexDigit_ne hdigits.1).symm, (isHexDigit_ne hdigits.2).symm]
    · exact .none
  refine .ite (fun _ => ?_) fun _ => .ite (fun _ => .short (Nat.le_refl 1)) fun _ => ?_
  · rintro pieces n h
    obtain ⟨⟨piece, k⟩, hpiece, ⟨⟩⟩ := Option.map_eq_some_iff.mp h
    exact ⟨k, rfl, unicodePiece?_unquoted hpiece, Nat.le_refl 1⟩
  exact .ite octal_shaped fun _ => .ite (fun _ => .none) fun _ => .short (Nat.le_refl 1)

/-! ## Strings -/

/-- Pieces that have a backslash for their character, or half of a pair. Both are written with a
backslash. -/
def Piece.isSlashed : Piece → Bool
  | .char c => c == '\\'
  | .surrogate _ => true

/-- Pieces are no more than the characters that they are written with, and as many only if these
stand for themselves; so are the backslashes. -/
structure Within (pieces : List Piece) (cs : List Char) : Prop where
  slashes : pieces.countP Piece.isSlashed ≤ cs.count '\\'
  length : pieces.length ≤ cs.length
  literal : pieces.length = cs.length → Literal cs

namespace Within

/-- An empty string has no pieces. -/
lemma nil : Within [] [] := ⟨Nat.le_refl 0, Nat.le_refl 0, fun _ => nofun⟩

/-- A string that ends early. -/
lemma early : Within [] (c :: cs) := ⟨Nat.zero_le _, Nat.zero_le _, nofun⟩

/-- A plain character is a piece of its own. -/
lemma char (hquote : c ≠ '\'') (hline : ¬(c = '\n' || c = '\r') = true) (hslash : c ≠ '\\')
    (h : Within pieces cs) : Within (.char c :: pieces) (c :: cs) where
  slashes := by
    rw [List.countP_cons_of_neg (by simpa [Piece.isSlashed] using hslash),
      List.count_cons_of_ne hslash]
    exact h.slashes
  length := Nat.succ_le_succ h.length
  literal heq := List.forall_mem_cons.mpr
    ⟨⟨hquote, hslash, by simpa using hline⟩, h.literal (Nat.succ.inj heq)⟩

/-- An escape takes a backslash, the character behind it and `k` more. -/
lemma escape {ps : List Piece} {d : Char} {k : Nat} (hps : ps.length ≤ 1) (hk : k ≤ cs.length)
    (h : Within pieces (cs.drop k)) : Within (ps ++ pieces) ('\\' :: d :: cs) := by
  have hslashes := h.slashes
  have hlength := h.length
  rw [List.length_drop] at hlength
  have hone : ps.countP Piece.isSlashed ≤ 1 := Nat.le_trans List.countP_le_length hps
  have hdrop : (cs.drop k).count '\\' ≤ (d :: cs).count '\\' :=
    ((List.drop_sublist k cs).cons d).count_le _
  refine ⟨?_, ?_, fun heq => ?_⟩
  · rw [List.countP_append, List.count_cons_self]
    omega
  · rw [List.length_append, List.length_cons, List.length_cons]
    omega
  · rw [List.length_append, List.length_cons, List.length_cons] at heq
    omega

end Within

/-- What holds no quote ends in front of the quote. -/
lemma le_length_of_unquoted {k : Nat} (h : '\'' ∉ (cs ++ '\'' :: rest).take k) : k ≤ cs.length := by
  by_contra hlt
  refine h (List.mem_take_iff_getElem.mpr ⟨cs.length, ?_, by simp⟩)
  rw [List.length_append, List.length_cons]
  omega

/-- A string cannot go on behind the quote: its line ends there. -/
lemma within_of_stringPieces
    (h : stringPieces '\'' 0 n (cs ++ '\'' :: ';' :: '\n' :: rest) = some (pieces, m)) :
    Within pieces cs := by
  induction hlength : cs.length using Nat.strongRecOn generalizing cs pieces n m with
  | ind length ih =>
    subst hlength
    cases cs with
    | nil =>
      rw [List.nil_append, stringPieces, if_pos rfl] at h
      cases h
      exact .nil
    | cons c cs =>
      rw [List.cons_append, stringPieces] at h
      split at h
      · cases h
        exact .early
      rename_i hquote
      split at h
      · cases h
      rename_i hline
      split at h
      · rename_i hslash
        subst hslash
        cases hescape : escape? false (cs ++ '\'' :: ';' :: '\n' :: rest) with
        | none =>
          rw [hescape] at h
          cases h
        | some escaped =>
          obtain ⟨ps, count⟩ := escaped
          simp only [hescape, Option.map_eq_some_iff] at h
          obtain ⟨⟨more, m'⟩, hmore, ⟨⟩⟩ := h
          cases cs with
          | nil =>
            -- The quote is escaped, and there is no other one in the line.
            cases hescape
            cases hmore
          | cons d cs =>
            obtain ⟨k, rfl, hunquoted, hps⟩ := escape?_shaped d _ hescape
            have hk : k ≤ cs.length := le_length_of_unquoted hunquoted
            have hsplit : d :: cs = (d :: cs.take k) ++ cs.drop k := by simp
            have htaken : (d :: cs.take k).length = k + 1 := by simp [hk]
            rw [hsplit, ← htaken, List.append_assoc, Json.stringPieces_skip] at hmore
            refine .escape hps hk (ih (cs.drop k).length ?_ hmore rfl)
            simp only [List.length_drop, List.length_cons]
            omega
      · rename_i hslash
        obtain ⟨⟨more, m'⟩, hmore, ⟨⟩⟩ := Option.map_eq_some_iff.mp h
        exact .char hquote hline hslash (ih cs.length (Nat.lt_succ_self _) hmore rfl)

/-! ## Values -/

/-- Half of a surrogate pair. -/
def Piece.isLone : Piece → Bool
  | .char _ => false
  | .surrogate _ => true

/-- The characters that a piece is written with, those of a mark if it could be taken for one. -/
def Piece.written (marks : Bool) : Piece → List Char
  | .surrogate n => '\ufffd' :: Nat.toDigits 16 n
  | .char c => if marks && c == '\ufffd' then '\ufffd' :: Nat.toDigits 16 0xFFFD else [c]

/-- The text of a string is what its pieces are written as. -/
lemma textOf_eq (pieces : List Piece) :
    textOf pieces = String.ofList (pieces.flatMap (Piece.written (pieces.any Piece.isLone))) := by
  have hany : pieces.any (fun
      | .surrogate _ => true
      | .char _ => false) = pieces.any Piece.isLone := by
    congr 1
    funext piece
    cases piece <;> rfl
  refine congrArg String.ofList (congrArg pieces.flatMap (funext fun piece => ?_))
  cases piece with
  | surrogate k => rfl
  | char c => exact congrArg (fun marks => Piece.written marks (.char c)) hany

/-- The mark of half a character has no backslash. -/
lemma count_mark (k : Nat) : ('\ufffd' :: Nat.toDigits 16 k).count '\\' = 0 := by
  rw [List.count_cons_of_ne (by decide), List.count_eq_zero]
  exact fun h => nomatch Component.isAlphanum_toDigits k _ h

/-- A backslash in the text comes from a piece that is one; the mark of half a character has none.
-/
lemma count_written (marks : Bool) (pieces : List Piece) :
    (pieces.flatMap (Piece.written marks)).count '\\' + pieces.countP Piece.isLone =
      pieces.countP Piece.isSlashed := by
  induction pieces with
  | nil => rfl
  | cons piece pieces ih =>
    rw [List.flatMap_cons, List.count_append, List.countP_cons, List.countP_cons, ← ih]
    have hpiece : (piece.written marks).count '\\' + (if piece.isLone = true then 1 else 0) =
        if piece.isSlashed = true then 1 else 0 := by
      cases piece with
      | surrogate k => exact congrArg (· + 1) (count_mark k)
      | char c =>
        simp only [Piece.written, Piece.isLone, Piece.isSlashed]
        split
        · rename_i hmark
          rw [Bool.and_eq_true, beq_iff_eq] at hmark
          rw [hmark.2]
          exact count_mark _
        · rw [List.count_singleton]
          rfl
    omega

/-- Without half characters, each piece is one character. -/
lemma length_written (h : pieces.countP Piece.isLone = 0) :
    (pieces.flatMap (Piece.written false)).length = pieces.length := by
  induction pieces with
  | nil => rfl
  | cons piece pieces ih =>
    cases piece with
    | surrogate k => simp [Piece.isLone] at h
    | char c =>
      rw [List.countP_cons_of_neg (by simp [Piece.isLone])] at h
      rw [List.flatMap_cons, List.length_append, ih h, List.length_cons, Nat.add_comm]
      rfl

/-- Pieces give the characters that they are written with only if these stand for themselves. -/
lemma Within.literal_of_textOf (h : Within pieces cs) (htext : textOf pieces = String.ofList cs) :
    Literal cs := by
  have hwritten : pieces.flatMap (Piece.written (pieces.any Piece.isLone)) = cs :=
    String.ofList_injective ((textOf_eq pieces).symm.trans htext)
  have hcount := count_written (pieces.any Piece.isLone) pieces
  rw [hwritten] at hcount
  -- Half of a pair has a backslash less.
  have hlone : pieces.countP Piece.isLone = 0 := by
    have hslashes := h.slashes
    omega
  have hnone : pieces.any Piece.isLone = false := by
    rw [List.any_eq_false]
    exact List.countP_eq_zero.mp hlone
  rw [hnone] at hwritten
  exact h.literal (by rw [← length_written hlone, hwritten])

/-- Between single quotes, the characters that stand for themselves are the value of the string, and
no others are. -/
theorem token_string_iff :
    (∃ n, token ('\'' :: cs ++ '\'' :: ';' :: '\n' :: rest) =
        some (.string (String.ofList cs), n)) ↔ Literal cs := by
  refine ⟨fun ⟨n, h⟩ => ?_, fun h => ⟨_, token_string h _⟩⟩
  unfold token at h
  simp only [List.cons_append] at h
  rw [if_pos (by simp), Option.map_eq_some_iff] at h
  obtain ⟨⟨pieces, m⟩, hpieces, heq⟩ := h
  simp only [Prod.mk.injEq, TokenKind.string.injEq] at heq
  exact (within_of_stringPieces hpieces).literal_of_textOf heq.1

end LiveBundle.Script.Lexer
