import LiveBundle.Proofs.Json.Numbers
import LiveBundle.Proofs.Quoted

/-!
# Values on one line

A value that is written compactly stands on one line and is read as one value.

* `printed_compact`: the written form of a value has no control characters;
* `Reader.skipValue_compact`: a reader that passes over values takes all of the written form of a
  value and nothing behind it;
* `whole_ignored_compact`: the written form is the text of one value.
-/

namespace LiveBundle.Json

/-! ## Pieces with commas between them -/

/-- The characters of a member. -/
def memberChars (m : String × Json) : List Char := (quote m.1).toList ++ ':' :: m.2.compact.toList

/-- The items of an array stand with commas between them. -/
lemma toList_compactItems (vs : List Json) :
    (compactItems vs).toList = [','].intercalate (vs.map fun v => v.compact.toList) := by
  induction vs with
  | nil => rfl
  | cons v vs ih =>
    cases vs with
    | nil => simp [compactItems]
    | cons w vs =>
      rw [compactItems, List.map_cons, List.intercalate_cons_of_ne_nil (by simp), ← ih]
      simp

/-- The members of an object stand with commas between them. -/
lemma toList_compactMembers (ms : List (String × Json)) :
    (compactMembers ms).toList = [','].intercalate (ms.map memberChars) := by
  induction ms with
  | nil => rfl
  | cons m ms ih =>
    obtain ⟨k, v⟩ := m
    cases ms with
    | nil => simp [compactMembers, memberChars]
    | cons m ms =>
      rw [compactMembers, List.map_cons, List.intercalate_cons_of_ne_nil (by simp), ← ih]
      simp [memberChars]

/-- All pieces but the first one follow a comma. -/
lemma intercalate_cons_eq (piece : List Char) (pieces : List (List Char)) :
    [','].intercalate (piece :: pieces) = piece ++ pieces.flatMap (',' :: ·) := by
  induction pieces generalizing piece with
  | nil => simp
  | cons piece' pieces ih =>
    rw [List.intercalate_cons_cons, ih]
    simp

/-- A piece is no longer than what it is part of. -/
lemma length_le_intercalate {piece : List Char} {pieces : List (List Char)}
    (h : piece ∈ pieces) : piece.length ≤ ([','].intercalate pieces).length := by
  cases pieces with
  | nil => cases h
  | cons first pieces =>
    rw [intercalate_cons_eq, List.length_append]
    rcases List.mem_cons.mp h with rfl | h
    · exact Nat.le_add_right _ _
    · have hsub : List.Sublist (',' :: piece) (pieces.flatMap (',' :: ·)) :=
        List.sublist_flatten_of_mem (List.mem_map_of_mem h)
      have hlength : piece.length + 1 ≤ (pieces.flatMap (',' :: ·)).length := hsub.length_le
      omega

/-- A comma in front of each piece is at least as long as their number. -/
lemma count_le_flatMap (pieces : List (List Char)) :
    pieces.length ≤ (pieces.flatMap (',' :: ·)).length := by
  induction pieces with
  | nil => exact le_rfl
  | cons piece pieces ih =>
    rw [List.flatMap_cons, List.length_append, List.length_cons, List.length_cons]
    omega

/-- Commas stand between all pieces, so there are one more pieces than commas at most. -/
lemma count_le_intercalate (pieces : List (List Char)) :
    pieces.length ≤ ([','].intercalate pieces).length + 1 := by
  cases pieces with
  | nil => exact Nat.zero_le _
  | cons piece pieces =>
    have hmore : pieces.length ≤ (pieces.flatMap (',' :: ·)).length := count_le_flatMap pieces
    rw [intercalate_cons_eq, List.length_append, List.length_cons]
    omega

/-! ## No control characters -/

/-- No character is a control character. -/
def Printed (cs : List Char) : Prop := ∀ c ∈ cs, 0x20 ≤ c.toNat

/-- Two texts without control characters make one without. -/
lemma Printed.append {cs cs' : List Char} (h : Printed cs) (h' : Printed cs') :
    Printed (cs ++ cs') :=
  List.forall_mem_append.mpr ⟨h, h'⟩

/-- A character that is no control character may stand in front. -/
lemma Printed.cons {c : Char} {cs : List Char} (hc : 0x20 ≤ c.toNat) (h : Printed cs) :
    Printed (c :: cs) :=
  List.forall_mem_cons.mpr ⟨hc, h⟩

/-- Commas are no control characters. -/
lemma printed_intercalate {pieces : List (List Char)} (h : ∀ piece ∈ pieces, Printed piece) :
    Printed ([','].intercalate pieces) := by
  cases pieces with
  | nil => simp [Printed]
  | cons piece pieces =>
    obtain ⟨hpiece, hpieces⟩ := List.forall_mem_cons.mp h
    rw [intercalate_cons_eq]
    refine hpiece.append fun c hc => ?_
    obtain ⟨piece', hpiece', hc⟩ := List.mem_flatMap.mp hc
    exact Printed.cons (by decide) (hpieces piece' hpiece') c hc

/-- A control character has an escape without control characters. -/
lemma printed_escapeControl {c : Char} (hc : c.toNat < 0x20) : Printed (escapeControl c) := by
  obtain ⟨n, hn, rfl⟩ : ∃ n, n < 0x20 ∧ c = Char.ofNat n := ⟨c.toNat, hc, by simp⟩
  have hall : (escapeControl (Char.ofNat n)).all (fun c => decide (0x20 ≤ c.toNat)) = true := by
    interval_cases n <;> decide
  exact fun c hc => of_decide_eq_true (List.all_eq_true.mp hall c hc)

/-- Control characters are escaped. -/
lemma printed_escapeChar (c : Char) : Printed (escapeChar c) := by
  unfold escapeChar
  split
  · exact .cons (by decide) (.cons (by decide) (by simp [Printed]))
  · split
    · exact .cons (by decide) (.cons (by decide) (by simp [Printed]))
    · split
      · rename_i hc
        exact printed_escapeControl hc
      · rename_i hc
        simpa [Printed] using hc

/-- A quoted text has no control characters, whatever the text is. -/
lemma printed_quote (s : String) : Printed (quote s).toList := by
  rw [toList_quote]
  refine .cons (by decide) (.append (fun c hc => ?_) (by simp [Printed]))
  obtain ⟨d, -, hcd⟩ := List.mem_flatMap.mp hc
  exact printed_escapeChar d c hcd

/-- Digits are no control characters. -/
lemma printed_digits {cs : List Char} (h : IsDigits cs) : Printed cs := by
  intro c hc
  have hdigit : c.isDigit = true := h.2 c hc
  simp only [Char.isDigit, Bool.and_eq_true, decide_eq_true_eq] at hdigit
  have hlow : '0'.toNat ≤ c.toNat := hdigit.1
  exact le_trans (by decide) hlow

/-- The text of a number has no control characters. -/
lemma printed_numberText {cs : List Char} (h : NumberText cs) : Printed cs := by
  obtain ⟨whole, fraction, exponent, rfl, hwhole, hfraction, hexponent⟩ := h
  refine .append ?_ (.append ?_ ?_)
  · obtain rfl | ⟨hdigits, -⟩ := hwhole
    · simp [Printed]
    · exact printed_digits hdigits
  · obtain rfl | ⟨ds, rfl, hds⟩ := hfraction
    · simp [Printed]
    · exact .cons (by decide) (printed_digits hds)
  · obtain rfl | ⟨sign, ds, rfl, rfl | rfl, hds⟩ := hexponent
    · simp [Printed]
    · exact .cons (by decide) (.cons (by decide) (printed_digits hds))
    · exact .cons (by decide) (.cons (by decide) (printed_digits hds))

/-- Neither has a number with its sign. -/
lemma printed_number (n : Number) : Printed n.text.toList := by
  obtain hnull | ⟨cs, hcs, htext | htext⟩ := n.text_cases
  · rw [hnull]
    simp [Printed]
  · exact htext ▸ printed_numberText hcs
  · exact htext ▸ .cons (by decide) (printed_numberText hcs)

/-- A value is smaller than the members that it is one of. -/
lemma sizeOf_member {k : String} {v : Json} {members : List (String × Json)}
    (h : (k, v) ∈ members) : sizeOf v < sizeOf members := by
  have hmember : sizeOf (k, v) < sizeOf members := List.sizeOf_lt_of_mem h
  have hvalue : sizeOf v < sizeOf (k, v) := by simp
  exact hvalue.trans hmember

/-- The written form of a value has no control characters. -/
theorem printed_compact (v : Json) : Printed v.compact.toList := by
  match v with
  | .null => simp [compact, Printed]
  | .bool b => cases b <;> simp [compact, Printed]
  | .number n => exact printed_number n
  | .string s => exact printed_quote s
  | .array items =>
    rw [compact, String.toList_append, String.toList_append, toList_compactItems]
    refine .append (.append (by simp [Printed]) (printed_intercalate fun piece hpiece => ?_))
      (by simp [Printed])
    obtain ⟨v, hv, rfl⟩ := List.mem_map.mp hpiece
    exact printed_compact v
  | .object members =>
    rw [compact, String.toList_append, String.toList_append, toList_compactMembers]
    refine .append (.append (by simp [Printed]) (printed_intercalate fun piece hpiece => ?_))
      (by simp [Printed])
    obtain ⟨⟨k, v⟩, hv, rfl⟩ := List.mem_map.mp hpiece
    have := sizeOf_member hv
    exact .append (printed_quote k) (.cons (by decide) (printed_compact v))

/-! ## One value -/

namespace Reader

variable {rest : List Char}

/-- A control character is passed over with its escape. -/
lemma skipStringBody_escapeControl {c : Char} (hc : c.toNat < 0x20) (fuel : Nat)
    (rest : List Char) :
    skipStringBody (fuel + 1) (escapeControl c ++ rest) = skipStringBody fuel rest := by
  obtain ⟨n, hn, rfl⟩ : ∃ n, n < 0x20 ∧ c = Char.ofNat n := ⟨c.toNat, hc, by simp⟩
  interval_cases n <;> rfl

/-- An escaped character is skipped in one step. -/
lemma skipStringBody_escapeChar (c : Char) (fuel : Nat) (rest : List Char) :
    skipStringBody (fuel + 1) (escapeChar c ++ rest) = skipStringBody fuel rest := by
  unfold escapeChar
  split
  · rfl
  · rename_i hquote
    split
    · rfl
    · rename_i hslash
      split
      · rename_i hc
        exact skipStringBody_escapeControl hc fuel rest
      · rename_i hc
        have hpeek : peekInString (c :: rest) = .done c (c :: rest) := rfl
        rw [List.singleton_append, skipStringBody, bind_of_done hpeek]
        simp only [if_neg hquote, if_neg hslash, if_neg hc]
        rfl

/-- A quoted text is skipped up to its closing quote. -/
lemma skipStringBody_append (s : List Char) {fuel : Nat} (hfuel : s.length < fuel) :
    skipStringBody fuel (s.flatMap escapeChar ++ '"' :: rest) = .done () rest := by
  induction s generalizing fuel with
  | nil =>
    obtain ⟨fuel, rfl⟩ := Nat.exists_eq_succ_of_ne_zero (Nat.ne_zero_of_lt hfuel)
    rfl
  | cons c cs ih =>
    obtain ⟨fuel, rfl⟩ := Nat.exists_eq_succ_of_ne_zero (Nat.ne_zero_of_lt hfuel)
    rw [List.flatMap_cons, List.append_assoc, skipStringBody_escapeChar]
    exact ih (Nat.lt_of_succ_lt_succ hfuel)

/-- An escaped character is not empty. -/
lemma escapeChar_ne_nil (c : Char) : escapeChar c ≠ [] := by
  rcases escape?_escapeChar c [] with ⟨hself, -⟩ | ⟨e, he, -⟩
  · rw [hself]
    exact List.cons_ne_nil _ _
  · rw [he]
    exact List.cons_ne_nil _ _

/-- Escaping makes no text shorter. -/
lemma length_le_flatMap (s : List Char) : s.length ≤ (s.flatMap escapeChar).length := by
  induction s with
  | nil => exact le_rfl
  | cons c cs ih =>
    have hc : 0 < (escapeChar c).length := List.length_pos_iff.mpr (escapeChar_ne_nil c)
    rw [List.flatMap_cons, List.length_append, List.length_cons]
    omega

/-- A quoted string is passed over. -/
lemma skipQuoted_append (s : String) :
    skipQuoted ((quote s).toList ++ rest) = .done () rest := by
  rw [toList_quote, List.cons_append, List.append_assoc, skipQuoted,
    bind_of_done (advance_cons _ _)]
  show skipStringBody (_ + 1) _ = _
  have hlength : s.toList.length ≤ (s.toList.flatMap escapeChar).length := length_le_flatMap _
  refine skipStringBody_append s.toList ?_
  simp only [List.length_append]
  omega

/-! ### Containers -/

/-- A character that is no space is the next token. -/
lemma peekToken_cons {c : Char} (hc : isSpace c = false) (cs : List Char) :
    peekToken (c :: cs) = .done (some c) (c :: cs) := by
  show Outcome.done _ _ = _
  rw [List.dropWhile_cons_of_neg (by simp [hc])]
  rfl

/-- A number stops at a comma or a closing bracket. -/
lemma stops_cons {c : Char} (hc : c = ',' ∨ c = ']' ∨ c = '\x7d') (cs : List Char) :
    Stops (c :: cs) := by
  rintro d ⟨⟩
  obtain rfl | rfl | rfl := hc <;> decide

/-- The loop over the items of a container. -/
structure Walks (loop : Nat → Bool → Reader Unit) (item : Reader Unit) (close : Char) : Prop where
  isClose : close = ']' ∨ close = '\x7d'
  atEnd : ∀ fuel first rest, loop (fuel + 1) first (close :: rest) = .done () rest
  atFirst : ∀ fuel c cs cs', isSpace c = false → c ≠ close → item (c :: cs) = .done () cs' →
    loop (fuel + 1) true (c :: cs) = loop fuel false cs'
  atComma : ∀ fuel cs cs', item cs = .done () cs' →
    loop (fuel + 1) false (',' :: cs) = loop fuel false cs'

namespace Walks

variable {loop : Nat → Bool → Reader Unit} {item : Reader Unit} {close : Char}

/-- No number goes on behind an item. -/
lemma stops (h : Walks loop item close) (pieces : List (List Char)) (rest : List Char) :
    Stops (pieces.flatMap (',' :: ·) ++ close :: rest) := by
  cases pieces with
  | nil => exact stops_cons (Or.inr h.isClose) rest
  | cons piece pieces => exact stops_cons (Or.inl rfl) _

/-- The items behind the first one are passed over with the end. -/
lemma more (h : Walks loop item close) {pieces : List (List Char)}
    (hitem : ∀ piece ∈ pieces, ∀ rest, Stops rest → item (piece ++ rest) = .done () rest)
    {fuel : Nat} (hfuel : pieces.length < fuel) (rest : List Char) :
    loop fuel false (pieces.flatMap (',' :: ·) ++ close :: rest) = .done () rest := by
  induction pieces generalizing fuel with
  | nil =>
    obtain ⟨fuel, rfl⟩ := Nat.exists_eq_succ_of_ne_zero (Nat.ne_zero_of_lt hfuel)
    exact h.atEnd fuel false rest
  | cons piece pieces ih =>
    obtain ⟨fuel, rfl⟩ := Nat.exists_eq_succ_of_ne_zero (Nat.ne_zero_of_lt hfuel)
    obtain ⟨hpiece, hpieces⟩ := List.forall_mem_cons.mp hitem
    rw [List.flatMap_cons, List.append_assoc, List.cons_append,
      h.atComma fuel _ _ (hpiece _ (h.stops pieces rest))]
    exact ih hpieces (Nat.lt_of_succ_lt_succ hfuel)

/-- All items are passed over with the end. -/
lemma append (h : Walks loop item close) {pieces : List (List Char)}
    (hstart : ∀ piece ∈ pieces, ∃ c cs, piece = c :: cs ∧ isSpace c = false ∧ c ≠ close)
    (hitem : ∀ piece ∈ pieces, ∀ rest, Stops rest → item (piece ++ rest) = .done () rest)
    {fuel : Nat} (hfuel : pieces.length < fuel) (rest : List Char) :
    loop fuel true ([','].intercalate pieces ++ close :: rest) = .done () rest := by
  obtain ⟨fuel, rfl⟩ := Nat.exists_eq_succ_of_ne_zero (Nat.ne_zero_of_lt hfuel)
  cases pieces with
  | nil => exact h.atEnd fuel true rest
  | cons piece pieces =>
    obtain ⟨⟨c, cs, rfl, hspace, hclose⟩, -⟩ := List.forall_mem_cons.mp hstart
    obtain ⟨hfirst, hmore⟩ := List.forall_mem_cons.mp hitem
    have hpiece : item (c :: (cs ++ (pieces.flatMap (',' :: ·) ++ close :: rest))) = .done () _ :=
      hfirst _ (h.stops pieces rest)
    rw [intercalate_cons_eq, List.append_assoc, List.cons_append,
      h.atFirst fuel c _ _ hspace hclose hpiece]
    exact h.more hmore (Nat.lt_of_succ_lt_succ hfuel) rest

/-- A container is passed over when its fuel is enough for the length of its text. -/
lemma container (h : Walks loop item close) {pieces : List (List Char)} {fuel : Nat}
    (hstart : ∀ piece ∈ pieces, ∃ c cs, piece = c :: cs ∧ isSpace c = false ∧ c ≠ close)
    (hfuel : ([','].intercalate pieces ++ [close]).length < fuel)
    (hitem : ∀ piece ∈ pieces, piece.length < fuel →
      ∀ rest, Stops rest → item (piece ++ rest) = .done () rest) (rest : List Char) :
    loop fuel true ([','].intercalate pieces ++ [close] ++ rest) = .done () rest := by
  rw [List.length_append, List.length_singleton] at hfuel
  have hcount := count_le_intercalate pieces
  rw [List.append_assoc]
  refine h.append hstart (fun piece hpiece => hitem piece hpiece ?_) (by omega) rest
  have hlength := length_le_intercalate hpiece
  omega

end Walks

/-- The items of an array are skipped one after the other. -/
lemma skipList_walks (item : Reader Unit) :
    Walks (fun fuel first => skipValue.skipList fuel first item) item ']' where
  isClose := Or.inl rfl
  atEnd fuel first rest := by
    simp only [skipValue.skipList]
    rw [bind_of_done (peekToken_cons rfl rest)]
    rfl
  atFirst fuel c cs cs' hspace hclose hitem := by
    simp only [skipValue.skipList]
    rw [bind_of_done (peekToken_cons hspace cs)]
    simp only [if_neg hclose, if_true]
    rw [bind_of_done hitem]
  atComma fuel cs cs' hitem := by
    simp only [skipValue.skipList]
    rw [bind_of_done (peekToken_cons rfl cs)]
    show (advance >>= fun _ => item >>= _) _ = _
    rw [bind_of_done (advance_cons _ _), bind_of_done hitem]

/-- The members of an object are skipped one after the other. -/
lemma skipObject_walks (item : Reader Unit) :
    Walks (fun fuel first => skipValue.skipObject fuel first item) (skipValue.skipMember item)
      '\x7d' where
  isClose := Or.inr rfl
  atEnd fuel first rest := by
    simp only [skipValue.skipObject]
    rw [bind_of_done (peekToken_cons rfl rest)]
    rfl
  atFirst fuel c cs cs' hspace hclose hitem := by
    simp only [skipValue.skipObject]
    rw [bind_of_done (peekToken_cons hspace cs)]
    simp only [if_neg hclose, if_true]
    rw [bind_of_done hitem]
  atComma fuel cs cs' hitem := by
    simp only [skipValue.skipObject]
    rw [bind_of_done (peekToken_cons rfl cs)]
    show (advance >>= fun _ => skipValue.skipMember item >>= _) _ = _
    rw [bind_of_done (advance_cons _ _), bind_of_done hitem]

/-- A member is passed over when its value is. -/
lemma skipMember_append {item : Reader Unit} {m : String × Json}
    (h : item (m.2.compact.toList ++ rest) = .done () rest) :
    skipValue.skipMember item (memberChars m ++ rest) = .done () rest := by
  have hkey : skipQuoted (memberChars m ++ rest) =
      .done () (':' :: m.2.compact.toList ++ rest) := by
    rw [memberChars, List.append_assoc]
    exact skipQuoted_append m.1
  have hpeek : peekToken (memberChars m ++ rest) = .done (some '"') (memberChars m ++ rest) := by
    rw [memberChars, toList_quote]
    exact peekToken_cons rfl _
  rw [skipValue.skipMember, bind_of_done hpeek]
  show (skipQuoted >>= _) _ = _
  rw [bind_of_done hkey, List.cons_append, bind_of_done (peekToken_cons rfl _)]
  show (advance >>= fun _ => item) _ = _
  rw [bind_of_done (advance_cons _ _), h]

/-! ### Values -/

/-- A digit is no space. -/
lemma isSpace_of_isDigit {d : Char} (hd : d.isDigit = true) : isSpace d = false := by
  rw [← Bool.not_eq_true]
  intro hspace
  simp only [isSpace, Bool.or_eq_true, beq_iff_eq] at hspace
  obtain ((rfl | rfl) | rfl) | rfl := hspace <;> revert hd <;> decide

/-- A number without a sign starts with a digit. -/
lemma exists_numberText_eq_cons {cs : List Char} (h : NumberText cs) :
    ∃ d ds, cs = d :: ds ∧ d.isDigit = true := by
  obtain ⟨whole, fraction, exponent, rfl, hwhole, -⟩ := h
  obtain rfl | ⟨⟨hne, hdigits⟩, -⟩ := hwhole
  · exact ⟨'0', fraction ++ exponent, rfl, rfl⟩
  · obtain ⟨d, ds, rfl⟩ := List.exists_cons_of_ne_nil hne
    exact ⟨d, ds ++ (fraction ++ exponent), rfl, hdigits d List.mem_cons_self⟩

/-- The first character of the written form of a value. -/
lemma exists_compact_eq_cons (v : Json) :
    ∃ c cs, v.compact.toList = c :: cs ∧ isSpace c = false ∧ c ≠ ']' := by
  cases v with
  | null => exact ⟨'n', _, rfl, rfl, by decide⟩
  | bool b => cases b <;> exact ⟨_, _, rfl, rfl, by decide⟩
  | number n =>
    rw [compact]
    obtain hnull | ⟨cs, hcs, htext | htext⟩ := n.text_cases
    · rw [hnull]
      exact ⟨'n', _, rfl, rfl, by decide⟩
    · obtain ⟨d, ds, rfl, hd⟩ := exists_numberText_eq_cons hcs
      exact ⟨d, ds, htext, isSpace_of_isDigit hd, by rintro rfl; cases hd⟩
    · exact ⟨'-', cs, htext, rfl, by decide⟩
  | string s => exact ⟨'"', _, toList_quote s, rfl, by decide⟩
  | array items => exact ⟨'[', _, by simp [compact]; rfl, rfl, by decide⟩
  | object members => exact ⟨'\x7b', _, by simp [compact]; rfl, rfl, by decide⟩

/-- The text of a number is passed over as a value. -/
lemma skipValue_number (n : Number) (fuel : Nat) (hrest : Stops rest) :
    skipValue (fuel + 1) (n.text.toList ++ rest) = .done () rest := by
  obtain hnull | ⟨cs, hcs, htext | htext⟩ := n.text_cases
  · rw [hnull]
    rfl
  · have hskip : skipNumber (cs ++ rest) = .done () rest := skipNumber_append hcs hrest
    obtain ⟨d, ds, rfl, hd⟩ := exists_numberText_eq_cons hcs
    have hn : d ≠ 'n' := by rintro rfl; cases hd
    have ht : d ≠ 't' := by rintro rfl; cases hd
    have hf : d ≠ 'f' := by rintro rfl; cases hd
    have hminus : d ≠ '-' := by rintro rfl; cases hd
    rw [htext, skipValue, List.cons_append,
      bind_of_done (peekToken_cons (isSpace_of_isDigit hd) (ds ++ rest))]
    simp only [if_neg hn, if_neg ht, if_neg hf, if_neg hminus, if_pos hd]
    exact hskip
  · rw [htext, skipValue, List.cons_append, bind_of_done (peekToken_cons rfl (cs ++ rest))]
    show (advance >>= fun _ => skipNumber) _ = _
    rw [bind_of_done (advance_cons _ _), skipNumber_append hcs hrest]

/-- The written form of a value is passed over, and nothing behind it. -/
theorem skipValue_compact {v : Json} {fuel : Nat} (hfuel : v.compact.toList.length < fuel)
    (hrest : Stops rest) : skipValue fuel (v.compact.toList ++ rest) = .done () rest := by
  induction fuel generalizing v rest with
  | zero => exact absurd hfuel (Nat.not_lt_zero _)
  | succ fuel ih =>
    cases v with
    | null => rfl
    | bool b => cases b <;> rfl
    | number n => exact skipValue_number n fuel hrest
    | string s =>
      have hskip : skipQuoted ((quote s).toList ++ rest) = .done () rest := skipQuoted_append s
      rw [toList_quote] at hskip
      rw [compact, toList_quote, skipValue, List.cons_append, bind_of_done (peekToken_cons rfl _)]
      exact hskip
    | array items =>
      have htext : (compact (.array items)).toList =
          '[' :: ([','].intercalate (items.map fun v => v.compact.toList) ++ [']']) := by
        rw [compact, String.toList_append, String.toList_append, toList_compactItems]
        rfl
      rw [htext, List.length_cons] at hfuel
      rw [htext, List.cons_append, skipValue, bind_of_done (peekToken_cons rfl _)]
      show (advance >>= fun _ => skipValue.skipList fuel true (skipValue fuel)) _ = _
      rw [bind_of_done (advance_cons _ _)]
      refine (skipList_walks (skipValue fuel)).container ?_ (by omega) ?_ rest
      · intro piece hpiece
        obtain ⟨v, -, rfl⟩ := List.mem_map.mp hpiece
        exact exists_compact_eq_cons v
      · intro piece hpiece hlength rest hrest
        obtain ⟨v, -, rfl⟩ := List.mem_map.mp hpiece
        exact ih hlength hrest
    | object members =>
      have htext : (compact (.object members)).toList =
          '\x7b' :: ([','].intercalate (members.map memberChars) ++ ['\x7d']) := by
        rw [compact, String.toList_append, String.toList_append, toList_compactMembers]
        rfl
      rw [htext, List.length_cons] at hfuel
      rw [htext, List.cons_append, skipValue, bind_of_done (peekToken_cons rfl _)]
      show (advance >>= fun _ => skipValue.skipObject fuel true (skipValue fuel)) _ = _
      rw [bind_of_done (advance_cons _ _)]
      refine (skipObject_walks (skipValue fuel)).container ?_ (by omega) ?_ rest
      · intro piece hpiece
        obtain ⟨m, -, rfl⟩ := List.mem_map.mp hpiece
        exact ⟨'"', _, by rw [memberChars, toList_quote, List.cons_append], rfl, by decide⟩
      · intro piece hpiece hlength rest hrest
        obtain ⟨m, -, rfl⟩ := List.mem_map.mp hpiece
        rw [memberChars, List.length_append, List.length_cons] at hlength
        exact skipMember_append (ih (by omega) hrest)

end Reader

/-- The written form of a value is the text of one value. -/
theorem whole_ignored_compact (v : Json) : Reader.whole Reader.ignored v.compact = .ok () := by
  have hskip : Reader.ignored v.compact.toList = .done () [] := by
    have hrest : Stops [] := fun _ h => nomatch h
    have h := Reader.skipValue_compact (v := v) (Nat.lt_succ_self _) hrest
    rw [List.append_nil] at h
    exact h
  rw [Reader.whole, Reader.bind, hskip]
  rfl

end LiveBundle.Json
