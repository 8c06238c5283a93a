import LiveBundle.Json.Basic
import LiveBundle.Script.Lexer
import Mathlib.Data.List.Basic
import Mathlib.Tactic.IntervalCases

/-!
# Quoted strings are string literals of scripts

A string is quoted in the way of JSON wherever a bundle holds one. The scanner of scripts reads the
quoted form back:

* `escape?_escapeChar`: an escaped character is read as that character;
* `stringPieces_quoteChars`: the quoted form of a string is read as that string;
* `token_quote`: it is one token, whatever follows;
* `quote_injective`: different strings have different quoted forms.
-/

namespace LiveBundle.Json

open Script (Lexer.Piece)
open Script.Lexer (escape? stringPieces)

/-- A control character is read back from its escape. -/
lemma escape?_escapeControl {c : Char} (hc : c.toNat < 0x20) (rest : List Char) :
    ∃ e, escapeControl c = '\\' :: e ∧
      escape? false (e ++ rest) = some ([.char c], e.length) := by
  obtain ⟨n, hn, rfl⟩ : ∃ n, n < 0x20 ∧ c = Char.ofNat n := ⟨c.toNat, hc, by simp⟩
  -- Short escapes and escapes by number are mixed, so each character is tried.
  interval_cases n <;> exact ⟨_, rfl, rfl⟩

/-- A character either stands for itself or is read back from its escape. -/
lemma escape?_escapeChar (c : Char) (rest : List Char) :
    (escapeChar c = [c] ∧ c ≠ '"' ∧ c ≠ '\\' ∧ c ≠ '\n' ∧ c ≠ '\r') ∨
      ∃ e, escapeChar c = '\\' :: e ∧
        escape? false (e ++ rest) = some ([.char c], e.length) := by
  unfold escapeChar
  split
  · rename_i h
    subst h
    exact Or.inr ⟨_, rfl, rfl⟩
  · rename_i hquote
    split
    · rename_i h
      subst h
      exact Or.inr ⟨_, rfl, rfl⟩
    · rename_i hslash
      split
      · rename_i hc
        exact Or.inr (escape?_escapeControl hc rest)
      · rename_i hc
        refine Or.inl ⟨rfl, hquote, hslash, ?_, ?_⟩ <;> rintro rfl <;> exact hc (by decide)

/-- Characters that belong to an escape are passed over. -/
lemma stringPieces_skip (quote : Char) (e rest : List Char) (n : Nat) :
    stringPieces quote e.length n (e ++ rest) = stringPieces quote 0 (n + e.length) rest := by
  induction e generalizing n with
  | nil => rfl
  | cons c cs ih =>
    show stringPieces quote cs.length (n + 1) (cs ++ rest) = _
    rw [ih, List.length_cons, Nat.add_assoc, Nat.add_comm 1]

/-- The written form of a string, read from behind its first quote, gives the string. -/
lemma stringPieces_quoteChars (s rest : List Char) (n : Nat) :
    stringPieces '"' 0 n (s.flatMap escapeChar ++ '"' :: rest) =
      some (s.map .char, n + (s.flatMap escapeChar).length + 1) := by
  induction s generalizing n with
  | nil => rfl
  | cons c cs ih =>
    rw [List.flatMap_cons, List.append_assoc]
    rcases escape?_escapeChar c (cs.flatMap escapeChar ++ '"' :: rest) with
      ⟨hself, hquote, hslash, hn, hr⟩ | ⟨e, he, hread⟩
    · rw [hself, List.singleton_append, stringPieces, if_neg hquote, if_neg (by simp [hn, hr]),
        if_neg hslash, ih]
      simp [Nat.add_assoc, Nat.add_comm 1]
    · rw [he, List.cons_append, stringPieces, if_neg (by decide), if_neg (by decide), if_pos rfl,
        hread]
      simp only
      rw [stringPieces_skip, ih]
      simp [Nat.add_assoc, Nat.add_comm, Nat.add_left_comm]

lemma toList_quote (s : String) :
    (quote s).toList = '"' :: (s.toList.flatMap escapeChar ++ ['"']) := by
  rw [quote, String.toList_ofList, quoteChars]

/-- A quoted string is read as that string. -/
lemma token_quote (s : String) (rest : List Char) :
    Script.Lexer.token ((quote s).toList ++ rest) = some (.string s, (quote s).toList.length) := by
  have htext : Script.Lexer.textOf (s.toList.map .char) = s := by
    unfold Script.Lexer.textOf
    simp [List.flatMap_map]
  rw [toList_quote]
  unfold Script.Lexer.token
  simp only [List.cons_append, List.append_assoc, List.nil_append]
  rw [if_pos (by simp), stringPieces_quoteChars, Option.map_some, htext]
  simp [Nat.add_comm]

/-- Different strings have different quoted forms. -/
theorem quote_injective : Function.Injective quote := by
  intro a b h
  have hchars : quoteChars a.toList = quoteChars b.toList := String.ofList_injective h
  have htail : a.toList.flatMap escapeChar ++ ['"'] = b.toList.flatMap escapeChar ++ ['"'] :=
    (List.cons.inj hchars).2
  -- Reading the one text back gives both strings.
  have hread := (stringPieces_quoteChars a.toList [] 0).symm.trans
    (htail ▸ stringPieces_quoteChars b.toList [] 0)
  have hpieces : a.toList.map Lexer.Piece.char = b.toList.map Lexer.Piece.char := by
    simpa using congrArg (Option.map Prod.fst) hread
  have hinj : Function.Injective Lexer.Piece.char := fun x y hxy => by injection hxy
  exact String.toList_injective (List.map_injective_iff.mpr hinj hpieces)

end LiveBundle.Json
