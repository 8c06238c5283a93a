import LiveBundle.Proofs.Style.Scan
import LiveBundle.Style.Compile
import Mathlib.Data.List.Count
import Mathlib.Data.List.Forall2
import Mathlib.Data.List.Infix
import Mathlib.Data.List.TakeWhile

/-!
# Lines without their comments

Line comments are looked for in each line on its own. What is found is cut off together with the
white space in front of it, and nothing else, whatever a text holds.

* `Lines` are the lines of a text, each but the last one with its line feed;
* `Uncommented` relates a line to what is kept of it, `stripLine_uncommented` is this for all lines;
* `beforeComment?_code`, `beforeComment?_quote` read a character outside of quotes.
-/

namespace LiveBundle.Style

open Scan
open Text (isBlank linesKeepingEnds trimEnd)

variable {c : Char} {seen s line kept : List Char} {quote : Option Char}

/-! ## Lines -/

/-- A line feed stands only at the end. -/
def Line (line : List Char) : Prop := '\n' ∉ line.dropLast

/-- Cutting a text into lines loses nothing. -/
lemma flatten_linesKeepingEnds (s : List Char) : (linesKeepingEnds s).flatten = s := by
  induction s with
  | nil => rfl
  | cons c cs ih =>
    rw [linesKeepingEnds]
    by_cases hc : c = '\n'
    · rw [if_pos hc, List.flatten_cons, ih, hc]
      rfl
    · rw [if_neg hc]
      cases hlines : linesKeepingEnds cs with
      | nil =>
        rw [hlines] at ih
        rw [← ih]
        rfl
      | cons line lines =>
        rw [hlines] at ih
        rw [← ih]
        rfl

/-- All lines but the last one end with a line feed. -/
inductive Lines : List (List Char) → Prop where
  | nil : Lines []
  | last {l : List Char} (h : '\n' ∉ l) : Lines [l]
  | cons {l : List Char} {lines : List (List Char)} (h : '\n' ∉ l) (hlines : Lines lines) :
      Lines ((l ++ ['\n']) :: lines)

/-- Only the last line may be without a line feed. -/
lemma lines_linesKeepingEnds (s : List Char) : Lines (linesKeepingEnds s) := by
  induction s with
  | nil => exact .nil
  | cons c cs ih =>
    rw [linesKeepingEnds]
    by_cases hc : c = '\n'
    · rw [if_pos hc]
      exact .cons (l := []) List.not_mem_nil ih
    · rw [if_neg hc]
      have hcons {line : List Char} (hline : '\n' ∉ line) : '\n' ∉ c :: line := by
        rw [List.mem_cons, not_or]
        exact ⟨Ne.symm hc, hline⟩
      cases hlines : linesKeepingEnds cs with
      | nil => exact .last (hcons List.not_mem_nil)
      | cons line lines =>
        rw [hlines] at ih
        cases ih with
        | last h => exact .last (hcons h)
        | cons h hrest => exact .cons (hcons h) hrest

/-- In each of the lines a line feed stands at the end, if anywhere. -/
lemma line_of_mem {lines : List (List Char)} (h : Lines lines) (hline : line ∈ lines) :
    Line line := by
  induction h with
  | nil => cases hline
  | last h =>
    obtain rfl := List.mem_singleton.mp hline
    exact fun hmem => h (List.mem_of_mem_dropLast hmem)
  | cons h _ ih =>
    rcases List.mem_cons.mp hline with rfl | hrest
    · rwa [Line, List.dropLast_concat]
    · exact ih hrest

/-- In front of other characters of a line there is no line feed. -/
lemma Line.tail {d : Char} {ds : List Char} (h : Line (c :: d :: ds)) :
    c ≠ '\n' ∧ Line (d :: ds) := by
  rw [Line, List.dropLast_cons_of_ne_nil (List.cons_ne_nil _ _), List.mem_cons, not_or] at h
  exact ⟨Ne.symm h.1, h.2⟩

/-- What is left of a line behind a character is a line. -/
lemma Line.rest (h : Line (c :: s)) : Line s := by
  cases s with
  | nil => exact List.not_mem_nil
  | cons d ds => exact h.tail.2

/-- A line feed ends its line. -/
lemma Line.eq_nil (h : Line ('\n' :: s)) : s = [] := by
  cases s with
  | nil => rfl
  | cons d ds => exact absurd rfl h.tail.1

/-! ## What is kept of a line -/

/-- All of a line, or the line without a part that begins with two slashes, which do not stand
directly behind a colon, and reaches up to the line feed, and without white space in front of that
part. -/
def Uncommented (line kept : List Char) : Prop :=
  kept = line ∨ ∃ front blanks comment ending,
    line = front ++ blanks ++ '/' :: '/' :: comment ++ ending ∧ kept = front ++ ending ∧
      (front ++ blanks).getLast? ≠ some ':' ∧ (∀ c ∈ blanks, isBlank c = true) ∧
      '\n' ∉ blanks ++ comment ∧ (ending = [] ∨ ending = ['\n'])

/-- Two slashes meet in front of a text, and no colon stands in front of them. -/
def Fires (seen s : List Char) : Prop :=
  seen.head? = some '/' ∧ s.head? = some '/' ∧ seen.tail.head? ≠ some ':'

instance (seen s : List Char) : Decidable (Fires seen s) := inferInstanceAs (Decidable (_ ∧ _))

/-- Outside of quotes a line is cut at two slashes. -/
lemma beforeComment?_code (hc : ¬IsQuote c) : beforeComment? none seen (c :: s) =
    if Fires seen (c :: s) then some seen.tail.reverse else beforeComment? none (c :: seen) s := by
  rw [IsQuote] at hc
  rw [beforeComment?.eq_def]
  simp only [if_neg hc]
  split
  · next before =>
    exact (if_neg fun h => h.2.2 rfl).symm
  · next before hcolon =>
    refine (if_pos ⟨rfl, rfl, fun hhead => ?_⟩).symm
    obtain ⟨rest, rfl⟩ := List.head?_eq_some_iff.mp hhead
    exact hcolon rest rfl
  · next hcolon hslash =>
    refine (if_neg fun h => ?_).symm
    obtain ⟨before, rfl⟩ := List.head?_eq_some_iff.mp h.1
    exact hslash before (Option.some.inj h.2.1) rfl

/-- A quote outside of quotes opens a quoted text. -/
lemma beforeComment?_quote (hc : IsQuote c) :
    beforeComment? none seen (c :: s) = beforeComment? (some c) (c :: seen) s := by
  rw [beforeComment?.eq_def]
  exact if_pos hc

/-- The end of a line starts no comment. -/
lemma beforeComment?_newline : beforeComment? quote seen ['\n'] = none := by
  cases quote with
  | some q => rfl
  | none =>
    rw [beforeComment?_code (by decide), if_neg fun h => absurd h.2.1 (by decide)]
    rfl

/-- A comment is found at two slashes with no colon in front. -/
lemma exists_of_beforeComment? (h : beforeComment? quote seen s = some kept) :
    ∃ rest, seen.reverse ++ s = kept ++ '/' :: '/' :: rest ∧ kept.getLast? ≠ some ':' := by
  induction s generalizing quote seen with
  | nil => cases h
  | cons c s ih =>
    have hnext {quote : Option Char} (h : beforeComment? quote (c :: seen) s = some kept) :
        ∃ rest, seen.reverse ++ c :: s = kept ++ '/' :: '/' :: rest ∧
          kept.getLast? ≠ some ':' := by
      obtain ⟨rest, htext, hlast⟩ := ih h
      rw [List.reverse_cons, List.append_assoc, List.singleton_append] at htext
      exact ⟨rest, htext, hlast⟩
    cases quote with
    | some q => exact hnext h
    | none =>
      by_cases hc : IsQuote c
      · rw [beforeComment?_quote hc] at h
        exact hnext h
      · rw [beforeComment?_code hc] at h
        by_cases hfires : Fires seen (c :: s)
        · rw [if_pos hfires] at h
          obtain rfl := Option.some.inj h
          obtain ⟨hslash, hc, hcolon⟩ := hfires
          obtain ⟨before, rfl⟩ := List.head?_eq_some_iff.mp hslash
          obtain rfl := Option.some.inj hc
          refine ⟨s, ?_, ?_⟩
          · rw [List.reverse_cons, List.append_assoc]
            rfl
          · rwa [List.getLast?_reverse]
        · rw [if_neg hfires] at h
          exact hnext h

/-- What is trimmed off is white space. -/
lemma exists_trimEnd (s : List Char) :
    ∃ blanks, s = trimEnd s ++ blanks ∧ ∀ c ∈ blanks, isBlank c = true := by
  refine ⟨(s.reverse.takeWhile isBlank).reverse, ?_, ?_⟩
  · rw [trimEnd, ← List.reverse_append, List.takeWhile_append_dropWhile, List.reverse_reverse]
  · intro c hc
    exact List.mem_takeWhile_imp (List.mem_reverse.mp hc)

/-- Behind a slash a line reaches up to its line feed. -/
lemma Line.exists_ending {front rest : List Char} (h : Line (front ++ '/' :: rest)) :
    ∃ comment ending, rest = comment ++ ending ∧ '\n' ∉ front ++ '/' :: comment ∧
      ending = if (front ++ '/' :: rest).getLast? = some '\n' then ['\n'] else [] := by
  rcases List.eq_nil_or_concat rest with rfl | ⟨comment, c, rfl⟩
  · rw [Line, List.dropLast_concat] at h
    refine ⟨[], [], rfl, ?_, ?_⟩
    · rw [List.mem_append, List.mem_singleton, not_or]
      exact ⟨h, by decide⟩
    · rw [List.getLast?_concat]
      rfl
  · have htext : front ++ '/' :: comment.concat c = front ++ '/' :: comment ++ [c] := by simp
    rw [htext, Line, List.dropLast_concat] at h
    rw [htext, List.getLast?_concat, List.concat_eq_append]
    by_cases hc : c = '\n'
    · exact ⟨comment, ['\n'], by rw [hc], h, by rw [hc, if_pos rfl]⟩
    · refine ⟨comment ++ [c], [], (List.append_nil _).symm, ?_, ?_⟩
      · rw [← List.cons_append, ← List.append_assoc, List.mem_append, List.mem_singleton, not_or]
        exact ⟨h, Ne.symm hc⟩
      · exact (if_neg fun heq => hc (Option.some.inj heq)).symm

/-- A line is kept, or it is cut at its comment. -/
lemma stripLine_uncommented (hline : Line line) : Uncommented line (stripLine line) := by
  rw [stripLine]
  cases hcut : beforeComment? none [] line with
  | none => exact .inl rfl
  | some kept =>
    obtain ⟨rest, htext, hcolon⟩ := exists_of_beforeComment? hcut
    obtain ⟨blanks, hkept, hblanks⟩ := exists_trimEnd kept
    have htext : line = (kept ++ ['/']) ++ '/' :: rest := by
      rw [List.append_assoc, List.singleton_append]
      exact htext
    rw [htext] at hline
    obtain ⟨comment, ending, rfl, hnone, hending⟩ := hline.exists_ending
    rw [← htext] at hending
    refine .inr ⟨trimEnd kept, blanks, comment, ending, ?_, ?_, ?_, hblanks, ?_, ?_⟩
    · rw [htext, ← hkept]
      simp
    · rw [hending]
    · rwa [← hkept]
    · rw [hkept] at hnone
      simp only [List.mem_append, List.mem_cons, not_or] at hnone ⊢
      exact ⟨hnone.1.1.2, hnone.2.2⟩
    · rw [hending]
      split_ifs
      · exact .inr rfl
      · exact .inl rfl

/-- The line feed of a line stays. -/
lemma Uncommented.count (h : Uncommented line kept) : kept.count '\n' = line.count '\n' := by
  obtain rfl | ⟨front, blanks, comment, ending, rfl, rfl, -, -, hnone, -⟩ := h
  · rfl
  · rw [List.mem_append, not_or] at hnone
    have hblanks := List.count_eq_zero.mpr hnone.1
    have hcomment := List.count_eq_zero.mpr hnone.2
    simp [hblanks, hcomment]

/-- Texts that are kept of lines have the line feeds of these. -/
lemma count_flatten {lines texts : List (List Char)} (h : List.Forall₂ Uncommented lines texts) :
    texts.flatten.count '\n' = lines.flatten.count '\n' := by
  induction h with
  | nil => rfl
  | cons hline _ ih =>
    rw [List.flatten_cons, List.flatten_cons, List.count_append, List.count_append, hline.count, ih]

end LiveBundle.Style
