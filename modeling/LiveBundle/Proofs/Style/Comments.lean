import LiveBundle.Proofs.Style.CommentLines

/-!
# Line comments in a text that is read as a whole

Line comments are looked for in each line on its own, by quotes and slashes. Whether something is a
comment depends on what the lines before have opened, and on more than quotes. Both agree on lines
that show what they hold.

* `erase` takes the line comments out of a text that is read as a whole;
* `Tidy` describes the texts of which all lines with two slashes show what they hold: quotes stand
  only around and in strings, no string ends with a backslash in front of its quote, two slashes
  stand only in strings, behind colons and in front of line comments;
* `stripLineComments_eq`: each line is uncommented, and tidy texts lose their line comments only.
-/

namespace LiveBundle.Style

open Scan
open Text (isBlank linesKeepingEnds trimEnd)

variable {p : Point} {c : Char} {next : Option Char} {seen s line kept : List Char}
  {m : Char × Kind} {ms ms' : List (Char × Kind)}

/-! ## Taking out the line comments -/

/-- White space inside a line that belongs to nothing. -/
def Space (m : Char × Kind) : Bool := decide (m.2 = .code) && isBlank m.1 && m.1 != '\n'

/-- A line comment stands behind any such white space. -/
def Precedes (ms : List (Char × Kind)) : Prop :=
  (ms.dropWhile Space).head?.map Prod.snd = some .lineComment

instance : DecidablePred Precedes := fun _ => inferInstanceAs (Decidable (_ = some _))

/-- A text without its line comments and the white space in front of them. -/
def erase : List (Char × Kind) → List Char
  | [] => []
  | m :: ms =>
    if m.2 = .lineComment ∨ (Space m = true ∧ Precedes ms) then erase ms else m.1 :: erase ms

/-- What stands in front of the first line comment, if there is one. -/
def beforeMark? : List (Char × Kind) → Option (List Char)
  | [] => none
  | m :: ms => if m.2 = .lineComment then some [] else (beforeMark? ms).map (m.1 :: ·)

lemma map_fst_marks (p : Point) (s : List Char) : (marks true p s).map Prod.fst = s := by
  induction s generalizing p with
  | nil => rfl
  | cons c cs ih => rw [marks, List.map_cons, ih]

lemma not_precedes (h : beforeMark? ms = none) : ¬Precedes ms := by
  induction ms with
  | nil => exact fun h => nomatch h
  | cons m ms ih =>
    rw [beforeMark?] at h
    by_cases hm : m.2 = .lineComment
    · rw [if_pos hm] at h
      cases h
    · rw [if_neg hm, Option.map_eq_none_iff] at h
      rw [Precedes, List.dropWhile_cons]
      by_cases hspace : Space m = true
      · rw [if_pos hspace]
        exact ih h
      · rw [if_neg hspace]
        exact fun hhead => hm (Option.some.inj hhead)

lemma erase_eq_self (h : beforeMark? ms = none) : erase ms = ms.map Prod.fst := by
  induction ms with
  | nil => rfl
  | cons m ms ih =>
    rw [beforeMark?] at h
    by_cases hm : m.2 = .lineComment
    · rw [if_pos hm] at h
      cases h
    · rw [if_neg hm, Option.map_eq_none_iff] at h
      rw [erase, if_neg (not_or.mpr ⟨hm, fun h' => not_precedes h h'.2⟩), ih h, List.map_cons]

/-- White space in front of a line comment does not reach over the end of a line. -/
lemma erase_append (k : Kind) (ms ms' : List (Char × Kind)) :
    erase (ms ++ ('\n', k) :: ms') = erase (ms ++ [('\n', k)]) ++ erase ms' := by
  have hnewline : Space ('\n', k) = false := by simp [Space]
  have hprecedes (ms : List (Char × Kind)) :
      Precedes (ms ++ ('\n', k) :: ms') ↔ Precedes (ms ++ [('\n', k)]) := by
    rw [Precedes, Precedes, List.dropWhile_append, List.dropWhile_append,
      List.dropWhile_cons_of_neg (by rw [hnewline]; exact Bool.false_ne_true),
      List.dropWhile_cons_of_neg (by rw [hnewline]; exact Bool.false_ne_true)]
    split_ifs with hempty
    · rfl
    · obtain ⟨m, rest, hrest⟩ := List.exists_cons_of_ne_nil (mt List.isEmpty_iff.mpr hempty)
      rw [hrest]
      rfl
  induction ms with
  | nil =>
    simp only [List.nil_append, erase, hnewline, Bool.false_eq_true, false_and, or_false]
    split_ifs <;> rfl
  | cons m ms ih =>
    simp only [List.cons_append, erase, hprecedes, ih]
    split_ifs <;> rfl

/-! ## Tidy lines -/

/-- The quote of the string that is open. -/
def quoteOf : Mode → Option Char
  | .string quote => some quote.val
  | _ => none

/-- A quote opens a string, and two slashes that are not behind a colon begin a line comment. -/
def Shows (p : Point) (c : Char) (next : Option Char) : Prop :=
  (IsQuote c → (p.read true c next).1 = .string) ∧
    (c = '/' → next = some '/' → p.seen.head? ≠ some ':' → (p.read true c next).1 = .lineComment)

instance (p : Point) (c : Char) (next : Option Char) : Decidable (Shows p c next) :=
  inferInstanceAs (Decidable (_ ∧ _))

/-- A string ends with its line or with a quote that has no backslash in front. -/
def Ends (quote : Subtype IsQuote) (seen : List Char) (c : Char) : Prop :=
  (Breaks seen c → c = '\n') ∧ (c = quote.val → seen.head? = some '\\' → Escaped seen)

instance (quote : Subtype IsQuote) (seen : List Char) (c : Char) : Decidable (Ends quote seen c) :=
  inferInstanceAs (Decidable (_ ∧ _))

/-- What a character seems to be is what it is. -/
def Fair (p : Point) (c : Char) (next : Option Char) : Prop :=
  match p.mode with
  | .string quote => Ends quote p.seen c
  | .lineComment => True
  | .code | .opening | .comment _ | .bracket | .address => Shows p c next

instance decidableFair : (p : Point) → (c : Char) → (next : Option Char) → Decidable (Fair p c next)
  | ⟨.string quote, seen⟩, c, _ => inferInstanceAs (Decidable (Ends quote seen c))
  | ⟨.lineComment, _⟩, _, _ => .isTrue trivial
  | ⟨.code, seen⟩, c, next => inferInstanceAs (Decidable (Shows ⟨.code, seen⟩ c next))
  | ⟨.opening, seen⟩, c, next => inferInstanceAs (Decidable (Shows ⟨.opening, seen⟩ c next))
  | ⟨.comment star, seen⟩, c, next =>
    inferInstanceAs (Decidable (Shows ⟨.comment star, seen⟩ c next))
  | ⟨.bracket, seen⟩, c, next => inferInstanceAs (Decidable (Shows ⟨.bracket, seen⟩ c next))
  | ⟨.address, seen⟩, c, next => inferInstanceAs (Decidable (Shows ⟨.address, seen⟩ c next))

/-- All characters of a line are what they seem to be. -/
def FairLine : Point → List Char → Prop
  | _, [] => True
  | p, c :: cs => Fair p c cs.head? ∧ FairLine (p.next true c cs.head?) cs

instance decidableFairLine : (p : Point) → (line : List Char) → Decidable (FairLine p line)
  | _, [] => .isTrue trivial
  | p, c :: cs =>
    haveI := decidableFairLine (p.next true c cs.head?) cs
    inferInstanceAs (Decidable (Fair p c cs.head? ∧ FairLine (p.next true c cs.head?) cs))

/-- Lines with two slashes begin outside of strings and are fair. -/
def TidyLines : Point → List (List Char) → Prop
  | _, [] => True
  | p, line :: lines =>
    (['/', '/'] <:+: line → quoteOf p.mode = none ∧ FairLine p line) ∧
      TidyLines (p.after true line) lines

instance decidableTidyLines :
    (p : Point) → (lines : List (List Char)) → Decidable (TidyLines p lines)
  | _, [] => .isTrue trivial
  | p, line :: lines =>
    haveI := decidableTidyLines (p.after true line) lines
    inferInstanceAs (Decidable ((['/', '/'] <:+: line → quoteOf p.mode = none ∧ FairLine p line) ∧
      TidyLines (p.after true line) lines))

/-- The lines of a text show what they hold. -/
def Tidy (s : List Char) : Prop := TidyLines .start (linesKeepingEnds s)

instance : DecidablePred Tidy := fun s =>
  inferInstanceAs (Decidable (TidyLines .start (linesKeepingEnds s)))

lemma escaped_head (h : Escaped seen) : seen.head? = some '\\' := by
  cases seen with
  | nil => exact absurd h (by decide)
  | cons c seen =>
    by_cases hc : c = '\\'
    · rw [hc]
      rfl
    · rw [Escaped, List.takeWhile_cons_of_neg (by simpa using hc)] at h
      exact absurd h (by decide)

/-! ## Reading a line -/

/-- What can be read outside of strings and line comments, and what is open then. -/
inductive Outside (p : Point) (c : Char) (next : Option Char) : Kind × Mode → Prop where
  | opens (h : IsQuote c) : Outside p c next (.string, .string ⟨c, h⟩)
  | comments (hmode : p.mode = .code) (hc : c = '/') (hnext : next = some '/')
      (hcolon : p.seen.head? ≠ some ':') : Outside p c next (.lineComment, .lineComment)
  | stays {k : Kind} {mode : Mode} (hstring : k ≠ .string) (hcomment : k ≠ .lineComment)
      (hquote : quoteOf mode = none) (hmode : mode ≠ .lineComment) : Outside p c next (k, mode)

lemma read_outside (c : Char) (next : Option Char) (hquote : quoteOf p.mode = none)
    (hmode : p.mode ≠ .lineComment) :
    Outside p c next (p.read true c next) := by
  have hstays {k : Kind} {mode : Mode} (h : k ≠ .string ∧ k ≠ .lineComment)
      (h' : quoteOf mode = none ∧ mode ≠ .lineComment) : Outside p c next (k, mode) :=
    .stays h.1 h.2 h'.1 h'.2
  rw [Point.read]
  split
  · next hcode =>
    split_ifs with hq _ hslash
    · exact .opens hq.1
    · exact hstays (by decide) (by decide)
    · exact .comments hcode hslash.2.1 hslash.2.2.1 hslash.2.2.2
    · exact hstays (by decide) (by decide)
    · exact hstays (by decide) (by decide)
  · next quote hstring =>
    rw [hstring] at hquote
    cases hquote
  · exact hstays (by decide) (by decide)
  · split_ifs
    · exact hstays (by decide) (by decide)
    · exact hstays (by decide) ⟨rfl, Mode.noConfusion⟩
  · split_ifs with _ hq
    · exact hstays (by decide) (by decide)
    · exact .opens hq
    · exact hstays (by decide) (by decide)
    · exact hstays (by decide) (by decide)
  · split_ifs
    · exact hstays (by decide) (by decide)
    · exact hstays (by decide) (by decide)
  · next hcomment => exact absurd hcomment hmode

lemma Fair.shows (h : Fair p c next) (hquote : quoteOf p.mode = none)
    (hmode : p.mode ≠ .lineComment) : Shows p c next := by
  obtain ⟨mode, seen⟩ := p
  cases mode with
  | string quote => cases hquote
  | lineComment => exact absurd rfl hmode
  | code | opening | comment star | bracket | address => exact h

lemma exists_of_quoteOf {mode : Mode} {q : Char} (h : quoteOf mode = some q) :
    ∃ quote : Subtype IsQuote, mode = .string quote ∧ quote.val = q := by
  cases mode with
  | string quote => exact ⟨quote, rfl, Option.some.inj h⟩
  | _ => cases h

/-- A line comment begins with two slashes outside of everything. -/
lemma read_lineComment (c : Char) (next : Option Char) (hmode : p.mode ≠ .lineComment) :
    ((p.read true c next).1 ≠ .lineComment ∧ (p.read true c next).2 ≠ .lineComment) ∨
      (p.read true c next = (.lineComment, .lineComment) ∧ p.mode = .code ∧ c = '/' ∧
        next = some '/') := by
  cases hquote : quoteOf p.mode with
  | none =>
    have hread := read_outside c next hquote hmode
    cases hr : p.read true c next with
    | mk k mode =>
    rw [hr] at hread
    cases hread with
    | opens h => exact .inl ⟨Kind.noConfusion, Mode.noConfusion⟩
    | comments hcode hc hnext => exact .inr ⟨rfl, hcode, hc, hnext⟩
    | stays _ hk _ hmode' => exact .inl ⟨hk, hmode'⟩
  | some q =>
    obtain ⟨quote, hstring, -⟩ := exists_of_quoteOf hquote
    refine .inl ?_
    rw [Point.read, hstring]
    simp only
    split_ifs
    · exact ⟨by decide, by decide⟩
    · exact ⟨by decide, by decide⟩
    · exact ⟨Kind.noConfusion, Mode.noConfusion⟩

/-- What the removal does at a character, and what this is read as. -/
inductive Step (p : Point) (c : Char) (s : List Char) : Prop where
  | found {mode : Mode} (hread : p.read true c s.head? = (.lineComment, mode))
      (h : beforeComment? (quoteOf p.mode) p.seen (c :: s) = some p.seen.reverse)
  | next {k : Kind} {mode : Mode} (hread : p.read true c s.head? = (k, mode))
      (hk : k ≠ .lineComment) (hmode : mode ≠ .lineComment)
      (hfires : quoteOf mode = none → ¬Fires (c :: p.seen) s)
      (h : beforeComment? (quoteOf p.mode) p.seen (c :: s) =
        beforeComment? (quoteOf mode) (c :: p.seen) s)

lemma step_outside (hquote : quoteOf p.mode = none) (hmode : p.mode ≠ .lineComment)
    (hfair : Fair p c s.head?) (hfires : ¬Fires p.seen (c :: s)) : Step p c s := by
  obtain ⟨hopens, hslash⟩ := hfair.shows hquote hmode
  have hread := read_outside c s.head? hquote hmode
  cases hr : p.read true c s.head? with
  | mk k mode =>
  rw [hr] at hopens hslash hread
  cases hread with
  | opens hc =>
    refine .next hr Kind.noConfusion Mode.noConfusion
      (fun hnone => absurd hnone (Option.some_ne_none _)) ?_
    rw [hquote, beforeComment?_quote hc]
    rfl
  | comments _ hc hhead hcolon =>
    refine .found hr ?_
    obtain ⟨rest, rfl⟩ := List.head?_eq_some_iff.mp hhead
    have hcut : Fires (c :: p.seen) ('/' :: rest) := ⟨congrArg some hc, rfl, hcolon⟩
    have hplain : ¬IsQuote c := by
      rw [hc]
      decide
    rw [hquote, beforeComment?_code hplain, if_neg hfires, beforeComment?_code (by decide),
      if_pos hcut, List.tail_cons]
  | stays hstring hcomment hquote' hmode' =>
    have hplain : ¬IsQuote c := fun hc => hstring (hopens hc)
    refine .next hr hcomment hmode' ?_ ?_
    · intro _ h
      exact hcomment (hslash (Option.some.inj h.1) h.2.1 h.2.2)
    · rw [hquote, hquote', beforeComment?_code hplain, if_neg hfires]

lemma step_string {quote : Subtype IsQuote} (hstring : p.mode = .string quote)
    (hfair : Fair p c s.head?) (hc : c ≠ '\n') : Step p c s := by
  rw [Fair, hstring] at hfair
  obtain ⟨hbreaks, hescaped⟩ := hfair
  have hb : ¬Breaks p.seen c := fun h => hc (hbreaks h)
  by_cases hclose : c = quote.val ∧ ¬Escaped p.seen
  · have hr : p.read true c s.head? = (.string, .code) := by
      rw [Point.read, hstring]
      simp only [if_neg hb, if_pos hclose]
    have hhead : p.seen.head? ≠ some '\\' := mt (hescaped hclose.1) hclose.2
    refine .next hr Kind.noConfusion Mode.noConfusion ?_ ?_
    · intro _ h
      have hisQuote : IsQuote c := hclose.1 ▸ quote.property
      rw [Option.some.inj h.1] at hisQuote
      exact absurd hisQuote (by decide)
    · rw [hstring, quoteOf, beforeComment?, if_pos ⟨hclose.1, hhead⟩]
      rfl
  · have hr : p.read true c s.head? = (.string, .string quote) := by
      rw [Point.read, hstring]
      simp only [if_neg hb, if_neg hclose]
    refine .next hr Kind.noConfusion Mode.noConfusion
      (fun hnone => absurd hnone (Option.some_ne_none _)) ?_
    rw [hstring, quoteOf, beforeComment?,
      if_neg fun h => hclose ⟨h.1, fun h' => h.2 (escaped_head h')⟩]

/-- The removal finds in a fair line what is marked. -/
lemma beforeComment?_eq (hmode : p.mode ≠ .lineComment) (hfair : FairLine p line)
    (hline : Line line) (hfires : quoteOf p.mode = none → ¬Fires p.seen line) :
    beforeComment? (quoteOf p.mode) p.seen line =
      (beforeMark? (marks true p line)).map (p.seen.reverse ++ ·) := by
  induction line generalizing p with
  | nil => rfl
  | cons c cs ih =>
    by_cases hc : c = '\n'
    · -- A line feed is the last character and begins no comment.
      rw [hc] at hline ⊢
      rw [hline.eq_nil]
      rcases read_lineComment '\n' none hmode with ⟨hk, -⟩ | ⟨-, -, hslash, -⟩
      · rw [beforeComment?_newline, marks, beforeMark?, List.head?_nil, if_neg hk]
        rfl
      · exact absurd hslash (by decide)
    · have hstep : Step p c cs := by
        cases hquote : quoteOf p.mode with
        | none => exact step_outside hquote hmode hfair.1 (hfires hquote)
        | some q =>
          obtain ⟨quote, hstring, -⟩ := exists_of_quoteOf hquote
          exact step_string hstring hfair.1 hc
      rw [marks, beforeMark?]
      cases hstep with
      | found hread h =>
        rw [h, hread, if_pos rfl, Option.map_some, List.append_nil]
      | @next k mode hread hk hmode' hfires' h =>
        have hnext : p.next true c cs.head? = ⟨mode, c :: p.seen⟩ := by
          rw [Point.next, hread, lineBehind, if_neg hc]
        have hrest := hfair.2
        rw [hnext] at hrest
        have hbehind := ih hmode' hrest hline.rest hfires'
        rw [h, hbehind, hread, if_neg hk, hnext, Option.map_map]
        simp only [List.reverse_cons, List.append_assoc, List.singleton_append]
        rfl

/-! ## Erasing in a line -/

/-- White space closes nothing. -/
lemma read_blank (hblank : isBlank c = true) (hc : c ≠ '\n') (hfair : Fair p c next)
    (hcode : (p.read true c next).2 = .code) : p.mode = .code ∧ (p.read true c next).1 = .code := by
  have hne (d : Char) (hd : isBlank d = false) : c ≠ d := by
    rintro rfl
    rw [hblank] at hd
    cases hd
  have hquote : ¬IsQuote c := by
    rw [IsQuote, not_or]
    exact ⟨hne _ (by decide), hne _ (by decide)⟩
  have hslash := hne '/' (by decide)
  have hbracket := hne ')' (by decide)
  obtain ⟨mode, seen⟩ := p
  cases mode with
  | code => exact ⟨rfl, congrArg Prod.fst (read_plain ⟨hquote, hslash, hne '(' (by decide)⟩ rfl)⟩
  | string quote =>
    have hb : ¬Breaks seen c := fun h => hc (hfair.1 h)
    have hclose : ¬(c = quote.val ∧ ¬Escaped seen) := fun h => hquote (h.1 ▸ quote.property)
    simp only [Point.read, if_neg hb, if_neg hclose] at hcode
    cases hcode
  | opening => cases hcode
  | comment star =>
    simp only [Point.read, hslash, and_false, if_false] at hcode
    cases hcode
  | bracket =>
    simp only [Point.read, hquote, hbracket, dite_false, if_false] at hcode
    split_ifs at hcode
  | address =>
    simp only [Point.read, hbracket, false_and, if_false] at hcode
    cases hcode
  | lineComment =>
    simp only [Point.read, hc, if_false] at hcode
    cases hcode

lemma trimEnd_eq_nil : trimEnd s = [] ↔ ∀ c ∈ s, isBlank c = true := by
  rw [trimEnd, List.reverse_eq_nil_iff, List.dropWhile_eq_nil_iff]
  simp only [List.mem_reverse]

lemma trimEnd_cons (c : Char) (s : List Char) :
    trimEnd (c :: s) = if isBlank c = true ∧ trimEnd s = [] then [] else c :: trimEnd s := by
  have hempty : trimEnd s = [] ↔ s.reverse.dropWhile isBlank = [] := List.reverse_eq_nil_iff
  simp only [hempty]
  rw [trimEnd, trimEnd, List.reverse_cons, List.dropWhile_append]
  by_cases hs : s.reverse.dropWhile isBlank = []
  · rw [if_pos (List.isEmpty_iff.mpr hs), hs, List.dropWhile_cons]
    simp only [and_true]
    split_ifs <;> rfl
  · rw [if_neg (mt List.isEmpty_iff.mp hs), if_neg fun h => hs h.2]
    simp

/-- In front of a line comment that white space precedes stands this white space. -/
lemma blank_of_precedes (h : Precedes ms) (hkept : beforeMark? ms = some kept) :
    ∀ c ∈ kept, isBlank c = true := by
  induction ms generalizing kept with
  | nil => cases h
  | cons m ms ih =>
    rw [beforeMark?] at hkept
    by_cases hm : m.2 = .lineComment
    · rw [if_pos hm] at hkept
      obtain rfl := Option.some.inj hkept
      exact fun c hc => nomatch hc
    · rw [if_neg hm, Option.map_eq_some_iff] at hkept
      obtain ⟨rest, hrest, rfl⟩ := hkept
      rw [Precedes, List.dropWhile_cons] at h
      by_cases hspace : Space m = true
      · rw [if_pos hspace] at h
        rw [Space, Bool.and_eq_true, Bool.and_eq_true] at hspace
        exact List.forall_mem_cons.mpr ⟨hspace.1.2, ih h hrest⟩
      · rw [if_neg hspace] at h
        exact absurd (Option.some.inj h) hm

/-- Something is read behind a character in front of a line comment. -/
lemma Line.ne_of_beforeMark? (h : Line (c :: s))
    (hkept : beforeMark? (marks true p s) = some kept) : c ≠ '\n' := by
  cases s with
  | nil => cases hkept
  | cons d ds => exact h.tail.1

/-- White space in front of a line comment belongs to nothing. -/
lemma precedes_of_blank (hmode : p.mode ≠ .lineComment) (hfair : FairLine p line)
    (hline : Line line) (hkept : beforeMark? (marks true p line) = some kept)
    (hblank : ∀ c ∈ kept, isBlank c = true) : p.mode = .code ∧ Precedes (marks true p line) := by
  induction line generalizing p kept with
  | nil => cases hkept
  | cons c cs ih =>
    rw [marks, beforeMark?] at hkept
    rw [marks, Precedes, List.dropWhile_cons]
    rcases read_lineComment c cs.head? hmode with ⟨hk, hnext⟩ | ⟨hr, hcode, -⟩
    · rw [if_neg hk, Option.map_eq_some_iff] at hkept
      obtain ⟨rest, hrest, rfl⟩ := hkept
      obtain ⟨hc, hblank⟩ := List.forall_mem_cons.mp hblank
      obtain ⟨hcode, hprecedes⟩ := ih hnext hfair.2 hline.rest hrest hblank
      have hnewline := hline.ne_of_beforeMark? hrest
      obtain ⟨hcode, hkind⟩ := read_blank hc hnewline hfair.1 hcode
      have hspace : Space (c, (p.read true c cs.head?).1) = true := by
        simp [Space, hkind, hc, hnewline]
      rw [if_pos hspace]
      exact ⟨hcode, hprecedes⟩
    · rw [hr, if_neg (by simp [Space])]
      exact ⟨hcode, rfl⟩

lemma getLast?_cons_newline (hc : c ≠ '\n') :
    (c :: s).getLast? = some '\n' ↔ s.getLast? = some '\n' := by
  cases s with
  | nil => exact iff_of_false (fun h => hc (Option.some.inj h)) fun h => nomatch h
  | cons d ds => rw [List.getLast?_cons_cons]

/-- Of a line comment the line feed behind it is left. -/
lemma erase_lineComment (hmode : p.mode = .lineComment) (hline : Line line) :
    erase (marks true p line) = if line.getLast? = some '\n' then ['\n'] else [] := by
  induction line generalizing p with
  | nil => rfl
  | cons c cs ih =>
    have hread : p.read true c cs.head? =
        if c = '\n' then (.code, .code) else (.lineComment, .lineComment) := by
      rw [Point.read, hmode]
    by_cases hc : c = '\n'
    · cases cs with
      | nil =>
        rw [marks, marks, hread, if_pos hc, hc]
        rfl
      | cons d ds => exact absurd hc hline.tail.1
    · rw [if_neg hc] at hread
      rw [marks, erase, hread, if_pos (.inl rfl), ih (by rw [Point.next, hread]) hline.rest]
      simp only [getLast?_cons_newline hc]

/-- A line comment is erased together with the white space in front of it. -/
lemma erase_marks (hmode : p.mode ≠ .lineComment) (hfair : FairLine p line) (hline : Line line)
    (hkept : beforeMark? (marks true p line) = some kept) :
    erase (marks true p line) =
      trimEnd kept ++ if line.getLast? = some '\n' then ['\n'] else [] := by
  induction line generalizing p kept with
  | nil => cases hkept
  | cons c cs ih =>
    rw [marks, beforeMark?] at hkept
    rw [marks, erase]
    rcases read_lineComment c cs.head? hmode with
      ⟨hk, hnext⟩ | ⟨hr, -, hc, -⟩
    · rw [if_neg hk, Option.map_eq_some_iff] at hkept
      obtain ⟨rest, hrest, rfl⟩ := hkept
      have hnewline := hline.ne_of_beforeMark? hrest
      have hdropped : ((p.read true c cs.head?).1 = .lineComment ∨
          Space (c, (p.read true c cs.head?).1) = true ∧
            Precedes (marks true (p.next true c cs.head?) cs)) ↔
          isBlank c = true ∧ trimEnd rest = [] := by
        rw [trimEnd_eq_nil]
        constructor
        · rintro (h | ⟨hspace, hprecedes⟩)
          · exact absurd h hk
          · rw [Space, Bool.and_eq_true, Bool.and_eq_true] at hspace
            exact ⟨hspace.1.2, blank_of_precedes hprecedes hrest⟩
        · intro h
          obtain ⟨hc, hblank⟩ := h
          obtain ⟨hcode, hprecedes⟩ :=
            precedes_of_blank hnext hfair.2 hline.rest hrest hblank
          obtain ⟨-, hkind⟩ := read_blank hc hnewline hfair.1 hcode
          exact .inr ⟨by simp [Space, hkind, hc, hnewline], hprecedes⟩
      simp only [hdropped, trimEnd_cons, getLast?_cons_newline hnewline,
        ih hnext hfair.2 hline.rest hrest]
      split_ifs with hempty
      · rw [hempty.2]
      · rw [hempty.2]
      · rfl
      · rfl
    · rw [hr, if_pos rfl] at hkept
      obtain rfl := Option.some.inj hkept
      have hc : c ≠ '\n' := by
        rw [hc]
        decide
      rw [hr, if_pos (.inl rfl), erase_lineComment (by rw [Point.next, hr]) hline.rest]
      simp only [getLast?_cons_newline hc]
      rfl

/-- Without two slashes there is no line comment. -/
lemma beforeMark?_eq_none (hmode : p.mode ≠ .lineComment) (hline : ¬['/', '/'] <:+: line) :
    beforeMark? (marks true p line) = none := by
  induction line generalizing p with
  | nil => rfl
  | cons c cs ih =>
    rw [marks, beforeMark?]
    rcases read_lineComment c cs.head? hmode with
      ⟨hk, hnext⟩ | ⟨-, -, hc, hhead⟩
    · rw [if_neg hk, ih hnext fun h => hline (List.infix_cons h)]
      rfl
    · obtain ⟨rest, rfl⟩ := List.head?_eq_some_iff.mp hhead
      rw [hc] at hline
      exact absurd ⟨[], rest, rfl⟩ hline

/-! ## Texts -/

lemma stripLine_eq (hmode : p.mode ≠ .lineComment) (hseen : p.seen = []) (hline : Line line)
    (htidy : ['/', '/'] <:+: line → quoteOf p.mode = none ∧ FairLine p line) :
    stripLine line = erase (marks true p line) := by
  rw [stripLine]
  by_cases hslash : ['/', '/'] <:+: line
  · obtain ⟨hquote, hfair⟩ := htidy hslash
    have hfound := beforeComment?_eq hmode hfair hline fun _ h => by
      rw [Fires, hseen] at h
      cases h.1
    rw [hquote, hseen] at hfound
    rw [hfound]
    cases hkept : beforeMark? (marks true p line) with
    | none =>
      rw [erase_eq_self hkept, map_fst_marks]
      rfl
    | some kept =>
      rw [erase_marks hmode hfair hline hkept]
      rfl
  · have hfound : beforeComment? none [] line = none := by
      rw [Option.eq_none_iff_forall_ne_some]
      intro kept hkept
      obtain ⟨rest, htext, -⟩ := exists_of_beforeComment? hkept
      refine hslash ⟨kept, rest, ?_⟩
      rw [List.append_assoc]
      exact htext.symm
    rw [hfound, erase_eq_self (beforeMark?_eq_none hmode hslash), map_fst_marks]

/-- A line comment does not reach over a line feed. -/
lemma mode_after_newline (p : Point) (s : List Char) :
    (p.after true (s ++ ['\n'])).mode ≠ .lineComment := by
  induction s generalizing p with
  | nil =>
    show (p.read true '\n' none).2 ≠ .lineComment
    by_cases hmode : p.mode = .lineComment
    · rw [Point.read, hmode]
      exact Mode.noConfusion
    · rcases read_lineComment '\n' none hmode with h | ⟨-, -, hc, -⟩
      · exact h.2
      · exact absurd hc (by decide)
  | cons c s ih => exact ih _

/-- Tidy lines lose exactly their line comments. -/
lemma flatMap_stripLine {lines : List (List Char)} (hlines : Lines lines)
    (hmode : p.mode ≠ .lineComment) (hseen : p.seen = []) (htidy : TidyLines p lines) :
    lines.flatMap stripLine = erase (marks true p lines.flatten) := by
  induction hlines generalizing p with
  | nil => rfl
  | @last l h =>
    have hline : Line l := line_of_mem (.last h) List.mem_cons_self
    rw [List.flatMap_singleton, List.flatten_singleton]
    exact stripLine_eq hmode hseen hline htidy.1
  | @cons l lines h hlines ih =>
    have hline : Line (l ++ ['\n']) := line_of_mem (.cons h hlines) List.mem_cons_self
    obtain ⟨k, hk⟩ : ∃ k, marks true (p.after true l) ['\n'] = [('\n', k)] := ⟨_, rfl⟩
    rw [List.flatMap_cons, List.flatten_cons, marks_append (apart_line _ _),
      marks_append (apart_newline _ _), hk, List.append_assoc, List.singleton_append, erase_append,
      ← hk, ← marks_append (apart_newline _ _),
      ← stripLine_eq hmode hseen hline htidy.1,
      ← ih (mode_after_newline _ _) (seen_after_newline _ _ _) htidy.2]

/-- Each line of a text is kept but for a part behind two slashes and the white space in front of
it; line feeds stay. If all lines with two slashes begin outside of strings and show what they
hold, the line comments of the text are removed with the white space in front of them, and
nothing of its strings, comments and addresses is. -/
theorem stripLineComments_eq (source : List Char) :
    (stripLineComments source).count '\n' = source.count '\n' ∧
    (∃ kept, List.Forall₂ Uncommented (linesKeepingEnds source) kept ∧
      stripLineComments source = kept.flatten) ∧
    (Tidy source → stripLineComments source = erase (marks true .start source)) := by
  have hlines := lines_linesKeepingEnds source
  have hkept : List.Forall₂ Uncommented (linesKeepingEnds source)
      ((linesKeepingEnds source).map stripLine) := by
    rw [List.forall₂_map_right_iff, List.forall₂_same]
    exact fun line hline => stripLine_uncommented (line_of_mem hlines hline)
  have htext : stripLineComments source = ((linesKeepingEnds source).map stripLine).flatten :=
    List.flatMap_def
  refine ⟨?_, ⟨_, hkept, htext⟩, ?_⟩
  · rw [htext, count_flatten hkept, flatten_linesKeepingEnds]
  · intro htidy
    have herased := flatMap_stripLine hlines (p := .start) (by decide) rfl htidy
    rwa [flatten_linesKeepingEnds] at herased

namespace Comments

/-- A text with an address, slashes in a string and a quote in a comment over two lines. -/
def tidy : List Char :=
  ("// a\nb \x7b c: url(http://d); \x7d // it's\n" ++
    "/* it's\n */ e \x7b f: \"//\" '\\''; \x7d\t //").toList

/-- That text without its line comments. -/
def tidyKept : List Char :=
  ("\nb \x7b c: url(http://d); \x7d\n" ++
    "/* it's\n */ e \x7b f: \"//\" '\\''; \x7d").toList

/-- A text with a backslash at the end of a string, and slashes in another one. -/
def escaped : List Char := ".a::before \x7b content: \"\\\\\" \"//\"; \x7d".toList

end Comments

/-- Comments are removed, what looks like them is not. -/
theorem stripLineComments_eq_tidy :
    Tidy Comments.tidy ∧
      stripLineComments Comments.tidy = erase (marks true .start Comments.tidy) ∧
      stripLineComments Comments.tidy = Comments.tidyKept := by
  have htidy : Tidy Comments.tidy := by decide +kernel
  have herased := (stripLineComments_eq Comments.tidy).2.2 htidy
  have hkept : erase (marks true .start Comments.tidy) = Comments.tidyKept := by decide +kernel
  exact ⟨htidy, herased, herased.trans hkept⟩

/-- The slashes in a string are removed with its end. -/
theorem not_stripLineComments_escaped :
    erase (marks true .start Comments.escaped) = Comments.escaped ∧
      ((marks true .start Comments.escaped).drop 28).take 3 =
        [('/', .string), ('/', .string), ('"', .string)] ∧
      stripLineComments Comments.escaped = Comments.escaped.take 28 := by
  decide +kernel

end LiveBundle.Style
