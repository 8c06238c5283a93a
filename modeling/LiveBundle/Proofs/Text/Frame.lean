import LiveBundle.Diagnostic
import LiveBundle.Proofs.Path
import LiveBundle.Proofs.Text.Basic

/-!
# Places in lines

A byte offset is told to a reader as a line and a column, and a frame shows the line with a caret
below. For an offset at which a character begins, the line and the column are those of the
character, and the caret stands under it.

* `Line` is the line of a character in its text, `HoldsAt.exists_line` finds it;
* `Line.lineColumn_eq`: its number and the column of the character are told;
* `Line.fields_frame`: the last two lines of a frame.
-/

namespace LiveBundle.Text

/-! ## The line of a character -/

/-- The text above a line: nothing, or a text that ends with a line feed. -/
def EndsLine (above : List Char) : Prop := above = [] ∨ ∃ t, above = t ++ ['\n']

/-- The text below a line begins with the ending of the line, if there is one. A carriage return in
front of the line feed belongs to the ending. -/
inductive StartsBelow (line : List Char) : List Char → Prop
  | last : StartsBelow line []
  | lineFeed (below : List Char) (h : line.getLast? ≠ some '\r') : StartsBelow line ('\n' :: below)
  | carriageReturn (below : List Char) : StartsBelow line ('\r' :: '\n' :: below)

/-- A character in its line. -/
structure Line where
  above : List Char
  /-- The line in front of the character. -/
  front : List Char
  char : Char
  /-- The line behind the character. -/
  behind : List Char
  below : List Char
  endsLine : EndsLine above
  oneLine : '\n' ∉ front ++ char :: behind
  startsBelow : StartsBelow (front ++ char :: behind) below

namespace Line

/-- The line without its ending. -/
def text (l : Line) : List Char := l.front ++ l.char :: l.behind

/-- The text with the line. -/
def source (l : Line) : List Char := l.above ++ (l.text ++ l.below)

/-- The byte at which the character begins. -/
def offset (l : Line) : Nat := byteSize (l.above ++ l.front)

/-- The number of the line, from 1. -/
def number (l : Line) : Nat := l.above.count '\n' + 1

/-- The place of the character in its line, counted in characters from 1. -/
def column (l : Line) : Nat := l.front.length + 1

end Line

variable {s above front below line : List Char} {c : Char} {offset : Nat} {source : String}
  {l : Line}

/-- The text in front of a place up to its line. -/
lemma exists_endsLine (s : List Char) :
    ∃ above front, s = above ++ front ∧ EndsLine above ∧ '\n' ∉ front := by
  induction s with
  | nil => exact ⟨[], [], rfl, .inl rfl, List.not_mem_nil⟩
  | cons c cs ih =>
    obtain ⟨above, front, rfl, habove, hfront⟩ := ih
    rcases habove with rfl | ⟨t, rfl⟩
    · by_cases hc : c = '\n'
      · exact ⟨[c], front, rfl, .inr ⟨[], by rw [hc, List.nil_append]⟩, hfront⟩
      · exact ⟨[], c :: front, rfl, .inl rfl,
          List.not_mem_cons_of_ne_of_not_mem (Ne.symm hc) hfront⟩
    · exact ⟨c :: t ++ ['\n'], front, by simp, .inr ⟨c :: t, rfl⟩, hfront⟩

/-- The text behind a place up to the end of its line. -/
lemma exists_startsBelow (front s : List Char) (hc : c ≠ '\r') :
    ∃ behind below, s = behind ++ below ∧ '\n' ∉ behind ∧
      StartsBelow (front ++ c :: behind) below := by
  have hlast {t : List Char} (ht : t.getLast? ≠ some '\r') :
      (front ++ c :: t).getLast? ≠ some '\r' := by
    rw [List.getLast?_append_of_ne_nil _ (List.cons_ne_nil _ _)]
    cases t with
    | nil => simpa using hc
    | cons d ds => rwa [List.getLast?_cons_cons]
  cases hsplit : splitAt? '\n' s with
  | none => exact ⟨s, [], (List.append_nil s).symm, not_mem_of_splitAt? hsplit, .last⟩
  | some cut =>
    obtain ⟨line, below⟩ := cut
    obtain ⟨rfl, hline⟩ := splitAt?_eq_some_iff.mp hsplit
    -- A carriage return at the end of the line goes with the line feed.
    by_cases hreturn : line.getLast? = some '\r'
    · obtain ⟨behind, rfl⟩ := List.getLast?_eq_some_iff.mp hreturn
      refine ⟨behind, '\r' :: '\n' :: below, by simp, ?_, .carriageReturn below⟩
      exact fun h => hline (List.mem_append_left _ h)
    · exact ⟨line, '\n' :: below, rfl, hline, .lineFeed below (hlast hreturn)⟩

/-- A character that is no part of a line ending stands in a line. -/
lemma HoldsAt.exists_line (h : HoldsAt s offset c) (hfeed : c ≠ '\n') (hreturn : c ≠ '\r') :
    ∃ l : Line, l.source = s ∧ l.offset = offset ∧ l.char = c := by
  obtain ⟨before, after, rfl, rfl⟩ := h
  obtain ⟨above, front, rfl, habove, hfront⟩ := exists_endsLine before
  obtain ⟨behind, below, rfl, hbehind, hbelow⟩ := exists_startsBelow front after hreturn
  refine ⟨⟨above, front, c, behind, below, habove, ?_, hbelow⟩, ?_, rfl, rfl⟩
  · rw [List.mem_append, List.mem_cons]
    rintro (h | rfl | h)
    exacts [hfront h, hfeed rfl, hbehind h]
  · simp [Line.source, Line.text]

/-! ## Lines and columns -/

lemma lastLine_append (habove : EndsLine above) (hfront : '\n' ∉ front) :
    lastLine (above ++ front) = front := by
  have hrun : ∀ c ∈ front.reverse, decide (c ≠ '\n') = true := by
    intro c hc
    rw [decide_eq_true_eq]
    rintro rfl
    exact hfront (List.mem_reverse.mp hc)
  rw [lastLine, List.reverse_append, List.takeWhile_append_of_pos hrun]
  rcases habove with rfl | ⟨t, rfl⟩
  · simp
  · simp

lemma Line.front_line (l : Line) : '\n' ∉ l.front :=
  fun h => l.oneLine (List.mem_append_left _ h)

/-- The line and the column of an offset. -/
lemma Line.lineColumn_eq (h : l.source = source.toList) :
    lineColumn source l.offset = (l.number, l.column) := by
  have hsource : source.toList = l.above ++ l.front ++ (l.char :: l.behind ++ l.below) := by
    rw [← h, Line.source, Line.text]
    simp
  rw [lineColumn, hsource, Line.offset, bytesTake_append, lastLine_append l.endsLine l.front_line,
    List.count_append, List.count_eq_zero_of_not_mem l.front_line]
  rfl

/-! ## Lines by their numbers -/

lemma linesKeepingEnds_line (h : '\n' ∉ line) (t : List Char) :
    linesKeepingEnds (line ++ '\n' :: t) = (line ++ ['\n']) :: linesKeepingEnds t := by
  induction line with
  | nil => rfl
  | cons c cs ih =>
    obtain ⟨hc, hcs⟩ := List.ne_and_not_mem_of_not_mem_cons h
    rw [List.cons_append, linesKeepingEnds, if_neg (Ne.symm hc), ih hcs]
    rfl

lemma linesKeepingEnds_last (h : '\n' ∉ line) (hne : line ≠ []) :
    linesKeepingEnds line = [line] := by
  induction line with
  | nil => exact absurd rfl hne
  | cons c cs ih =>
    obtain ⟨hc, hcs⟩ := List.ne_and_not_mem_of_not_mem_cons h
    rw [linesKeepingEnds, if_neg (Ne.symm hc)]
    cases cs with
    | nil => rfl
    | cons d ds => rw [ih hcs (List.cons_ne_nil d ds)]

/-- Each line feed ends one line. -/
lemma drop_linesKeepingEnds (t s : List Char) :
    (linesKeepingEnds (t ++ '\n' :: s)).drop (t.count '\n' + 1) = linesKeepingEnds s := by
  induction t with
  | nil => rfl
  | cons c cs ih =>
    rw [List.cons_append, linesKeepingEnds]
    by_cases hc : c = '\n'
    · rw [if_pos hc, hc, List.count_cons_self, List.drop_succ_cons, ih]
    · rw [if_neg hc, List.count_cons_of_ne hc]
      cases hlines : linesKeepingEnds (cs ++ '\n' :: s) with
      | nil =>
        rw [hlines, List.drop_nil] at ih
        rw [← ih]
        exact List.drop_nil
      | cons line rest =>
        rw [hlines] at ih
        exact ih

/-- What is left of a line without its ending. -/
lemma dropLineEnd_lineFeed (h : line.getLast? ≠ some '\r') :
    dropLineEnd (line ++ ['\n']) = line := by
  rw [dropLineEnd, List.reverse_append, List.reverse_singleton, List.singleton_append]
  split
  · rename_i rest hreverse
    rw [List.getLast?_eq_head?_reverse, (List.cons.inj hreverse).2] at h
    exact absurd rfl h
  · rename_i rest _ hreverse
    rw [← (List.cons.inj hreverse).2, List.reverse_reverse]
  · rename_i hother
    exact absurd rfl (hother _)

lemma dropLineEnd_last (h : '\n' ∉ line) : dropLineEnd line = line := by
  have hline : ∀ t, line.reverse ≠ '\n' :: t := by
    intro t ht
    exact h (List.mem_reverse.mp (ht ▸ List.mem_cons_self))
  unfold dropLineEnd
  split
  · rename_i h
    exact absurd h (hline _)
  · rename_i h
    exact absurd h (hline _)
  · rfl

/-- A line in front of a text. -/
lemma head?_lines (h : StartsBelow line below) (hline : '\n' ∉ line) (hne : line ≠ []) :
    (lines (line ++ below)).head? = some line := by
  cases h with
  | last =>
    rw [List.append_nil, lines, linesKeepingEnds_last hline hne, List.map_singleton,
      List.head?_cons, dropLineEnd_last hline]
  | lineFeed below h =>
    rw [lines, linesKeepingEnds_line hline, List.map_cons, List.head?_cons,
      dropLineEnd_lineFeed h]
  | carriageReturn below =>
    have hreturn : '\n' ∉ line ++ ['\r'] := by simpa using hline
    rw [← List.singleton_append, ← List.append_assoc, lines, linesKeepingEnds_line hreturn,
      List.map_cons, List.head?_cons, dropLineEnd]
    simp

/-- A line is found by its number. -/
lemma Line.getElem?_linesOf (h : l.source = source.toList) :
    (linesOf source)[l.number - 1]? = some (String.ofList l.text) := by
  have hlines : (lines source.toList)[l.number - 1]? = some l.text := by
    have hhead := head?_lines l.startsBelow l.oneLine (by simp)
    have hdrop : (lines source.toList).drop (l.number - 1) = lines (l.text ++ l.below) := by
      rw [← h, Line.source, Line.number, Nat.add_sub_cancel]
      rcases l.endsLine with habove | ⟨t, habove⟩
      · rw [habove, List.nil_append]
        rfl
      · rw [habove, List.count_append, lines, List.append_assoc, List.singleton_append,
          ← List.map_drop]
        exact congrArg _ (drop_linesKeepingEnds t _)
    rw [← List.head?_drop, hdrop]
    exact hhead
  rw [linesOf, List.getElem?_map, hlines]
  rfl

/-! ## Frames -/

lemma EndsLine.append {a b : List Char} (ha : EndsLine a) (hb : EndsLine b) :
    EndsLine (a ++ b) := by
  rcases hb with rfl | ⟨t, rfl⟩
  · rwa [List.append_nil]
  · exact .inr ⟨a ++ t, (List.append_assoc ..).symm⟩

lemma endsLine_snoc_iff {t : List Char} {c : Char} : EndsLine (t ++ [c]) ↔ c = '\n' := by
  constructor
  · rintro (hnil | ⟨t', ht⟩)
    · exact absurd hnil (List.append_ne_nil_of_right_ne_nil _ (List.cons_ne_nil _ _))
    · exact (List.cons.inj (List.append_inj' ht rfl).2).1
  · rintro rfl
    exact .inr ⟨t, rfl⟩

lemma endsLine_concat {parts : List String} (h : ∀ p ∈ parts, EndsLine p.toList) :
    EndsLine (concat parts).toList := by
  induction parts with
  | nil => exact .inl rfl
  | cons p ps ih =>
    obtain ⟨hp, hps⟩ := List.forall_mem_cons.mp h
    rw [concat_cons, String.toList_append]
    exact hp.append (ih hps)

/-- Each line of a frame is written to its end. -/
lemma endsLine_frameLine (width line column number : Nat) (text : String) :
    EndsLine (frameLine width line column number text).toList := by
  rw [frameLine, String.toList_append]
  refine .append (.inr ⟨(padLeft width (toString number) ++ ": " ++ text).toList, ?_⟩) ?_
  · rw [String.toList_append]
    rfl
  · split
    · refine .inr ⟨(spaces width ++ "  " ++ spaces (column - 1)).toList ++ ['^'], ?_⟩
      rw [String.toList_append, List.append_assoc]
      rfl
    · exact .inl rfl

/-- What stands in front of a line in a frame. -/
def Line.label (l : Line) : List Char := (toString l.number).toList ++ [':', ' ']

/-- The line of a character in a frame, with the caret below it. -/
lemma Line.frameLine_eq (l : Line) :
    (frameLine (toString l.number).length l.number l.column l.number
      (String.ofList l.text)).toList =
      l.label ++ l.text ++ '\n' ::
        (List.replicate (l.label.length + l.front.length) ' ' ++ ['^', '\n']) := by
  have hspaces : (spaces (toString l.number).length ++ "  " ++ spaces (l.column - 1)).toList =
      List.replicate (l.label.length + l.front.length) ' ' := by
    have htwo : "  ".toList = List.replicate 2 ' ' := rfl
    rw [String.toList_append, String.toList_append, htwo, spaces, spaces, String.toList_ofList,
      String.toList_ofList, ← List.replicate_add, ← List.replicate_add, label, column,
      Nat.add_sub_cancel, List.length_append, String.length_toList]
    rfl
  have hlabel : (padLeft (toString l.number).length (toString l.number) ++ ": ").toList =
      l.label := by
    rw [padLeft, Nat.sub_self, String.toList_append, String.toList_append]
    rfl
  rw [frameLine, if_pos rfl, String.toList_append, String.toList_append, String.toList_append,
    hlabel, String.toList_append, hspaces, String.toList_ofList]
  simp

lemma trimEnd_caret (s : List Char) : trimEnd (s ++ ['^', '\n']) = s ++ ['^'] := by
  have hreverse : (s ++ ['^', '\n']).reverse = '\n' :: '^' :: s.reverse := by simp
  rw [trimEnd, hreverse, List.dropWhile_cons_of_pos (by decide),
    List.dropWhile_cons_of_neg (by decide)]
  simp

/-- A frame ends with the line of the character and the caret. -/
lemma Line.frame_eq (h : l.source = source.toList) :
    ∃ shown, EndsLine shown ∧ (frame source l.number l.column).toList =
      shown ++ (l.label ++ l.text ++ '\n' ::
        (List.replicate (l.label.length + l.front.length) ' ' ++ ['^'])) := by
  have hline := getElem?_linesOf h
  obtain ⟨hlength, -⟩ := List.getElem?_eq_some_iff.mp hline
  have hnumber : 0 < l.number := Nat.succ_pos _
  -- The line is the last one that is shown.
  have hlast : min l.number (max (linesOf source).length 1) = l.number := by omega
  have hcount : l.number + 1 - max (l.number - 2) 1 =
      l.number - max (l.number - 2) 1 + 1 := by omega
  have hend : max (l.number - 2) 1 + (l.number - max (l.number - 2) 1) = l.number := by omega
  simp only [frame, hlast]
  rw [hcount, List.range'_1_concat, List.map_append, List.map_singleton, hend, concat_append,
    List.getD_eq_getElem?_getD, hline, Option.getD_some, String.toList_ofList,
    String.toList_append, concat_cons, String.toList_append, frameLine_eq]
  generalize hparts : List.map _ _ = parts
  refine ⟨(concat parts).toList, endsLine_concat fun part hpart => ?_, ?_⟩
  · rw [← hparts] at hpart
    obtain ⟨number, -, rfl⟩ := List.mem_map.mp hpart
    exact endsLine_frameLine _ _ _ _ _
  · have hcaret := trimEnd_caret ((concat parts).toList ++ (l.label ++ l.text ++ '\n' ::
      List.replicate (l.label.length + l.front.length) ' '))
    simpa [concat] using hcaret

/-- The last two lines of a frame: the line of the character, and the caret under the character. -/
theorem Line.fields_frame (h : l.source = source.toList) :
    ∃ shown, fields '\n' (frame source l.number l.column).toList =
      shown ++ [l.label ++ l.text,
        List.replicate (l.label.length + l.front.length) ' ' ++ ['^']] := by
  obtain ⟨shown, hshown, hframe⟩ := frame_eq h
  have hlabel : '\n' ∉ l.label ++ l.text := by
    have htext : '\n' ∉ l.text := l.oneLine
    have hnumber : '\n' ∉ (toString l.number).toList := by
      intro hmem
      rw [Nat.toString_eq_repr, Nat.repr, String.toList_ofList] at hmem
      exact absurd (Nat.isDigit_of_mem_toDigits (by decide) (by decide) hmem) (by decide)
    rw [Line.label, List.mem_append, List.mem_append, not_or, not_or]
    exact ⟨⟨hnumber, by decide⟩, htext⟩
  have hcaret : '\n' ∉ List.replicate (l.label.length + l.front.length) ' ' ++ ['^'] := by
    simp
  have hlast : fields '\n' (l.label ++ l.text ++ '\n' ::
      (List.replicate (l.label.length + l.front.length) ' ' ++ ['^'])) =
      [l.label ++ l.text, List.replicate (l.label.length + l.front.length) ' ' ++ ['^']] := by
    rw [fields_append, fields_eq_singleton hlabel, fields_eq_singleton hcaret]
    rfl
  rw [hframe]
  rcases hshown with rfl | ⟨t, rfl⟩
  · exact ⟨[], by rw [List.nil_append, hlast, List.nil_append]⟩
  · exact ⟨fields '\n' t, by
      rw [List.append_assoc, List.singleton_append, fields_append, hlast]⟩

end LiveBundle.Text
