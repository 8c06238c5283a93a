import LiveBundle.Proofs.Text.Basic
import LiveBundle.Proofs.Text.Pieces
import LiveBundle.Style.Variables
import Mathlib.Data.List.TakeWhile

/-!
# References to variables

A reference is a dollar sign with the longest name behind it. The values of the variables are put in
for the references of a text as they stand, once. A dollar sign without a name stays, and so a
reference may be put together: from a dollar sign that is left and the value behind it.

* `Refers` says that a text refers to a variable, `HoldsReference` that it holds a reference;
* `substitute_cases`: values are put in unless a reference has none;
* `Leaks` says that a value is put directly behind a dollar sign,
  `holdsReference_substituted_iff`: where the references of the outcome come from;
* `dollar_not_mem_substituted`: no dollar sign is left if each one begins a reference.
-/

namespace LiveBundle.Style

open Text (writePieces pieces)

variable {s a b t name rest front back : List Char} {c : Char} {known : Variables}
  {ps : List (Char ⊕ List Char)}

/-! ## References -/

/-- The text can stand for a variable. -/
def IsVariableName (name : List Char) : Prop := name ≠ [] ∧ ∀ c ∈ name, isNameChar c = true

/-- A name ends in front of this text. -/
def EndsName (rest : List Char) : Prop := ∀ c ∈ rest.head?, isNameChar c = false

/-- The text refers to a variable: the whole name of it stands behind a dollar sign. -/
def Refers (s name : List Char) : Prop :=
  ∃ front back, s = front ++ '$' :: name ++ back ∧ IsVariableName name ∧ EndsName back

/-- A dollar sign stands directly in front of a character of names. -/
def HoldsReference (s : List Char) : Prop :=
  ∃ front c back, s = front ++ '$' :: c :: back ∧ isNameChar c = true

/-- The text begins with a character of names. -/
def StartsWithName (s : List Char) : Prop := ∃ c ∈ s.head?, isNameChar c = true

lemma isNameChar_dollar : isNameChar '$' = false := by decide

/-- A name has a character at least, and is taken as far as it goes. -/
lemma takeName?_eq_some_iff :
    takeName? s = some (name, rest) ↔ s = name ++ rest ∧ IsVariableName name ∧ EndsName rest := by
  unfold takeName?
  constructor
  · intro h
    split at h
    · cases h
    · rename_i hne
      cases h
      refine ⟨List.takeWhile_append_dropWhile.symm, ⟨hne, ?_⟩, Text.of_mem_head?_dropWhile⟩
      intro c hc
      exact List.mem_takeWhile_imp hc
  · intro ⟨htext, ⟨hne, hname⟩, hrest⟩
    obtain ⟨htake, hdrop⟩ := Text.span_append hname hrest
    rw [htext, htake, hdrop]
    split
    · exact absurd rfl hne
    · rfl

/-- A reference is a dollar sign with a name, as far as that goes. -/
lemma reference_eq_some_iff {lineStart : Bool} : reference lineStart s = some (name, rest) ↔
    s = '$' :: name ++ rest ∧ IsVariableName name ∧ EndsName rest := by
  unfold reference
  split
  · rename_i cs
    rw [takeName?_eq_some_iff, List.cons_append, List.cons_inj_right]
  · rename_i hdollar
    refine iff_of_false nofun ?_
    intro h
    exact hdollar _ h.1

/-- A reference as it is written. -/
def referenceText (name : List Char) : List Char := '$' :: name

lemma reference_reads : Text.Pattern.Reads reference referenceText := by
  intro lineStart s name rest h
  exact ⟨(reference_eq_some_iff.mp h).1, List.cons_ne_nil _ _⟩

lemma reference_unanchored : Text.Pattern.Unanchored reference := fun _ _ => rfl

lemma referencePieces_cut (s : List Char) : writePieces referenceText (pieces reference s) = s ∧
    Text.Cut reference referenceText (pieces reference s) :=
  (Text.pieces_eq_iff reference_reads reference_unanchored).mp rfl

/-- A reference begins at each dollar sign with a name behind it. -/
lemma exists_reference (h : StartsWithName s) :
    ∃ name rest, reference true ('$' :: s) = some (name, rest) := by
  obtain ⟨c, hhead, hc⟩ := h
  obtain ⟨cs, rfl⟩ := List.head?_eq_some_iff.mp hhead
  refine ⟨(c :: cs).takeWhile isNameChar, (c :: cs).dropWhile isNameChar,
    reference_eq_some_iff.mpr ⟨?_, ⟨?_, fun d hd => List.mem_takeWhile_imp hd⟩,
      Text.of_mem_head?_dropWhile⟩⟩
  · rw [List.cons_append, List.takeWhile_append_dropWhile]
  · rw [List.takeWhile_cons_of_pos hc]
    exact List.cons_ne_nil _ _

/-- The references are found one after the other. -/
lemma exists_pieces (htext : s = front ++ '$' :: name ++ back) (hname : IsVariableName name)
    (hback : EndsName back) : ∃ ahead more, pieces reference s = ahead ++ .inr name :: more ∧
      writePieces referenceText ahead = front ∧ writePieces referenceText more = back := by
  have hcut := (referencePieces_cut s).2
  have hwritten := (referencePieces_cut s).1.trans htext
  rw [List.append_assoc] at hwritten
  cases Text.meets_of_writePieces hwritten with
  | between ahead hpieces hahead hmore =>
    rename_i more
    rw [hpieces] at hcut ⊢
    have hfound : reference true (writePieces referenceText more) = some (name, back) :=
      reference_eq_some_iff.mpr ⟨hmore, hname, hback⟩
    obtain ⟨behind, rfl, hbehind⟩ := hcut.of_append.exists_head reference_reads hfound
    exact ⟨ahead, behind, rfl, hahead, hbehind⟩
  | inside ahead hpieces hahead hvalue hmore hu hv =>
    rename_i more value u v
    -- A dollar sign would stand in the name that is read there.
    obtain ⟨d, v, rfl⟩ := List.exists_cons_of_ne_nil hv
    obtain ⟨e, u, rfl⟩ := List.exists_cons_of_ne_nil hu
    obtain ⟨-, rfl⟩ := List.cons.inj hvalue
    obtain ⟨rfl, -⟩ := List.cons.inj hmore
    rw [hpieces] at hcut
    obtain ⟨-, ⟨-, hchars⟩, -⟩ := reference_eq_some_iff.mp hcut.of_append.1
    have hdollar := hchars '$' (List.mem_append_right _ List.mem_cons_self)
    rw [isNameChar_dollar] at hdollar
    cases hdollar

/-- The pieces hold the names to which a text refers. -/
lemma mem_pieces_iff : .inr name ∈ pieces reference s ↔ Refers s name := by
  constructor
  · intro h
    obtain ⟨front, more, hpieces⟩ := List.append_of_mem h
    have hmatch := Text.match_of_pieces reference_reads hpieces
    obtain ⟨-, hname, hback⟩ := reference_eq_some_iff.mp hmatch
    refine ⟨writePieces referenceText front, writePieces referenceText more, ?_, hname, hback⟩
    have htext := (referencePieces_cut s).1
    rw [hpieces, Text.writePieces_append, Text.writePieces_inr] at htext
    rw [← htext, referenceText, List.append_assoc]
  · intro ⟨front, back, htext, hname, hback⟩
    obtain ⟨ahead, more, hpieces, -⟩ := exists_pieces htext hname hback
    rw [hpieces]
    exact List.mem_append_right _ List.mem_cons_self

/-! ### Ends of lines -/

/-- A reference does not go beyond the end of a line. -/
lemma reference_append (hs : s.getLast? = some '\n') (lineStart : Bool) (t : List Char) :
    reference lineStart (s ++ t) = (reference lineStart s).map (Prod.map id (· ++ t)) := by
  obtain ⟨init, rfl⟩ := List.getLast?_eq_some_iff.mp hs
  unfold reference
  cases init with
  | nil => rfl
  | cons c cs =>
    by_cases hc : c = '$'
    · subst hc
      show takeName? (cs ++ ['\n'] ++ t) = (takeName? (cs ++ ['\n'])).map _
      generalize hline : cs ++ ['\n'] = line
      have hrest : line.dropWhile isNameChar ≠ [] := by
        intro hnil
        have hnewline := List.dropWhile_eq_nil_iff.mp hnil '\n' (by simp [← hline])
        revert hnewline
        decide
      have hends : ∀ c ∈ (line.dropWhile isNameChar ++ t).head?, isNameChar c = false := by
        rw [List.head?_append_of_ne_nil _ hrest]
        exact Text.of_mem_head?_dropWhile
      obtain ⟨htake, hdrop⟩ := Text.span_append (fun c hc => List.mem_takeWhile_imp hc) hends
      rw [← List.append_assoc, List.takeWhile_append_dropWhile] at htake hdrop
      unfold takeName?
      rw [htake, hdrop]
      split <;> rfl
    · simp [hc]

/-- Texts are cut one by one where the first ends its line. -/
lemma cut_append {qs : List (Char ⊕ List Char)} (hps : Text.Cut reference referenceText ps)
    (hqs : Text.Cut reference referenceText qs)
    (hline : writePieces referenceText ps = [] ∨
      (writePieces referenceText ps).getLast? = some '\n') :
    Text.Cut reference referenceText (ps ++ qs) := by
  induction ps with
  | nil => exact hqs
  | cons piece ps ih =>
    have hlast : (writePieces referenceText (piece :: ps)).getLast? = some '\n' := by
      refine hline.resolve_left ?_
      cases piece <;> exact List.cons_ne_nil _ _
    -- What is behind the first piece ends the same line, or is nothing.
    have hbehind : writePieces referenceText ps = [] ∨
        (writePieces referenceText ps).getLast? = some '\n' := by
      rw [or_iff_not_imp_left]
      intro hne
      rw [← List.singleton_append, Text.writePieces_append, List.getLast?_append_of_ne_nil _ hne]
        at hlast
      exact hlast
    rw [List.cons_append]
    cases piece with
    | inl c =>
      rw [Text.writePieces_inl] at hlast
      refine ⟨?_, ih hps.2 hbehind⟩
      rw [Text.writePieces_append, ← List.cons_append, reference_append hlast, hps.1]
      rfl
    | inr name =>
      rw [Text.writePieces_inr] at hlast
      refine ⟨?_, ih hps.2 hbehind⟩
      rw [Text.writePieces_append, ← List.append_assoc, reference_append hlast, hps.1]
      rfl

/-- The references of lines and of the text behind them are found apart. -/
lemma pieces_reference_append (ha : a = [] ∨ a.getLast? = some '\n') (b : List Char) :
    pieces reference (a ++ b) = pieces reference a ++ pieces reference b := by
  obtain ⟨hwrittenA, hcutA⟩ := referencePieces_cut a
  obtain ⟨hwrittenB, hcutB⟩ := referencePieces_cut b
  rw [Text.pieces_eq_iff reference_reads reference_unanchored, Text.writePieces_append, hwrittenA,
    hwrittenB]
  exact ⟨rfl, cut_append hcutA hcutB (by rwa [hwrittenA])⟩

/-! ## Putting values in -/

/-- The value of a variable; nothing, if it has none. -/
def valueOf (known : Variables) (name : List Char) : List Char :=
  (known.get? (String.ofList name)).getD []

/-- A variable has a value. -/
def Known (known : Variables) (name : List Char) : Prop :=
  (known.get? (String.ofList name)).isSome = true

instance (known : Variables) (name : List Char) : Decidable (Known known name) :=
  inferInstanceAs (Decidable (_ = true))

/-- A text with the values of the variables in place of its references. -/
def substituted (known : Variables) (s : List Char) : List Char :=
  writePieces (valueOf known) (pieces reference s)

lemma writePieces_reference (known : Variables) (name : List Char) :
    writePieces (valueOf known) [.inr name] = valueOf known name := List.append_nil _

/-- The value that takes the place of a piece. -/
private def pieceValue (known : Variables) : Char ⊕ List Char → Except Failure (List Char)
  | .inl c => .ok [c]
  | .inr name =>
    match known.get? (String.ofList name) with
    | some value => .ok value
    | none => .error (.undefinedVariable (String.ofList name))

private lemma mapM_pieceValue (known : Variables) (ps : List (Char ⊕ List Char)) :
    (∃ name, .inr name ∈ ps ∧ ¬Known known name ∧
      ps.mapM (pieceValue known) = .error (.undefinedVariable (String.ofList name))) ∨
    (∀ name, .inr name ∈ ps → Known known name) ∧ ∃ parts, ps.mapM (pieceValue known) = .ok parts ∧
      parts.flatten = writePieces (valueOf known) ps := by
  induction ps with
  | nil => exact .inr ⟨nofun, [], rfl, rfl⟩
  | cons piece ps ih =>
    have hhead : (∃ name, piece = .inr name ∧ ¬Known known name ∧
        pieceValue known piece = .error (.undefinedVariable (String.ofList name))) ∨
        (∀ name, piece = .inr name → Known known name) ∧ ∃ part,
          pieceValue known piece = .ok part ∧ part = writePieces (valueOf known) [piece] := by
      cases piece with
      | inl d => exact .inr ⟨nofun, [d], rfl, rfl⟩
      | inr name =>
        cases hvalue : known.get? (String.ofList name) with
        | none =>
          refine .inl ⟨name, rfl, ?_, ?_⟩
          · rw [Known, hvalue]
            exact Bool.false_ne_true
          · simp only [pieceValue, hvalue]
        | some value =>
          refine .inr ⟨?_, value, ?_, ?_⟩
          · intro name' heq
            obtain rfl := Sum.inr.inj heq
            rw [Known, hvalue]
            rfl
          · simp only [pieceValue, hvalue]
          · rw [writePieces_reference, valueOf, hvalue]
            rfl
    rw [List.mapM_cons]
    rcases hhead with ⟨name, rfl, hunknown, hvalue⟩ | ⟨hknown, part, hvalue, hpart⟩
    · refine .inl ⟨name, List.mem_cons_self, hunknown, ?_⟩
      rw [hvalue]
      rfl
    · rw [hvalue]
      rcases ih with ⟨name, hmem, hunknown, hrest⟩ | ⟨hall, parts, hrest, hparts⟩
      · refine .inl ⟨name, List.mem_cons_of_mem _ hmem, hunknown, ?_⟩
        rw [hrest]
        rfl
      · refine .inr ⟨?_, part :: parts, ?_, ?_⟩
        · intro name hmem
          rcases List.mem_cons.mp hmem with heq | hmem
          · exact hknown name heq.symm
          · exact hall name hmem
        · rw [hrest]
          rfl
        · rw [List.flatten_cons, hparts, hpart, ← Text.writePieces_append, List.singleton_append]

/-- The values are put in, unless a reference has none. -/
lemma substitute_cases (known : Variables) (s : List Char) :
    (∃ name, Refers s name ∧ ¬Known known name ∧
      substitute known s = .error (.undefinedVariable (String.ofList name))) ∨
    (∀ name, Refers s name → Known known name) ∧
      substitute known s = .ok (substituted known s) := by
  have hunfold : substitute known s = (do
      let parts ← (pieces reference s).mapM (pieceValue known)
      return parts.flatten) := rfl
  rw [hunfold]
  rcases mapM_pieceValue known (pieces reference s) with
    ⟨name, hmem, hunknown, hrun⟩ | ⟨hall, parts, hrun, hparts⟩
  · refine .inl ⟨name, mem_pieces_iff.mp hmem, hunknown, ?_⟩
    rw [hrun]
    rfl
  · refine .inr ⟨fun name h => hall name (mem_pieces_iff.mpr h), ?_⟩
    rw [hrun, substituted, ← hparts]
    rfl

/-- A text without references stays. -/
lemma substituted_of_not_refers (h : ∀ name, ¬Refers s name) : substituted known s = s := by
  have hsame : pieces reference s = s.map .inl := by
    apply Text.pieces_of_no_match
    intro u lineStart ⟨front, hfront⟩
    rw [Option.eq_none_iff_forall_ne_some]
    intro ⟨name, rest⟩ hfound
    obtain ⟨rfl, hname, hrest⟩ := reference_eq_some_iff.mp hfound
    exact h name ⟨front, rest, by rw [← hfront, List.append_assoc], hname, hrest⟩
  rw [substituted, hsame, Text.writePieces_map_inl]

/-- Only the values of the variables that a text refers to matter. -/
lemma substituted_congr {known' : Variables}
    (h : ∀ name, Refers s name → valueOf known name = valueOf known' name) :
    substituted known s = substituted known' s := by
  refine List.flatMap_congr fun piece hpiece => ?_
  cases piece with
  | inl c => rfl
  | inr name => exact h name (mem_pieces_iff.mp hpiece)

/-- The values are put into lines and into the text behind them apart. -/
lemma substitute_append (ha : a = [] ∨ a.getLast? = some '\n') (known : Variables)
    (b : List Char) :
    substitute known (a ++ b) = (do return (← substitute known a) ++ (← substitute known b)) := by
  unfold substitute
  rw [pieces_reference_append ha, List.mapM_append]
  simp only [bind_assoc, pure_bind, List.flatten_append]

/-! ## References that are put together -/

/-- Two texts in a row hold a reference if one of them does or one begins where they meet. -/
lemma holdsReference_append : HoldsReference (a ++ b) ↔
    HoldsReference a ∨ HoldsReference b ∨ (a.getLast? = some '$' ∧ StartsWithName b) := by
  constructor
  · intro ⟨front, c, back, htext, hc⟩
    rcases List.append_eq_append_iff.mp htext with ⟨more, rfl, hb⟩ | ⟨more, rfl, hmore⟩
    · exact .inr (.inl ⟨more, c, back, hb, hc⟩)
    · cases more with
      | nil => exact .inr (.inl ⟨[], c, back, hmore.symm, hc⟩)
      | cons d more =>
        obtain ⟨rfl, hbehind⟩ := List.cons.inj hmore
        cases more with
        | nil =>
          obtain rfl : c :: back = b := hbehind
          exact .inr (.inr ⟨List.getLast?_concat, c, rfl, hc⟩)
        | cons e more =>
          obtain ⟨rfl, -⟩ := List.cons.inj hbehind
          exact .inl ⟨front, c, more, rfl, hc⟩
  · intro h
    rcases h with ⟨front, c, back, rfl, hc⟩ | ⟨front, c, back, rfl, hc⟩ | ⟨hlast, c, hhead, hc⟩
    · exact ⟨front, c, back ++ b, by simp, hc⟩
    · exact ⟨a ++ front, c, back, by simp, hc⟩
    · obtain ⟨front, rfl⟩ := List.getLast?_eq_some_iff.mp hlast
      obtain ⟨back, rfl⟩ := List.head?_eq_some_iff.mp hhead
      exact ⟨front, c, back, by simp, hc⟩

lemma not_holdsReference_nil : ¬HoldsReference [] := by
  intro ⟨front, c, back, h, _⟩
  simp at h

lemma not_holdsReference_singleton (c : Char) : ¬HoldsReference [c] := by
  intro ⟨front, d, back, h, _⟩
  have hlength := congrArg List.length h
  simp only [List.length_append, List.length_cons, List.length_nil] at hlength
  omega

/-- Behind this text, a dollar sign stands in front when the values are put in. -/
def LeavesDollar (known : Variables) (front : List Char) : Prop :=
  front.getLast? = some '$' ∨ ∃ ahead name, front = ahead ++ '$' :: name ∧ IsVariableName name ∧
    (valueOf known name).getLast? = some '$'

/-- A value that begins with a character of names is put behind a dollar sign. -/
def Leaks (known : Variables) (s : List Char) : Prop :=
  ∃ front name back, s = front ++ '$' :: name ++ back ∧ IsVariableName name ∧ EndsName back ∧
    StartsWithName (valueOf known name) ∧ LeavesDollar known front

/-- Neighbours among the pieces put a reference together. -/
private def Joins (known : Variables) (ps : List (Char ⊕ List Char)) : Prop :=
  ∃ front piece name more, ps = front ++ piece :: .inr name :: more ∧
    (writePieces (valueOf known) [piece]).getLast? = some '$' ∧
    StartsWithName (valueOf known name)

/-- Behind a dollar sign that stays and behind a reference there is no character of names. -/
private lemma not_startsWithName {piece : Char ⊕ List Char} {d : Char}
    (hcut : Text.Cut reference referenceText (piece :: .inl d :: ps))
    (hlast : (writePieces (valueOf known) [piece]).getLast? = some '$') : isNameChar d = false := by
  cases piece with
  | inl c =>
    obtain rfl : c = '$' := Option.some.inj hlast
    by_contra hd
    obtain ⟨name, rest, hfound⟩ := exists_reference (s := d :: writePieces referenceText ps)
      ⟨d, rfl, Bool.not_eq_false _ ▸ hd⟩
    have hnone := hcut.1
    rw [Text.writePieces_inl, hfound] at hnone
    cases hnone
  | inr name =>
    obtain ⟨-, -, hends⟩ := reference_eq_some_iff.mp hcut.1
    exact hends d rfl

private lemma holdsReference_pieces (hcut : Text.Cut reference referenceText ps)
    (hvalues : ∀ name, .inr name ∈ ps → valueOf known name ≠ []) :
    HoldsReference (writePieces (valueOf known) ps) ↔
      (∃ name, .inr name ∈ ps ∧ HoldsReference (valueOf known name)) ∨ Joins known ps := by
  induction ps with
  | nil =>
    refine iff_of_false not_holdsReference_nil ?_
    intro h
    rcases h with ⟨name, hmem, -⟩ | ⟨front, piece, name, more, h, -⟩
    · exact List.not_mem_nil hmem
    · simp at h
  | cons piece ps ih =>
    have hrest : Text.Cut reference referenceText ps :=
      Text.Cut.of_append (show Text.Cut reference referenceText ([piece] ++ ps) from hcut)
    have ih := ih hrest fun name hname => hvalues name (List.mem_cons_of_mem _ hname)
    have htext : writePieces (valueOf known) (piece :: ps) =
        writePieces (valueOf known) [piece] ++ writePieces (valueOf known) ps :=
      Text.writePieces_append (valueOf known) [piece] ps
    rw [htext, holdsReference_append, ih]
    have hhead : HoldsReference (writePieces (valueOf known) [piece]) ↔
        ∃ name, piece = .inr name ∧ HoldsReference (valueOf known name) := by
      cases piece with
      | inl c => exact iff_of_false (not_holdsReference_singleton c) nofun
      | inr name =>
        rw [writePieces_reference]
        constructor
        · intro h
          exact ⟨name, rfl, h⟩
        · intro ⟨name', heq, h⟩
          obtain rfl := Sum.inr.inj heq
          exact h
    have hjoin : ((writePieces (valueOf known) [piece]).getLast? = some '$' ∧
        StartsWithName (writePieces (valueOf known) ps)) ↔
        ∃ name more, ps = .inr name :: more ∧
          (writePieces (valueOf known) [piece]).getLast? = some '$' ∧
          StartsWithName (valueOf known name) := by
      constructor
      · intro ⟨hlast, c, hc, hname⟩
        cases ps with
        | nil => cases hc
        | cons next more =>
          cases next with
          | inl d =>
            obtain rfl : d = c := Option.some.inj hc
            rw [not_startsWithName hcut hlast] at hname
            cases hname
          | inr name =>
            refine ⟨name, more, rfl, hlast, c, ?_, hname⟩
            have hne := hvalues name (List.mem_cons_of_mem _ List.mem_cons_self)
            rwa [Text.writePieces_inr, List.head?_append_of_ne_nil _ hne] at hc
      · intro ⟨name, more, hps, hlast, c, hc, hname⟩
        refine ⟨hlast, c, ?_, hname⟩
        obtain ⟨back, hback⟩ := List.head?_eq_some_iff.mp hc
        rw [hps, Text.writePieces_inr, hback]
        rfl
    have hcons : Joins known (piece :: ps) ↔ Joins known ps ∨ ∃ name more, ps = .inr name :: more ∧
        (writePieces (valueOf known) [piece]).getLast? = some '$' ∧
        StartsWithName (valueOf known name) := by
      constructor
      · intro ⟨front, first, name, more, hps, hlast, hname⟩
        cases front with
        | nil =>
          obtain ⟨rfl, hps⟩ := List.cons.inj hps
          exact .inr ⟨name, more, ‹_›, hlast, hname⟩
        | cons other front =>
          exact .inl ⟨front, first, name, more, (List.cons.inj hps).2, hlast, hname⟩
      · intro h
        rcases h with ⟨front, first, name, more, hps, hlast, hname⟩ |
          ⟨name, more, hps, hlast, hname⟩
        · exact ⟨piece :: front, first, name, more, by rw [hps, List.cons_append], hlast, hname⟩
        · exact ⟨[], piece, name, more, by rw [hps, List.nil_append], hlast, hname⟩
    have hmem : (∃ name, .inr name ∈ piece :: ps ∧ HoldsReference (valueOf known name)) ↔
        (∃ name, piece = .inr name ∧ HoldsReference (valueOf known name)) ∨
          ∃ name, .inr name ∈ ps ∧ HoldsReference (valueOf known name) := by
      simp only [List.mem_cons, or_and_right, exists_or, eq_comm]
    rw [hhead, hjoin, hcons, hmem, or_assoc, or_assoc]

/-- Neighbours that put a reference together are those of the text. -/
private lemma joins_iff : Joins known (pieces reference s) ↔ Leaks known s := by
  obtain ⟨hwritten, hcut⟩ := referencePieces_cut s
  constructor
  · intro ⟨front, piece, name, more, hps, hlast, hstarts⟩
    rw [hps, Text.writePieces_append] at hwritten
    rw [hps] at hcut
    have hsecond : Text.Cut reference referenceText (.inr name :: more) :=
      Text.Cut.of_append
        (show Text.Cut reference referenceText ([piece] ++ .inr name :: more) from hcut.of_append)
    obtain ⟨-, hname, hback⟩ := reference_eq_some_iff.mp hsecond.1
    cases piece with
    | inl c =>
      obtain rfl : c = '$' := Option.some.inj hlast
      refine ⟨writePieces referenceText front ++ ['$'], name, writePieces referenceText more, ?_,
        hname, hback, hstarts, .inl List.getLast?_concat⟩
      rw [← hwritten, Text.writePieces_inl, Text.writePieces_inr]
      simp [referenceText]
    | inr name' =>
      obtain ⟨-, hname', -⟩ := reference_eq_some_iff.mp hcut.of_append.1
      rw [writePieces_reference] at hlast
      refine ⟨writePieces referenceText front ++ '$' :: name', name,
        writePieces referenceText more, ?_, hname, hback, hstarts, .inr ⟨_, name', rfl, hname',
          hlast⟩⟩
      rw [← hwritten, Text.writePieces_inr, Text.writePieces_inr]
      simp [referenceText]
  · intro ⟨front, name, back, htext, hname, hback, hstarts, hdollar⟩
    rcases hdollar with hlast | ⟨ahead, name', rfl, hname', hlast⟩
    · obtain ⟨ahead, more, hps, hahead, -⟩ := exists_pieces htext hname hback
      rcases List.eq_nil_or_concat ahead with rfl | ⟨first, piece, rfl⟩
      · rw [← hahead] at hlast
        cases hlast
      · refine ⟨first, piece, name, more, by rw [hps, List.concat_eq_append, List.append_assoc,
          List.singleton_append], ?_, hstarts⟩
        rw [← hahead, List.concat_eq_append, Text.writePieces_append] at hlast
        cases piece with
        | inl c =>
          have hchar : writePieces referenceText [.inl c] = [c] := rfl
          rw [hchar, List.getLast?_concat] at hlast
          exact hlast
        | inr name' =>
          -- A reference does not end with a dollar sign.
          have hmem : .inr name' ∈ pieces reference s := by
            rw [hps, List.concat_eq_append]
            simp
          obtain ⟨-, -, -, ⟨hne, hchars⟩, -⟩ := mem_pieces_iff.mp hmem
          obtain ⟨init, c, rfl⟩ := (List.eq_nil_or_concat name').resolve_left hne
          have hname' : writePieces referenceText [.inr (init.concat c)] =
              ('$' :: init) ++ [c] := by
            simp [writePieces, referenceText]
          rw [hname', ← List.append_assoc, List.getLast?_concat] at hlast
          obtain rfl : c = '$' := Option.some.inj hlast
          have hdollar := hchars '$' (by simp)
          rw [isNameChar_dollar] at hdollar
          cases hdollar
    · have hends : EndsName ('$' :: name ++ back) := by
        intro c hc
        cases hc
        exact isNameChar_dollar
      have hsplit : s = ahead ++ '$' :: name' ++ ('$' :: name ++ back) := by
        rw [htext, List.append_assoc]
      obtain ⟨first, more, hps, -, hmore⟩ := exists_pieces hsplit hname' hends
      have hcutMore : Text.Cut reference referenceText more := by
        rw [hps] at hcut
        exact Text.Cut.of_append
          (show Text.Cut reference referenceText ([.inr name'] ++ more) from hcut.of_append)
      have hfound : reference true (writePieces referenceText more) = some (name, back) :=
        reference_eq_some_iff.mpr ⟨hmore, hname, hback⟩
      obtain ⟨behind, rfl, -⟩ := hcutMore.exists_head reference_reads hfound
      refine ⟨first, .inr name', name, behind, hps, ?_, hstarts⟩
      rwa [writePieces_reference]

/-- A reference in the outcome is one of a value that was put in, or was put together by a value
behind a dollar sign. -/
lemma holdsReference_substituted_iff
    (hvalues : ∀ name, Refers s name → valueOf known name ≠ []) :
    HoldsReference (substituted known s) ↔
      (∃ name, Refers s name ∧ HoldsReference (valueOf known name)) ∨ Leaks known s := by
  rw [substituted, holdsReference_pieces (referencePieces_cut s).2
    fun name hname => hvalues name (mem_pieces_iff.mp hname), joins_iff]
  simp only [mem_pieces_iff]

/-- Each dollar sign begins a reference. -/
def AllNamed (s : List Char) : Prop :=
  ∀ front back, s = front ++ '$' :: back → StartsWithName back

instance : DecidablePred StartsWithName := fun s =>
  decidable_of_iff (s.head?.any isNameChar = true) <| by
    rw [Option.any_eq_true, StartsWithName]
    rfl

instance : DecidablePred AllNamed := fun s =>
  decidable_of_iff (∀ t ∈ s.tails, t.head? = some '$' → StartsWithName t.tail) <| by
    simp only [List.mem_tails]
    constructor
    · intro h front back hs
      exact h ('$' :: back) ⟨front, hs.symm⟩ rfl
    · intro h t ⟨front, ht⟩ hhead
      obtain ⟨back, rfl⟩ := List.head?_eq_some_iff.mp hhead
      exact h front back ht.symm

/-- Where each dollar sign begins a reference, none is left but those of the values. -/
lemma dollar_not_mem_substituted (hs : AllNamed s)
    (hvalues : ∀ name, Refers s name → '$' ∉ valueOf known name) : '$' ∉ substituted known s := by
  intro hmem
  obtain ⟨piece, hpiece, hdollar⟩ := List.mem_flatMap.mp hmem
  cases piece with
  | inl c =>
    obtain rfl := List.mem_singleton.mp hdollar
    obtain ⟨ahead, more, hps⟩ := List.append_of_mem hpiece
    obtain ⟨hwritten, hcut⟩ := referencePieces_cut s
    rw [hps, Text.writePieces_append, Text.writePieces_inl] at hwritten
    rw [hps] at hcut
    obtain ⟨name, rest, hfound⟩ := exists_reference (hs _ _ hwritten.symm)
    rw [hcut.of_append.1] at hfound
    cases hfound
  | inr name => exact hvalues name (mem_pieces_iff.mp hpiece) hdollar

/-- What is not empty stays so if no value is empty. -/
lemma substituted_ne_nil (hs : s ≠ []) (hvalues : ∀ name, Refers s name → valueOf known name ≠ []) :
    substituted known s ≠ [] := by
  have hwritten := (referencePieces_cut s).1
  intro hnil
  have hnone := List.flatMap_eq_nil_iff.mp hnil
  cases hps : pieces reference s with
  | nil =>
    rw [hps] at hwritten
    exact hs hwritten.symm
  | cons piece ps =>
    have hpiece : piece ∈ pieces reference s := hps ▸ List.mem_cons_self
    cases piece with
    | inl c => exact absurd (hnone _ hpiece) (List.cons_ne_nil _ _)
    | inr name => exact hvalues name (mem_pieces_iff.mp hpiece) (hnone _ hpiece)

end LiveBundle.Style
