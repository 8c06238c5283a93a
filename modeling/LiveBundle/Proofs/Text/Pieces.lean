import LiveBundle.Text.Search
import Mathlib.Data.List.Infix
import Mathlib.Tactic.SplitIfs
import Mathlib.Tactic.Lemma

/-!
# Texts and their pieces

What a pattern cuts a text into makes up the text, and each match is what the pattern finds in front
of the text of the pieces from there on. Where lines begin does not matter to most patterns; for
these the two facts say which pieces a text has, so that pieces can be changed without cutting
again.

* `writePieces_cutFrom`: what a pattern cuts a text into is that text;
* `match_of_pieces`: a match is found behind the pieces in front of it, `Meets` says whether a place
  of the text is between two pieces or in a match;
* `Cut`: every piece is what the pattern finds at its place;
* `pieces_eq_iff`: the pieces of a text are the ones that make it up and are cut;
* `Pattern.withText` keeps the texts of matches, for patterns whose values do not tell them;
* `placed` are the matches with their places, `sift` chooses some of them.
-/

namespace LiveBundle.Text

variable {α : Type} {p : Pattern α} {f : α → List Char} {s : List Char}

/-- What a pattern finds stands in front of the text it leaves, and is not empty. -/
def Pattern.Reads (p : Pattern α) (f : α → List Char) : Prop :=
  ∀ ⦃lineStart s value rest⦄, p lineStart s = some (value, rest) →
    s = f value ++ rest ∧ f value ≠ []

/-- A character is written as it is. -/
lemma writePieces_inl (c : Char) (ps : List (Char ⊕ α)) :
    writePieces f (.inl c :: ps) = c :: writePieces f ps := rfl

/-- A match is written by the function. -/
lemma writePieces_inr (value : α) (ps : List (Char ⊕ α)) :
    writePieces f (.inr value :: ps) = f value ++ writePieces f ps := rfl

/-- Two lists of pieces are written one after the other. -/
lemma writePieces_append (f : α → List Char) (ps qs : List (Char ⊕ α)) :
    writePieces f (ps ++ qs) = writePieces f ps ++ writePieces f qs := List.flatMap_append

/-- The rest behind a match is what is cut next. -/
lemma Pattern.Reads.drop_eq (hp : p.Reads f) {lineStart : Bool} {c : Char} {cs rest : List Char}
    {value : α} (h : p lineStart (c :: cs) = some (value, rest)) :
    c :: cs = f value ++ rest ∧ cs.drop (cs.length - rest.length) = rest := by
  obtain ⟨htext, hne⟩ := hp h
  obtain ⟨d, ds, hvalue⟩ := List.exists_cons_of_ne_nil hne
  refine ⟨htext, ?_⟩
  rw [hvalue] at htext
  obtain ⟨-, rfl⟩ := List.cons.inj htext
  rw [List.append_eq, List.length_append, Nat.add_sub_cancel, List.drop_left]

/-- The pieces of a text make up the text. -/
lemma writePieces_cutFrom (hp : p.Reads f) (skip : Nat) (lineStart : Bool) (s : List Char) :
    writePieces f (cutFrom p skip lineStart s) = s.drop skip := by
  induction s generalizing skip lineStart with
  | nil => cases skip <;> rfl
  | cons c cs ih =>
    cases skip with
    | succ skip => exact ih skip _
    | zero =>
      unfold cutFrom
      split
      · rename_i value rest h
        obtain ⟨htext, hrest⟩ := hp.drop_eq h
        rw [writePieces_inr, ih, hrest, List.drop_zero, htext]
      · rw [writePieces_inl, ih, List.drop_zero, List.drop_zero]

/-- Written as they were read, the pieces are the text. -/
lemma writePieces_pieces (hp : p.Reads f) (s : List Char) :
    writePieces f (pieces p s) = s := writePieces_cutFrom hp 0 true s

/-- What matches a word stands in front of the rest. -/
lemma wordUpToCase?_text {word matched rest : List Char}
    (h : wordUpToCase? word s = some (matched, rest)) : s = matched ++ rest := by
  induction word generalizing s matched with
  | nil =>
    cases h
    rfl
  | cons w ws ih =>
    cases s with
    | nil => cases h
    | cons c cs =>
      unfold wordUpToCase? at h
      split at h
      · obtain ⟨⟨matched', rest'⟩, hread, heq⟩ := Option.map_eq_some_iff.mp h
        cases heq
        rw [ih hread, List.cons_append]
      · cases h

/-- A pattern with its values changed cuts a text in the same way. -/
lemma cutFrom_map {β : Type} {q : Pattern β} {g : α → β}
    (hq : ∀ lineStart s, q lineStart s = (p lineStart s).map (Prod.map g id))
    (skip : Nat) (lineStart : Bool) (s : List Char) :
    cutFrom q skip lineStart s = (cutFrom p skip lineStart s).map (Sum.map id g) := by
  induction s generalizing skip lineStart with
  | nil => cases skip <;> rfl
  | cons c cs ih =>
    cases skip with
    | succ skip => exact ih skip _
    | zero =>
      rw [cutFrom, cutFrom, hq]
      rcases p lineStart (c :: cs) with _ | ⟨value, rest⟩
      · exact congrArg (List.cons (.inl c)) (ih 0 _)
      · exact congrArg (List.cons (.inr (g value))) (ih _ _)

/-- Matches may be changed before they are written. -/
lemma writePieces_map {β : Type} (f : β → List Char) (g : α → β) (ps : List (Char ⊕ α)) :
    writePieces f (ps.map (Sum.map id g)) = writePieces (fun value => f (g value)) ps := by
  rw [writePieces, writePieces, List.flatMap_map]
  refine List.flatMap_congr fun piece _ => ?_
  cases piece <;> rfl

/-- A text without matches is written as it is. -/
lemma writePieces_map_inl (f : α → List Char) (s : List Char) :
    writePieces f (s.map .inl) = s := by
  simp [writePieces, List.flatMap_map]

/-! ## Where a line begins -/

/-- Whether a line begins behind a text, given whether one begins in front of it. -/
def startsLine : Bool → List Char → Bool
  | lineStart, [] => lineStart
  | _, c :: cs => startsLine (c = '\n') cs

/-- Whether a line starts is told by one text after the other. -/
lemma startsLine_append (lineStart : Bool) (s t : List Char) :
    startsLine lineStart (s ++ t) = startsLine (startsLine lineStart s) t := by
  induction s generalizing lineStart with
  | nil => rfl
  | cons c cs ih => exact ih _

/-- Cutting goes on behind the characters that are passed over. -/
lemma cutFrom_append (p : Pattern α) (lineStart : Bool) (passed s : List Char) :
    cutFrom p passed.length lineStart (passed ++ s) =
      cutFrom p 0 (startsLine lineStart passed) s := by
  induction passed generalizing lineStart with
  | nil => rfl
  | cons c passed ih => exact ih _

/-- The pieces behind others are what their text is cut into. -/
lemma cutFrom_eq_append (hp : p.Reads f) {lineStart : Bool} {front more : List (Char ⊕ α)}
    (h : cutFrom p 0 lineStart s = front ++ more) :
    more = cutFrom p 0 (startsLine lineStart (writePieces f front)) (writePieces f more) := by
  induction front generalizing s lineStart with
  | nil =>
    have htext := writePieces_cutFrom hp 0 lineStart s
    rw [h] at htext
    rw [List.drop_zero, List.nil_append] at htext
    rw [htext]
    exact h.symm
  | cons piece front ih =>
    cases s with
    | nil => cases h
    | cons c cs =>
      unfold cutFrom at h
      split at h
      · rename_i value rest hmatch
        obtain ⟨rfl, hrest⟩ := List.cons.inj h
        obtain ⟨htext, -⟩ := hp.drop_eq hmatch
        obtain ⟨d, ds, hvalue⟩ := List.exists_cons_of_ne_nil (hp hmatch).2
        rw [hvalue] at htext
        obtain ⟨rfl, rfl⟩ := List.cons.inj htext
        rw [List.append_eq, List.length_append, Nat.add_sub_cancel, cutFrom_append] at hrest
        rw [writePieces_inr, startsLine_append, hvalue]
        exact ih hrest
      · obtain ⟨rfl, hrest⟩ := List.cons.inj h
        exact ih hrest

/-- Each match was found behind the text of the pieces in front of it. -/
lemma match_of_pieces (hp : p.Reads f) {value : α} {front more : List (Char ⊕ α)}
    (h : pieces p s = front ++ .inr value :: more) :
    p (startsLine true (writePieces f front)) (f value ++ writePieces f more) =
      some (value, writePieces f more) := by
  have hmore := cutFrom_eq_append hp h
  rw [writePieces_inr] at hmore
  generalize htext : f value ++ writePieces f more = text at hmore ⊢
  cases text with
  | nil => cases hmore
  | cons c cs =>
    unfold cutFrom at hmore
    split at hmore
    · rename_i value' rest hmatch
      obtain ⟨heq, -⟩ := List.cons.inj hmore
      cases heq
      rw [(hp hmatch).1] at htext
      rw [List.append_cancel_left htext]
      exact hmatch
    · cases (List.cons.inj hmore).1

/-- Where the pattern matches, the first piece is the match. -/
lemma cutFrom_of_match (hp : p.Reads f) {lineStart : Bool} {value : α} {rest : List Char}
    (h : p lineStart s = some (value, rest)) :
    ∃ more, cutFrom p 0 lineStart s = .inr value :: more := by
  cases s with
  | nil => exact absurd (List.append_eq_nil_iff.mp (hp h).1.symm).1 (hp h).2
  | cons c cs => exact ⟨_, by rw [cutFrom, h]⟩

/-- Two parts of a text meet between two pieces of it, or in a match. -/
inductive Meets (f : α → List Char) (ps : List (Char ⊕ α)) (s t : List Char) : Prop
  | between (front : List (Char ⊕ α)) {more : List (Char ⊕ α)} (pieces : ps = front ++ more)
      (front_text : writePieces f front = s) (more_text : writePieces f more = t)
  | inside (front : List (Char ⊕ α)) {more : List (Char ⊕ α)} {value : α} {u v : List Char}
      (pieces : ps = front ++ .inr value :: more) (front_text : writePieces f front ++ u = s)
      (value_text : f value = u ++ v) (more_text : v ++ writePieces f more = t)
      (front_ne : u ≠ []) (more_ne : v ≠ [])

/-- A piece in front changes nothing about where a cut meets the pieces. -/
lemma Meets.cons {ps : List (Char ⊕ α)} {t : List Char} (h : Meets f ps s t) (piece : Char ⊕ α) :
    Meets f (piece :: ps) (writePieces f [piece] ++ s) t := by
  cases h with
  | between front hpieces hfront hmore =>
    refine .between (piece :: front) (by rw [hpieces, List.cons_append]) ?_ hmore
    rw [← hfront, ← writePieces_append, List.singleton_append]
  | inside front hpieces hfront hvalue hmore hu hv =>
    refine .inside (piece :: front) (by rw [hpieces, List.cons_append]) ?_ hvalue hmore hu hv
    rw [← hfront, ← List.append_assoc, ← writePieces_append, List.singleton_append]

/-- A cut of a written text falls between two pieces or into a match. -/
lemma meets_of_writePieces {ps : List (Char ⊕ α)} {t : List Char}
    (h : writePieces f ps = s ++ t) : Meets f ps s t := by
  induction ps generalizing s with
  | nil =>
    obtain ⟨rfl, rfl⟩ := List.append_eq_nil_iff.mp h.symm
    exact .between [] rfl rfl rfl
  | cons piece ps ih =>
    cases s with
    | nil => exact .between [] rfl rfl h
    | cons c s =>
      cases piece with
      | inl d =>
        obtain ⟨rfl, hrest⟩ := List.cons.inj h
        exact (ih hrest).cons (.inl d)
      | inr value =>
        rw [writePieces_inr] at h
        rcases List.append_eq_append_iff.mp h with ⟨u, hs, hrest⟩ | ⟨v, hvalue, ht⟩
        · have hmeets := (ih hrest).cons (.inr value)
          rwa [writePieces_inr, writePieces, List.flatMap_nil, List.append_nil, ← hs] at hmeets
        · cases v with
          | nil =>
            rw [List.append_nil] at hvalue
            refine .between [.inr value] rfl ?_ ht.symm
            rw [writePieces_inr, hvalue, writePieces, List.flatMap_nil, List.append_nil]
          | cons d v =>
            exact .inside [] rfl rfl hvalue ht.symm (List.cons_ne_nil _ _)
              (List.cons_ne_nil _ _)

/-! ## Pieces that are cut -/

/-- The pattern does not ask whether a line begins. -/
def Pattern.Unanchored (p : Pattern α) : Prop := ∀ lineStart s, p lineStart s = p true s

/-- Each piece is what the pattern finds in front of the text of the pieces from there on. -/
def Cut (p : Pattern α) (f : α → List Char) : List (Char ⊕ α) → Prop
  | [] => True
  | .inl c :: ps => p true (c :: writePieces f ps) = none ∧ Cut p f ps
  | .inr value :: ps =>
    p true (f value ++ writePieces f ps) = some (value, writePieces f ps) ∧ Cut p f ps

/-- What is left of pieces that were cut is cut too. -/
lemma Cut.of_append {front more : List (Char ⊕ α)} (h : Cut p f (front ++ more)) : Cut p f more := by
  induction front with
  | nil => exact h
  | cons piece front ih =>
    cases piece with
    | inl c => exact ih h.2
    | inr value => exact ih h.2

/-- Cutting a text gives pieces that were cut. -/
lemma cut_cutFrom (hp : p.Reads f) (hu : p.Unanchored) (skip : Nat) (lineStart : Bool)
    (s : List Char) : Cut p f (cutFrom p skip lineStart s) := by
  induction s generalizing skip lineStart with
  | nil => cases skip <;> trivial
  | cons c cs ih =>
    cases skip with
    | succ skip => exact ih skip _
    | zero =>
      unfold cutFrom
      split
      · rename_i value rest h
        obtain ⟨htext, hrest⟩ := hp.drop_eq h
        refine ⟨?_, ih _ _⟩
        rw [writePieces_cutFrom hp, hrest, ← htext, ← hu lineStart]
        exact h
      · rename_i h
        refine ⟨?_, ih _ _⟩
        rw [writePieces_cutFrom hp, List.drop_zero, ← hu lineStart]
        exact h

/-- Pieces that are cut are read back from what they are written as. -/
lemma cutFrom_writePieces (hp : p.Reads f) (hu : p.Unanchored) {ps : List (Char ⊕ α)}
    (h : Cut p f ps) (lineStart : Bool) : cutFrom p 0 lineStart (writePieces f ps) = ps := by
  induction ps generalizing lineStart with
  | nil => rfl
  | cons piece ps ih =>
    cases piece with
    | inl c =>
      rw [writePieces_inl, cutFrom, hu, h.1, ih h.2]
    | inr value =>
      obtain ⟨c, cs, hvalue⟩ := List.exists_cons_of_ne_nil (hp h.1).2
      have hmatch := h.1
      rw [hvalue, List.cons_append] at hmatch
      rw [writePieces_inr, hvalue, List.cons_append, cutFrom, hu, hmatch]
      simp only [List.length_append, Nat.add_sub_cancel]
      rw [cutFrom_append, ih h.2]

/-- The pieces of a text are those that make it up and are cut. -/
lemma pieces_eq_iff (hp : p.Reads f) (hu : p.Unanchored) {ps : List (Char ⊕ α)} :
    pieces p s = ps ↔ writePieces f ps = s ∧ Cut p f ps := by
  constructor
  · rintro rfl
    exact ⟨writePieces_pieces hp s, cut_cutFrom hp hu 0 true s⟩
  · rintro ⟨rfl, hcut⟩
    exact cutFrom_writePieces hp hu hcut true

/-- Where the pattern matches, the first of the pieces is the match. -/
lemma Cut.exists_head (hp : p.Reads f) {ps : List (Char ⊕ α)} {value : α} {rest : List Char}
    (hcut : Cut p f ps) (h : p true (writePieces f ps) = some (value, rest)) :
    ∃ more, ps = .inr value :: more ∧ writePieces f more = rest := by
  cases ps with
  | nil => exact absurd (List.append_eq_nil_iff.mp (hp h).1.symm).1 (hp h).2
  | cons piece ps =>
    cases piece with
    | inl c =>
      rw [writePieces_inl, hcut.1] at h
      cases h
    | inr value' =>
      rw [writePieces_inr, hcut.1] at h
      cases h
      exact ⟨ps, rfl, rfl⟩

/-! ## Matches with their texts -/

/-- The pattern with the text of a match beside its value. -/
def Pattern.withText (p : Pattern α) : Pattern (List Char × α) := fun lineStart s =>
  (p lineStart s).map fun (value, rest) => ((s.take (s.length - rest.length), value), rest)

/-- The matches are the same with their texts beside them. -/
lemma pieces_withText (p : Pattern α) (s : List Char) :
    pieces p s = (pieces p.withText s).map (Sum.map id Prod.snd) := by
  refine cutFrom_map (fun lineStart s => ?_) 0 true s
  rw [Pattern.withText, Option.map_map]
  exact (congrFun Option.map_id (p lineStart s)).symm

/-- A match that leaves a part of the text has a text of its own. -/
lemma Pattern.withText_reads
    (hp : ∀ lineStart s value rest, p lineStart s = some (value, rest) →
      ∃ t, t ≠ [] ∧ s = t ++ rest) : p.withText.Reads Prod.fst := by
  intro lineStart s found rest h
  obtain ⟨⟨value, behind⟩, hmatch, heq⟩ := Option.map_eq_some_iff.mp h
  cases heq
  obtain ⟨t, ht, rfl⟩ := hp lineStart s value rest hmatch
  have htake : (t ++ rest).take ((t ++ rest).length - rest.length) = t := by
    rw [List.length_append, Nat.add_sub_cancel, List.take_left]
  rw [htake]
  exact ⟨rfl, ht⟩

/-! ## Places of matches -/

/-- The matches, each with the number of characters in front of it; `n` are in front of the first
piece. -/
def placed (f : α → List Char) : Nat → List (Char ⊕ α) → List (Nat × α)
  | _, [] => []
  | n, .inl _ :: ps => placed f (n + 1) ps
  | n, .inr value :: ps => (n, value) :: placed f (n + (f value).length) ps

variable {ps qs : List (Char ⊕ α)} {n : Nat} {x : Nat × α}

/-- The places of a second part are moved by the length of the first one. -/
lemma placed_append (f : α → List Char) (n : Nat) (ps qs : List (Char ⊕ α)) :
    placed f n (ps ++ qs) = placed f n ps ++ placed f (n + (writePieces f ps).length) qs := by
  induction ps generalizing n with
  | nil => rfl
  | cons piece ps ih =>
    cases piece with
    | inl c =>
      rw [List.cons_append, placed, ih, placed, writePieces_inl, List.length_cons]
      congr 2
      omega
    | inr value =>
      rw [List.cons_append, placed, ih, placed, writePieces_inr, List.length_append, List.cons_append]
      congr 3
      omega

/-- A text without matches has no places. -/
lemma placed_map_inl (f : α → List Char) (n : Nat) (s : List Char) :
    placed f n (s.map .inl) = [] := by
  induction s generalizing n with
  | nil => rfl
  | cons c cs ih => exact ih (n + 1)

/-- A match stands between the ends of the text. -/
lemma le_of_mem_placed (h : x ∈ placed f n ps) :
    n ≤ x.1 ∧ x.1 + (f x.2).length ≤ n + (writePieces f ps).length := by
  induction ps generalizing n with
  | nil => cases h
  | cons piece ps ih =>
    cases piece with
    | inl c =>
      obtain ⟨hle, hend⟩ := ih h
      rw [writePieces_inl, List.length_cons]
      omega
    | inr value =>
      rw [writePieces_inr, List.length_append]
      rcases List.mem_cons.mp h with rfl | h
      · refine ⟨Nat.le_refl n, ?_⟩
        show n + (f value).length ≤ _
        omega
      · obtain ⟨hle, hend⟩ := ih h
        omega

/-- A match that is not at the place of the first one is behind it. -/
lemma mem_placed_behind {value : α} (h : x ∈ placed f n (.inr value :: ps)) (hlt : n < x.1) :
    x ∈ placed f (n + (f value).length) ps := by
  rcases List.mem_cons.mp h with rfl | h
  · exact absurd hlt (Nat.lt_irrefl n)
  · exact h

/-- A place is the length of what is written in front. -/
lemma exists_of_mem_placed (h : x ∈ placed f n ps) : ∃ front more,
    ps = front ++ .inr x.2 :: more ∧ x.1 = n + (writePieces f front).length := by
  induction ps generalizing n with
  | nil => cases h
  | cons piece ps ih =>
    cases piece with
    | inl c =>
      obtain ⟨front, more, rfl, hplace⟩ := ih h
      refine ⟨.inl c :: front, more, rfl, ?_⟩
      rw [writePieces_inl, List.length_cons]
      omega
    | inr value =>
      rcases List.mem_cons.mp h with rfl | h
      · exact ⟨[], ps, rfl, rfl⟩
      · obtain ⟨front, more, rfl, hplace⟩ := ih h
        refine ⟨.inr value :: front, more, rfl, ?_⟩
        rw [writePieces_inr, List.length_append]
        omega

/-- The first match for which something does not hold. -/
lemma exists_first_placed {Q : Nat × α → Prop} (h : ¬∀ x ∈ placed f n ps, Q x) :
    ∃ front value more, ps = front ++ .inr value :: more ∧
      ¬Q (n + (writePieces f front).length, value) ∧ ∀ x ∈ placed f n front, Q x := by
  induction ps generalizing n with
  | nil => exact absurd nofun h
  | cons piece ps ih =>
    cases piece with
    | inl c =>
      obtain ⟨front, value, more, rfl, hnot, hfront⟩ := ih h
      refine ⟨.inl c :: front, value, more, rfl, ?_, hfront⟩
      rwa [writePieces_inl, List.length_cons, Nat.add_comm _ 1, ← Nat.add_assoc]
    | inr value =>
      by_cases hvalue : Q (n, value)
      · have hrest : ¬∀ x ∈ placed f (n + (f value).length) ps, Q x := fun hrest =>
          h fun x hx => (List.mem_cons.mp hx).elim (fun heq => heq ▸ hvalue) (hrest x)
        obtain ⟨front, value', more, rfl, hnot, hfront⟩ := ih hrest
        refine ⟨.inr value :: front, value', more, rfl, ?_, ?_⟩
        · rwa [writePieces_inr, List.length_append, ← Nat.add_assoc]
        · rintro x hx
          rcases List.mem_cons.mp hx with rfl | hx
          · exact hvalue
          · exact hfront x hx
      · exact ⟨[], value, ps, rfl, hvalue, nofun⟩

/-- In front of the first match stand characters. -/
lemma exists_chars {a t : List Char} (htext : writePieces f ps = a ++ t)
    (hplaces : ∀ x ∈ placed f n ps, n + a.length ≤ x.1) :
    ∃ more, ps = a.map .inl ++ more ∧ writePieces f more = t := by
  induction a generalizing ps n with
  | nil => exact ⟨ps, rfl, htext⟩
  | cons c a ih =>
    rw [List.length_cons] at hplaces
    cases ps with
    | nil => cases htext
    | cons piece ps =>
      cases piece with
      | inl d =>
        obtain ⟨rfl, hrest⟩ := List.cons.inj htext
        have hplaces (x) (hx : x ∈ placed f (n + 1) ps) : n + 1 + a.length ≤ x.1 := by
          have hplace := hplaces x hx
          omega
        obtain ⟨more, rfl, hmore⟩ := ih hrest hplaces
        exact ⟨more, rfl, hmore⟩
      | inr value =>
        have hfirst : n + (a.length + 1) ≤ n := hplaces _ List.mem_cons_self
        omega

/-! ## Choosing matches -/

/-- Takes the matches apart that are not chosen. -/
def sift (P : α → Prop) [DecidablePred P] (f : α → List Char) (ps : List (Char ⊕ α)) :
    List (Char ⊕ α) :=
  ps.flatMap fun
    | .inl c => [.inl c]
    | .inr value => if P value then [.inr value] else (f value).map .inl

variable {P : α → Prop} [DecidablePred P]

/-- Matches that are written as they were may be taken apart. -/
lemma writePieces_sift {g : α → List Char} (hg : ∀ value, ¬P value → g value = f value)
    (ps : List (Char ⊕ α)) : writePieces g (sift P f ps) = writePieces g ps := by
  induction ps with
  | nil => rfl
  | cons piece ps ih =>
    rw [sift, List.flatMap_cons, ← sift, writePieces_append, ih]
    cases piece with
    | inl c => rfl
    | inr value =>
      rw [writePieces_inr]
      simp only
      split
      · rw [writePieces_inr, writePieces, List.flatMap_nil, List.append_nil]
      · rename_i hvalue
        rw [writePieces_map_inl, hg value hvalue]

/-- What is left of the matches has the property. -/
lemma mem_sift {value : α} (h : .inr value ∈ sift P f ps) : P value ∧ .inr value ∈ ps := by
  obtain ⟨piece, hpiece, hmem⟩ := List.mem_flatMap.mp h
  cases piece with
  | inl c => exact absurd (List.mem_singleton.mp hmem) Sum.inr_ne_inl
  | inr value' =>
    simp only at hmem
    split at hmem
    · rename_i hvalue
      cases List.mem_singleton.mp hmem
      exact ⟨hvalue, hpiece⟩
    · obtain ⟨c, -, hc⟩ := List.mem_map.mp hmem
      cases hc

/-- The matches that are left keep their places. -/
lemma mem_placed_sift : x ∈ placed f n (sift P f ps) ↔ x ∈ placed f n ps ∧ P x.2 := by
  induction ps generalizing n with
  | nil => exact iff_of_false List.not_mem_nil fun h => List.not_mem_nil h.1
  | cons piece ps ih =>
    rw [sift, List.flatMap_cons, ← sift, placed_append, List.mem_append, ih]
    cases piece with
    | inl c => simp [placed, writePieces]
    | inr value =>
      have hhead : x ∈ placed f n (if P value then [.inr value] else (f value).map .inl) ↔
          x = (n, value) ∧ P x.2 := by
        split
        · rename_i hvalue
          rw [placed, placed, List.mem_singleton]
          exact ⟨fun h => ⟨h, h ▸ hvalue⟩, fun h => h.1⟩
        · rename_i hvalue
          rw [placed_map_inl]
          exact iff_of_false List.not_mem_nil fun ⟨h, hx⟩ => hvalue (by rwa [h] at hx)
      have hlength : (writePieces f (if P value then [.inr value] else (f value).map .inl)).length =
          (f value).length := by
        split
        · rw [writePieces_inr, writePieces, List.flatMap_nil, List.append_nil]
        · rw [writePieces_map_inl]
      rw [placed, List.mem_cons, or_and_right]
      simp only [hhead, hlength]

end LiveBundle.Text
