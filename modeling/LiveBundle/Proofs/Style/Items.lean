import LiveBundle.Proofs.Style.Variables

/-!
# Declarations and the text between them

A source is a sequence of declarations and of the text between them.

* `items` is the sequence, `kept_items` and `assignments_items` say what it is made of;
* `exists_assignments`: how its declarations are written, and which of them are marked;
* `lined_items`: a text in front of a declaration ends with its line.
-/

namespace LiveBundle.Style

open Text (writePieces pieces isSpaceOrTab startsLine)

variable {s name value rest : List Char} {lineStart : Bool}

/-! ## The sequence -/

/-- A declaration with its name, its value and whether it is marked `!default`. -/
structure Assignment where
  name : List Char
  value : List Char
  isDefault : Bool
deriving DecidableEq

/-- A text between declarations, or a declaration. -/
inductive Item where
  | text (t : List Char)
  | assignment (a : Assignment)
deriving DecidableEq

/-- The part of a declaration between its colon and its semicolon. -/
def bodyOf (text : List Char) : List Char :=
  ((text.dropWhile (· != ':')).drop 1).takeWhile (· != ';')

/-- Whether a mark stands behind the value of a declaration. -/
def isMarked (text value : List Char) : Bool :=
  (((bodyOf text).dropWhile isSpaceOrTab).drop value.length).contains '!'

/-- A character in front of items belongs to the text that they begin with. -/
def consChar (c : Char) : List Item → List Item
  | .text t :: parts => .text (c :: t) :: parts
  | parts => .text [c] :: parts

/-- The items of pieces; a declaration comes with its text, its name and its value. -/
def itemsOf : List (Char ⊕ (List Char × List Char × List Char)) → List Item
  | [] => []
  | .inl c :: ps => consChar c (itemsOf ps)
  | .inr (text, name, value) :: ps =>
    .assignment ⟨name, value, isMarked text value⟩ :: itemsOf ps

/-- The items of a source. -/
def items (s : List Char) : List Item := itemsOf (pieces declaration.withText s)

/-- The text of an item that is no declaration. -/
def Item.kept : Item → List Char
  | .text t => t
  | .assignment _ => []

/-- The declaration of an item. -/
def Item.assignment? : Item → Option Assignment
  | .text _ => none
  | .assignment a => some a

/-- The declarations among items. -/
def assignments (parts : List Item) : List Assignment := parts.filterMap Item.assignment?

/-- The variables that are declared among items. -/
def assigned (parts : List Item) : List (List Char) := (assignments parts).map (·.name)

/-- What is assigned in two sequences is assigned in one of them, in order. -/
lemma assigned_append (front back : List Item) :
    assigned (front ++ back) = assigned front ++ assigned back := by
  rw [assigned, assignments, List.filterMap_append, List.map_append]
  rfl

/-- A character in front of a sequence is kept. -/
lemma kept_consChar (c : Char) (parts : List Item) :
    (consChar c parts).flatMap Item.kept = c :: parts.flatMap Item.kept := by
  unfold consChar
  split <;> rfl

/-- A character in front of a sequence assigns nothing. -/
lemma assignments_consChar (c : Char) (parts : List Item) :
    assignments (consChar c parts) = assignments parts := by
  unfold consChar
  split <;> rfl

/-- The texts of the items are what is left without the declarations. -/
lemma kept_items (s : List Char) : (items s).flatMap Item.kept = remaining s := by
  have hpieces (ps : List (Char ⊕ (List Char × List Char × List Char))) :
      (itemsOf ps).flatMap Item.kept = writePieces (fun _ => []) ps := by
    induction ps with
    | nil => rfl
    | cons piece ps ih =>
      cases piece with
      | inl c => rw [itemsOf, kept_consChar, ih, Text.writePieces_inl]
      | inr d =>
        rw [itemsOf, List.flatMap_cons, ih, Text.writePieces_inr]
        rfl
  rw [items, hpieces, remaining, Text.replaceAll, Text.pieces_withText declaration,
    Text.writePieces_map]

/-- The declarations among the items are those of the source. -/
lemma assignments_items (s : List Char) :
    (assignments (items s)).map (fun a => (a.name, a.value)) = declaredIn s := by
  have hpieces (ps : List (Char ⊕ (List Char × List Char × List Char))) :
      (assignments (itemsOf ps)).map (fun a => (a.name, a.value)) =
        (ps.filterMap Sum.getRight?).map Prod.snd := by
    induction ps with
    | nil => rfl
    | cons piece ps ih =>
      cases piece with
      | inl c =>
        rw [itemsOf, assignments_consChar, ih]
        rfl
      | inr d => exact congrArg (List.cons d.2) ih
  rw [items, hpieces, declaredIn, Text.hits, Text.pieces_withText declaration, List.filterMap_map,
    List.map_filterMap]
  congr 1
  funext piece
  cases piece <;> rfl

/-! ### Marks -/

/-- A declaration as it is written: behind its value stands `!default` if it is marked, and nothing
but blanks otherwise. -/
def IsAssignment (text : List Char) (a : Assignment) : Prop :=
  ∃ indent gap lead blanks mark ending, text =
      indent ++ '$' :: a.name ++ gap ++ ':' :: (lead ++ a.value ++ blanks ++ mark) ++
        ';' :: ending ∧
    AreBlanks indent ∧ IsVariableName a.name ∧ AreBlanks gap ∧ AreBlanks lead ∧ a.value ≠ [] ∧
    AreBlanks blanks ∧ IsLineEnd ending ∧
    if a.isDefault then ∃ more, mark = "!default".toList ++ more ∧ AreBlanks more else mark = []

/-- Behind a value stand blanks, and maybe `!default` with blanks behind it. -/
lemma isValueEnd_text {mark : List Char} (h : isValueEnd mark = true) :
    ∃ blanks more, mark = blanks ++ more ∧ AreBlanks blanks ∧
      (more = [] ∨ ∃ back, more = "!default".toList ++ back ∧ AreBlanks back) := by
  obtain ⟨blanks, htext, hblanks⟩ := dropWhile_blanks mark
  refine ⟨blanks, _, htext, hblanks, ?_⟩
  unfold isValueEnd at h
  split at h
  · rename_i hnil
    exact .inl hnil
  · split at h
    · rename_i back hmark
      refine .inr ⟨back, (List.isPrefixOf?_eq_some_iff_append_eq.mp hmark).symm, ?_⟩
      exact fun c hc => List.all_eq_true.mp h c hc
    · cases h

/-- The body of a declaration stands between its colon and its semicolon. -/
lemma bodyOf_append {front body back : List Char} (hfront : ':' ∉ front) (hbody : ';' ∉ body) :
    bodyOf (front ++ ':' :: body ++ ';' :: back) = body := by
  have hcolon : ∀ c ∈ front, (c != ':') = true := fun c hc =>
    bne_iff_ne.mpr fun h => hfront (h ▸ hc)
  have hsemicolon : ∀ c ∈ body, (c != ';') = true := fun c hc =>
    bne_iff_ne.mpr fun h => hbody (h ▸ hc)
  have hdrop := (Text.span_append (t := ':' :: (body ++ ';' :: back)) hcolon (by simp)).2
  have htake := (Text.span_append (t := ';' :: back) hsemicolon (by simp)).1
  rw [bodyOf, List.append_assoc, List.cons_append, hdrop]
  exact htake

/-- What is read as a declaration is the text of an assignment. -/
lemma exists_isAssignment (h : declaration lineStart s = some ((name, value), rest)) :
    ∃ text, s = text ++ rest ∧ IsAssignment text ⟨name, value, isMarked text value⟩ := by
  obtain ⟨-, indent, gap, body, ending, htext, hindent, hname, hgap, hsemicolon, hvalue, hending⟩ :=
    exists_body_of_declaration h
  have hcolon : ':' ∉ indent ++ '$' :: name ++ gap := by
    intro hmem
    simp only [List.mem_append, List.mem_cons] at hmem
    rcases hmem with (hmem | heq | hmem) | hmem
    · exact absurd (hindent _ hmem) (by decide)
    · exact absurd heq (by decide)
    · exact absurd (hname.2 _ hmem) (by decide)
    · exact absurd (hgap _ hmem) (by decide)
  obtain ⟨lead, mark, hbody, hlead, hne, hmark, hdrop⟩ := valueOf?_text hvalue
  obtain ⟨blanks, more, rfl, hblanks, hmore⟩ := isValueEnd_text hmark
  refine ⟨_, htext, indent, gap, lead, blanks, more, ending, ?_, hindent, hname, hgap, hlead, hne,
    hblanks, hending, ?_⟩
  · rw [hbody]
    simp
  · have hmarked : isMarked (indent ++ '$' :: name ++ gap ++ ':' :: body ++ ';' :: ending) value =
        (blanks ++ more).contains '!' := by
      rw [isMarked, bodyOf_append hcolon hsemicolon, hdrop]
    simp only [hmarked]
    have hblank : '!' ∉ blanks := fun hmem => absurd (hblanks _ hmem) (by decide)
    rcases hmore with rfl | ⟨back, rfl, hback⟩
    · rw [if_neg (by simpa using hblank)]
    · rw [if_pos (by simp)]
      exact ⟨back, rfl, hback⟩

/-- The items are what a source is cut into. -/
lemma exists_assignments (s : List Char) :
    ∃ ps : List (Char ⊕ (List Char × List Char × List Char)),
      writePieces Prod.fst ps = s ∧ items s = itemsOf ps ∧
      ∀ text name value, .inr (text, name, value) ∈ ps →
        IsAssignment text ⟨name, value, isMarked text value⟩ := by
  refine ⟨pieces declaration.withText s, Text.writePieces_pieces declaration_withText_reads s, rfl,
    ?_⟩
  intro text name value hmem
  obtain ⟨front, more, hps⟩ := List.append_of_mem hmem
  obtain ⟨text', htext, hassignment⟩ := exists_isAssignment (declaration_of_pieces hps)
  obtain rfl : text = text' := List.append_cancel_right htext
  exact hassignment

/-! ## Lines -/

/-- A text in front of another item ends with its line. -/
def Lined : List Item → Prop
  | [] => True
  | .text t :: parts => (parts = [] ∨ t.getLast? = some '\n') ∧ Lined parts
  | .assignment _ :: parts => Lined parts

/-- A declaration that is the first item is the first piece. -/
lemma exists_of_itemsOf {ps : List (Char ⊕ (List Char × List Char × List Char))} {a : Assignment}
    {parts : List Item} (h : itemsOf ps = .assignment a :: parts) :
    ∃ d more, ps = .inr d :: more := by
  cases ps with
  | nil => cases h
  | cons piece ps =>
    cases piece with
    | inl c =>
      rw [itemsOf] at h
      unfold consChar at h
      split at h <;> cases h
    | inr d => exact ⟨d, ps, rfl⟩

/-- Declarations that start lines make a sequence in which they do. -/
lemma lined_itemsOf {ps : List (Char ⊕ (List Char × List Char × List Char))}
    (h : ∀ front d more, ps = front ++ .inr d :: more →
      startsLine lineStart (writePieces Prod.fst front) = true) : Lined (itemsOf ps) := by
  induction ps generalizing lineStart with
  | nil => trivial
  | cons piece ps ih =>
    have hlines (front : List (Char ⊕ (List Char × List Char × List Char)))
        (d : List Char × List Char × List Char) (more : List _) (hps : ps = front ++ .inr d :: more) :
        startsLine (startsLine lineStart (writePieces Prod.fst [piece]))
          (writePieces Prod.fst front) = true := by
      rw [← Text.startsLine_append, ← Text.writePieces_append]
      exact h (piece :: front) d more (by rw [hps, List.cons_append])
    have hbehind : Lined (itemsOf ps) := ih hlines
    cases piece with
    | inr d => exact hbehind
    | inl c =>
      rw [itemsOf]
      cases hparts : itemsOf ps with
      | nil => exact ⟨.inl rfl, trivial⟩
      | cons item parts =>
        rw [hparts] at hbehind
        cases item with
        | text t =>
          refine ⟨hbehind.1.imp_right fun hlast => ?_, hbehind.2⟩
          rw [List.getLast?_cons, hlast]
          rfl
        | assignment a =>
          obtain ⟨d, more, rfl⟩ := exists_of_itemsOf hparts
          have hline := h [.inl c] d more rfl
          refine ⟨.inr ?_, hbehind⟩
          rw [List.getLast?_singleton]
          exact congrArg some (of_decide_eq_true hline)

/-- In the sequence of a text declarations stand at the starts of lines. -/
lemma lined_items (s : List Char) : Lined (items s) :=
  lined_itemsOf fun _ _ _ hps => (exists_body_of_declaration (declaration_of_pieces hps)).1

end LiveBundle.Style
