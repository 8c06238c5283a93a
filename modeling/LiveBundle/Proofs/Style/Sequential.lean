import LiveBundle.Proofs.Style.Items

/-!
# Evaluating in order

The usual way to evaluate a source goes through its items once. A reference has the value that its
variable has there, a declaration changes the value from there on, and one that is marked `!default`
only gives a value to a variable that has none. Expanding collects all declarations first.

* `sequential` evaluates in order, `evaluate_cases`: this fails at references in front of the first
  declaration of their variable, and at nothing else;
* `expandVariables_eq_evaluate`: expanding is evaluating a source in which all declarations stand in
  front and none is marked;
* `Steady`: each reference has the value there that its variable has in the end;
  `steady_of_ordered`: it is enough that no text refers to what is declared behind it, and that marks
  stand at first declarations only;
* `expandVariables_sequential`: what holds of the two for all sources, and where they agree.
-/

namespace LiveBundle.Style

open Text (writePieces)

variable {s name value : List Char} {known final : Variables} {item : Item}
  {parts front back : List Item} {a : Assignment}

/-! ## Evaluating -/

/-- An item refers to a variable. -/
def Item.Refers : Item → List Char → Prop
  | .text t, name => Style.Refers t name
  | .assignment a, name => Style.Refers a.value name

/-- The variables behind a declaration that gives a value to one of them. -/
def assign (known : Variables) (a : Assignment) (value : List Char) : Variables :=
  if a.isDefault = true ∧ Known known a.name then known
  else known.insert (String.ofList a.name) value

/-- The text that an item gives, and the variables behind it. -/
def Item.evaluate (known : Variables) : Item → Except Failure (List Char × Variables)
  | .text t => do return (← substitute known t, known)
  | .assignment a => do return ([], assign known a (← substitute known a.value))

/-- The text that items give, one after the other. -/
def evaluate : Variables → List Item → Except Failure (List Char)
  | _, [] => .ok []
  | known, item :: parts => do
    let (t, known) ← item.evaluate known
    return t ++ (← evaluate known parts)

/-- The text that a source gives in order. -/
def sequential (s : List Char) : Except Failure (List Char) := evaluate Dict.empty (items s)

/-- The text of an item with the values of its variables. -/
def Item.output (known : Variables) : Item → List Char
  | .text t => substituted known t
  | .assignment _ => []

/-- The variables behind an item. -/
def Item.behind (known : Variables) : Item → Variables
  | .text _ => known
  | .assignment a => assign known a (substituted known a.value)

/-- The text of items. -/
def output : Variables → List Item → List Char
  | _, [] => []
  | known, item :: parts => item.output known ++ output (item.behind known) parts

/-- The variables behind items. -/
def behind (known : Variables) (parts : List Item) : Variables := parts.foldl Item.behind known

/-- An item is evaluated unless a reference has no value. -/
lemma Item.evaluate_cases (known : Variables) (item : Item) :
    (∃ name, item.Refers name ∧ ¬Known known name ∧
      item.evaluate known = .error (.undefinedVariable (String.ofList name))) ∨
    (∀ name, item.Refers name → Known known name) ∧
      item.evaluate known = .ok (item.output known, item.behind known) := by
  cases item with
  | text t =>
    rcases substitute_cases known t with ⟨name, hrefers, hunknown, hrun⟩ | ⟨hknown, hrun⟩
    · refine .inl ⟨name, hrefers, hunknown, ?_⟩
      rw [Item.evaluate, hrun]
      rfl
    · refine .inr ⟨hknown, ?_⟩
      rw [Item.evaluate, hrun]
      rfl
  | assignment a =>
    rcases substitute_cases known a.value with ⟨name, hrefers, hunknown, hrun⟩ | ⟨hknown, hrun⟩
    · refine .inl ⟨name, hrefers, hunknown, ?_⟩
      rw [Item.evaluate, hrun]
      rfl
    · refine .inr ⟨hknown, ?_⟩
      rw [Item.evaluate, hrun]
      rfl

/-! ### Variables behind items -/

/-- An assignment adds its variable to those that are known. -/
lemma known_assign : Known (assign known a value) name ↔ Known known name ∨ name = a.name := by
  unfold assign
  split
  · rename_i h
    refine (or_iff_left_of_imp ?_).symm
    rintro rfl
    exact h.2
  · rw [Known, Dict.get?_insert, Known]
    split
    · rename_i heq
      exact iff_of_true rfl (.inr (String.ofList_injective heq).symm)
    · rename_i hne
      refine (or_iff_left ?_).symm
      rintro rfl
      exact hne rfl

/-- An assignment changes one variable. -/
lemma get?_assign_of_ne (h : name ≠ a.name) :
    (assign known a value).get? (String.ofList name) = known.get? (String.ofList name) := by
  unfold assign
  split
  · rfl
  · rw [Dict.get?_insert, if_neg]
    intro heq
    exact h (String.ofList_injective heq).symm

/-- The variables behind a sequence are those behind its rest, from those behind the first item. -/
lemma behind_cons (known : Variables) (item : Item) (parts : List Item) :
    behind known (item :: parts) = behind (item.behind known) parts := rfl

/-- The variables behind two sequences are reached one sequence after the other. -/
lemma behind_append (known : Variables) (front back : List Item) :
    behind known (front ++ back) = behind (behind known front) back := List.foldl_append

/-- A variable has a value behind items if it had one or is declared there. -/
lemma known_behind : Known (behind known parts) name ↔
    Known known name ∨ name ∈ assigned parts := by
  induction parts generalizing known with
  | nil => simp [behind, assigned, assignments]
  | cons item parts ih =>
    rw [behind_cons, ih]
    cases item with
    | text t => rfl
    | assignment a =>
      have hassigned : assigned (.assignment a :: parts) = a.name :: assigned parts := rfl
      rw [Item.behind, known_assign, hassigned, List.mem_cons, or_assoc]

/-- Without variables in front, those that are declared have a value. -/
lemma known_behind_empty : Known (behind Dict.empty parts) name ↔ name ∈ assigned parts := by
  rw [known_behind, Known, Dict.get?_empty]
  simp

/-- A variable that is not declared keeps its value. -/
lemma get?_behind (h : name ∉ assigned parts) :
    (behind known parts).get? (String.ofList name) = known.get? (String.ofList name) := by
  induction parts generalizing known with
  | nil => rfl
  | cons item parts ih =>
    rw [behind_cons]
    cases item with
    | text t => exact ih h
    | assignment a =>
      have hnot : name ∉ a.name :: assigned parts := h
      rw [List.mem_cons, not_or] at hnot
      rw [ih hnot.2, Item.behind, get?_assign_of_ne hnot.1]

/-! ### Where evaluating fails -/

/-- A reference has no value where it stands. -/
def Lacks (known : Variables) (parts : List Item) : Prop :=
  ∃ front item back name, parts = front ++ item :: back ∧ item.Refers name ∧
    ¬Known (behind known front) name

/-- An item refers to a variable that is not declared in front of it. -/
def Early (parts : List Item) : Prop :=
  ∃ front item back name, parts = front ++ item :: back ∧ item.Refers name ∧
    name ∉ assigned front

/-- From no variables, a sequence lacks what it refers to too early. -/
lemma lacks_iff_early : Lacks Dict.empty parts ↔ Early parts := by
  simp only [Lacks, Early, known_behind_empty]

/-- What is lacking is lacking at the first item or behind it. -/
lemma lacks_cons : Lacks known (item :: parts) ↔
    (∃ name, item.Refers name ∧ ¬Known known name) ∨ Lacks (item.behind known) parts := by
  constructor
  · intro ⟨front, item', back, name, hparts, hrefers, hunknown⟩
    rcases List.cons_eq_append_iff.mp hparts with ⟨rfl, hback⟩ | ⟨front, rfl, hback⟩
    · cases hback
      exact .inl ⟨name, hrefers, hunknown⟩
    · exact .inr ⟨front, item', back, name, hback, hrefers, hunknown⟩
  · rintro (⟨name, hrefers, hunknown⟩ | ⟨front, item', back, name, rfl, hrefers, hunknown⟩)
    · exact ⟨[], item, parts, name, rfl, hrefers, hunknown⟩
    · exact ⟨item :: front, item', back, name, rfl, hrefers, hunknown⟩

/-- Evaluating fails where a variable is lacking, and gives the output otherwise. -/
lemma evaluate_cases (known : Variables) (parts : List Item) :
    Lacks known parts ∧ (∃ name, evaluate known parts = .error (.undefinedVariable name)) ∨
    ¬Lacks known parts ∧ evaluate known parts = .ok (output known parts) := by
  induction parts generalizing known with
  | nil =>
    refine .inr ⟨?_, rfl⟩
    intro ⟨front, item, back, name, h, _⟩
    simp at h
  | cons item parts ih =>
    rw [lacks_cons, evaluate]
    rcases Item.evaluate_cases known item with ⟨name, hrefers, hunknown, hrun⟩ | ⟨hknown, hrun⟩
    · refine .inl ⟨.inl ⟨name, hrefers, hunknown⟩, String.ofList name, ?_⟩
      rw [hrun]
      rfl
    · have hhead : ¬∃ name, item.Refers name ∧ ¬Known known name := by
        intro ⟨name, hrefers, hunknown⟩
        exact hunknown (hknown name hrefers)
      rw [or_iff_right hhead, hrun]
      rcases ih (item.behind known) with ⟨hlacks, name, hrest⟩ | ⟨hnot, hrest⟩
      · refine .inl ⟨hlacks, name, ?_⟩
        show (do return item.output known ++ (← evaluate (item.behind known) parts)) = _
        rw [hrest]
        rfl
      · refine .inr ⟨hnot, ?_⟩
        show (do return item.output known ++ (← evaluate (item.behind known) parts)) = _
        rw [hrest]
        rfl

/-- Without variables in front, evaluating fails at early references, and at nothing else. -/
lemma evaluate_empty_cases (parts : List Item) :
    Early parts ∧ (∃ name, evaluate Dict.empty parts = .error (.undefinedVariable name)) ∨
    ¬Early parts ∧ evaluate Dict.empty parts = .ok (output Dict.empty parts) := by
  rw [← lacks_iff_early]
  exact evaluate_cases Dict.empty parts

/-! ## Declarations in front -/

/-- A declaration without its mark. -/
def Assignment.unmarked (a : Assignment) : Assignment := { a with isDefault := false }

/-- The declarations among items, without their marks. -/
def unmarked (parts : List Item) : List Item :=
  (assignments parts).map fun a => .assignment a.unmarked

/-- The texts among items. -/
def texts (parts : List Item) : List Item := parts.filter fun item => item.assignment?.isNone

/-- The items with all declarations in front, and none of them marked. -/
def hoisted (parts : List Item) : List Item := unmarked parts ++ texts parts

/-- The marks of two sequences are taken off each of them. -/
lemma unmarked_append (front back : List Item) :
    unmarked (front ++ back) = unmarked front ++ unmarked back := by
  rw [unmarked, assignments, List.filterMap_append, List.map_append]
  rfl

/-- The assignments are kept, without their marks. -/
lemma assignments_unmarked (parts : List Item) :
    assignments (unmarked parts) = (assignments parts).map Assignment.unmarked := by
  rw [unmarked, assignments, List.filterMap_map]
  exact congrFun List.filterMap_eq_map (assignments parts)

/-- The same variables are assigned. -/
lemma assigned_unmarked (parts : List Item) : assigned (unmarked parts) = assigned parts := by
  rw [assigned, assignments_unmarked, List.map_map]
  rfl

/-- Without marks, all assignments are declared before the rest is evaluated. -/
lemma evaluate_unmarked (known : Variables) (parts rest : List Item) :
    evaluate known (unmarked parts ++ rest) = (do
      evaluate (← declareAll known ((assignments parts).map fun a => (a.name, a.value))) rest) := by
  rw [unmarked]
  induction assignments parts generalizing known with
  | nil => rfl
  | cons a as ih =>
    rw [List.map_cons, List.cons_append, evaluate, List.map_cons, declareAll]
    rcases substitute_cases known a.value with ⟨name, -, -, hrun⟩ | ⟨-, hrun⟩
    · rw [Item.evaluate, Assignment.unmarked, hrun]
      rfl
    · rw [Item.evaluate, Assignment.unmarked, hrun]
      have hrest := ih (known.insert (String.ofList a.name) (substituted known a.value))
      show (do return [] ++ (← evaluate _ _)) = (do evaluate (← declareAll _ _) rest)
      rw [← hrest]
      simp
      rfl

/-- A text has its variables put in. -/
lemma evaluate_text (known : Variables) (t : List Char) (rest : List Item) :
    evaluate known (.text t :: rest) =
      (do return (← substitute known t) ++ (← evaluate known rest)) := by
  simp only [evaluate, Item.evaluate, bind_assoc, pure_bind]

/-- Texts alone have the variables put in, all at once. -/
lemma evaluate_texts (h : Lined parts) :
    evaluate known (texts parts) = substitute known (parts.flatMap Item.kept) := by
  induction parts with
  | nil => rfl
  | cons item parts ih =>
    cases item with
    | assignment a => exact ih h
    | text t =>
      have htexts : texts (.text t :: parts) = .text t :: texts parts := rfl
      rw [htexts, evaluate_text, ih h.2, List.flatMap_cons, Item.kept]
      rcases h.1 with rfl | hline
      · rw [List.flatMap_nil, List.append_nil]
        show (do return (← substitute known t) ++ []) = _
        simp
      · rw [substitute_append (.inr hline)]

/-- Expanding a source is evaluating another one, with all declarations in front. -/
lemma expandVariables_eq_evaluate (s : List Char) :
    expandVariables s = evaluate Dict.empty (hoisted (items s)) := by
  rw [hoisted, evaluate_unmarked, assignments_items, expandVariables_eq, ← kept_items]
  simp only [evaluate_texts (lined_items s)]

/-! ### Failures -/

/-- The texts of a sequence are its items that are texts. -/
lemma mem_texts : item ∈ texts parts ↔ ∃ t, item = .text t ∧ .text t ∈ parts := by
  rw [texts, List.mem_filter]
  cases item with
  | text t => simp [Item.assignment?]
  | assignment a => simp [Item.assignment?]

/-- The declarations among items are found where they stand. -/
lemma exists_of_assignments {earlier later : List Assignment}
    (h : assignments parts = earlier ++ a :: later) :
    ∃ front back, parts = front ++ .assignment a :: back ∧ assignments front = earlier := by
  induction parts generalizing earlier with
  | nil => simp [assignments] at h
  | cons item parts ih =>
    cases item with
    | text t =>
      obtain ⟨front, back, rfl, hfront⟩ := ih h
      exact ⟨.text t :: front, back, rfl, hfront⟩
    | assignment b =>
      have hcons : b :: assignments parts = earlier ++ a :: later := h
      rcases List.cons_eq_append_iff.mp hcons with ⟨rfl, heq⟩ | ⟨earlier, rfl, hrest⟩
      · cases heq
        exact ⟨[], parts, rfl, rfl⟩
      · obtain ⟨front, back, rfl, hfront⟩ := ih hrest
        exact ⟨.assignment b :: front, back, rfl, by rw [← hfront]; rfl⟩

/-- Where evaluating fails with the declarations in front. -/
lemma early_hoisted_iff : Early (hoisted parts) ↔
    (∃ front a back name, parts = front ++ .assignment a :: back ∧ Style.Refers a.value name ∧
      name ∉ assigned front) ∨
    ∃ t name, .text t ∈ parts ∧ Style.Refers t name ∧ name ∉ assigned parts := by
  constructor
  · intro ⟨front, item, back, name, hsplit, hrefers, hname⟩
    have htext {more : List Item} (hfront : front = unmarked parts ++ more)
        (hitem : item ∈ texts parts) :
        ∃ t name, .text t ∈ parts ∧ Style.Refers t name ∧ name ∉ assigned parts := by
      obtain ⟨t, rfl, hmem⟩ := mem_texts.mp hitem
      rw [hfront, assigned_append, List.mem_append, not_or, assigned_unmarked] at hname
      exact ⟨t, name, hmem, hrefers, hname.1⟩
    rcases List.append_eq_append_iff.mp hsplit with
      ⟨more, hfront, htexts⟩ | ⟨more, hdeclared, hmore⟩
    · exact .inr (htext hfront (htexts ▸ List.mem_append_right _ List.mem_cons_self))
    · cases more with
      | nil =>
        have htexts : item :: back = texts parts := hmore
        have hfront : front = unmarked parts ++ [] := by
          rw [hdeclared, List.append_nil, List.append_nil]
        exact .inr (htext hfront (htexts ▸ List.mem_cons_self))
      | cons first more =>
        obtain ⟨rfl, -⟩ := List.cons.inj hmore
        obtain ⟨earlier, later, hassignments, rfl, hlater⟩ := List.map_eq_append_iff.mp hdeclared
        obtain ⟨a, later, rfl, rfl, -⟩ := List.map_eq_cons_iff.mp hlater
        obtain ⟨front, back, hparts, rfl⟩ := exists_of_assignments hassignments
        exact .inl ⟨front, a, back, name, hparts, hrefers, assigned_unmarked front ▸ hname⟩
  · rintro (⟨front, a, back, name, rfl, hrefers, hname⟩ | ⟨t, name, hmem, hrefers, hname⟩)
    · refine ⟨unmarked front, .assignment a.unmarked,
        unmarked back ++ texts (front ++ .assignment a :: back), name, ?_, hrefers, ?_⟩
      · rw [hoisted, unmarked_append, List.append_assoc]
        rfl
      · rwa [assigned_unmarked]
    · obtain ⟨ahead, more, htexts⟩ := List.append_of_mem (mem_texts.mpr ⟨t, rfl, hmem⟩)
      refine ⟨unmarked parts ++ ahead, .text t, more, name, ?_, hrefers, ?_⟩
      · rw [hoisted, htexts, List.append_assoc]
      · have hahead : assigned ahead = [] := by
          rw [assigned, List.map_eq_nil_iff, assignments, List.filterMap_eq_nil_iff]
          intro item hitem
          obtain ⟨t, rfl, -⟩ := mem_texts.mp (htexts ▸ List.mem_append_left _ hitem)
          rfl
        rwa [assigned_append, hahead, List.append_nil, assigned_unmarked]

/-- What fails with the declarations in front fails in order. -/
lemma early_of_hoisted (h : Early (hoisted parts)) : Early parts := by
  rcases early_hoisted_iff.mp h with ⟨front, a, back, name, hparts, hrefers, hname⟩ |
    ⟨t, name, hmem, hrefers, hname⟩
  · exact ⟨front, .assignment a, back, name, hparts, hrefers, hname⟩
  · obtain ⟨front, back, rfl⟩ := List.append_of_mem hmem
    rw [assigned_append, List.mem_append, not_or] at hname
    exact ⟨front, .text t, back, name, rfl, hrefers, hname.1⟩

/-! ## Where both ways agree -/

/-- Each reference of a text has the value there that its variable has behind all declarations, be
they marked or not. -/
def Steady (parts : List Item) : Prop :=
  ∀ front t back name, parts = front ++ .text t :: back → Style.Refers t name →
    (behind Dict.empty front).get? (String.ofList name) =
      (behind Dict.empty (unmarked parts)).get? (String.ofList name)

/-- A declaration that is marked is the first one of its variable, and a text refers to no variable
that is declared behind it. -/
structure Ordered (parts : List Item) : Prop where
  first : ∀ front a back, parts = front ++ .assignment a :: back → a.isDefault = true →
    a.name ∉ assigned front
  last : ∀ front t back name, parts = front ++ .text t :: back → Style.Refers t name →
    name ∉ assigned back

/-- The output of two sequences is that of each, with the variables behind the first one. -/
lemma output_append (known : Variables) (front back : List Item) :
    output known (front ++ back) = output known front ++ output (behind known front) back := by
  induction front generalizing known with
  | nil => rfl
  | cons item front ih =>
    rw [List.cons_append, output, ih, output, List.append_assoc]
    rfl

/-- Assignments put nothing out. -/
lemma output_unmarked (known : Variables) (parts : List Item) :
    output known (unmarked parts) = [] := by
  rw [unmarked]
  induction assignments parts generalizing known with
  | nil => rfl
  | cons a as ih => exact ih _

/-- Texts of which the references have their values already. -/
lemma output_eq_texts (h : ∀ front t back name, parts = front ++ .text t :: back →
      Style.Refers t name → valueOf (behind known front) name = valueOf final name) :
    output known parts = output final (texts parts) := by
  induction parts generalizing known with
  | nil => rfl
  | cons item parts ih =>
    have hbehind : output (item.behind known) parts = output final (texts parts) := by
      apply ih
      intro front t back name hparts hrefers
      exact h (item :: front) t back name (by rw [hparts, List.cons_append]) hrefers
    cases item with
    | assignment a => exact hbehind
    | text t =>
      have hvalue : substituted known t = substituted final t :=
        substituted_congr fun name hname => h [] t parts name rfl hname
      show substituted known t ++ _ = substituted final t ++ _
      rw [hvalue]
      exact congrArg _ hbehind

/-- With steady variables it does not matter that the assignments come first. -/
lemma output_of_steady (h : Steady parts) :
    output Dict.empty parts = output Dict.empty (hoisted parts) := by
  rw [hoisted, output_append, output_unmarked, List.nil_append]
  apply output_eq_texts
  intro front t back name hparts hrefers
  rw [valueOf, valueOf, h front t back name hparts hrefers]

/-- With steady variables nothing that comes too early is mended by hoisting. -/
lemma early_hoisted_of_steady (h : Steady parts) (hearly : Early parts) :
    Early (hoisted parts) := by
  obtain ⟨front, item, back, name, hparts, hrefers, hname⟩ := hearly
  apply early_hoisted_iff.mpr
  cases item with
  | assignment a => exact .inl ⟨front, a, back, name, hparts, hrefers, hname⟩
  | text t =>
    refine .inr ⟨t, name, hparts ▸ List.mem_append_right _ List.mem_cons_self, hrefers, ?_⟩
    -- The variable has no value there, and so it has none in the end.
    have hunknown : ¬Known (behind Dict.empty front) name := known_behind_empty.not.mpr hname
    rw [Known, h front t back name hparts hrefers, ← Known, known_behind_empty, assigned_unmarked]
      at hunknown
    exact hunknown

/-- With steady variables both ways give the same texts. -/
lemma sequential_of_steady (h : Steady (items s)) (t : List Char) :
    expandVariables s = .ok t ↔ sequential s = .ok t := by
  rw [expandVariables_eq_evaluate, sequential]
  rcases evaluate_empty_cases (items s) with ⟨hearly, name, hrun⟩ | ⟨hnot, hrun⟩
  · rcases evaluate_empty_cases (hoisted (items s)) with ⟨-, name', hrun'⟩ | ⟨hnot', -⟩
    · rw [hrun, hrun']
      exact iff_of_false nofun nofun
    · exact absurd (early_hoisted_of_steady h hearly) hnot'
  · rcases evaluate_empty_cases (hoisted (items s)) with ⟨hearly', -⟩ | ⟨-, hrun'⟩
    · exact absurd (early_of_hoisted hearly') hnot
    · rw [hrun, hrun', output_of_steady h]

/-- Marks do not matter where they only stand at first declarations. -/
lemma behind_unmarked (h : ∀ ahead a more, front = ahead ++ .assignment a :: more →
    a.isDefault = true → a.name ∉ assigned ahead) :
    behind Dict.empty front = behind Dict.empty (unmarked front) := by
  induction front using List.reverseRecOn with
  | nil => rfl
  | append_singleton front item ih =>
    have hfront : behind Dict.empty front = behind Dict.empty (unmarked front) := by
      apply ih
      intro ahead a more hahead hdefault
      exact h ahead a (more ++ [item]) (by simp [hahead]) hdefault
    rw [unmarked_append, behind_append, behind_append, hfront]
    cases item with
    | text t => rfl
    | assignment a =>
      show assign _ a _ = assign _ a.unmarked _
      unfold assign
      rw [if_neg, if_neg]
      · rfl
      · simp [Assignment.unmarked]
      · rw [← hfront, known_behind_empty]
        rintro ⟨hdefault, hknown⟩
        exact h front a [] rfl hdefault hknown

/-- Variables that are assigned once and before their use are steady. -/
lemma steady_of_ordered (h : Ordered parts) : Steady parts := by
  intro front t back name hparts hrefers
  have hfront : behind Dict.empty front = behind Dict.empty (unmarked front) := by
    apply behind_unmarked
    intro ahead a more hahead hdefault
    exact h.first ahead a (more ++ .text t :: back) (by simp [hparts, hahead]) hdefault
  have hback : name ∉ assigned (unmarked (.text t :: back)) := by
    rw [assigned_unmarked]
    exact h.last front t back name hparts hrefers
  rw [hparts, unmarked_append, behind_append, get?_behind hback, hfront]

/-! ### Deciding the order -/

/-- The items around an item are in front of its place and behind it. -/
lemma forall_around {P : List Item → Item → List Item → Prop} :
    (∀ front item back, parts = front ++ item :: back → P front item back) ↔
      ∀ i : Fin parts.length, P (parts.take i) (parts.get i) (parts.drop (i + 1)) := by
  constructor
  · intro h i
    apply h
    rw [List.get_eq_getElem, ← List.drop_eq_getElem_cons, List.take_append_drop]
  · rintro h front item back rfl
    have hplace := h ⟨front.length, by simp⟩
    simpa using hplace

instance : DecidablePred Ordered := fun parts =>
  decidable_of_iff
    ((∀ i : Fin parts.length, ∀ a ∈ (parts.get i).assignment?.toList, a.isDefault = true →
        a.name ∉ assigned (parts.take i)) ∧
      ∀ i : Fin parts.length, ∀ piece ∈ Text.pieces reference (parts.get i).kept,
        ∀ name ∈ piece.getRight?.toList, name ∉ assigned (parts.drop (i + 1))) <| by
    rw [← forall_around (P := fun front item _ => ∀ a ∈ item.assignment?.toList,
        a.isDefault = true → a.name ∉ assigned front),
      ← forall_around (P := fun _ item back => ∀ piece ∈ Text.pieces reference item.kept,
        ∀ name ∈ piece.getRight?.toList, name ∉ assigned back)]
    constructor
    · intro ⟨hfirst, hlast⟩
      refine ⟨?_, ?_⟩
      · intro front a back hparts
        exact hfirst front _ back hparts a List.mem_cons_self
      · intro front t back name hparts hrefers
        exact hlast front _ back hparts _ (mem_pieces_iff.mpr hrefers) name List.mem_cons_self
    · intro h
      refine ⟨?_, ?_⟩
      · intro front item back hparts a ha
        cases item with
        | text t => cases ha
        | assignment b =>
          obtain rfl := List.mem_singleton.mp ha
          exact h.first front a back hparts
      · intro front item back hparts piece hpiece name hname
        cases item with
        | assignment b => cases hpiece
        | text t =>
          cases piece with
          | inl c => cases hname
          | inr name' =>
            obtain rfl := List.mem_singleton.mp hname
            exact h.last front t back name hparts (mem_pieces_iff.mp hpiece)

/-- Evaluating a source in order fails at a reference in front of the first declaration of its
variable, and at nothing else. Expanding a source is evaluating it with all declarations in front
and without their marks, and so it fails at no other sources. Both give the same where each
reference has the value that its variable has in the end; it is enough that marks stand at first
declarations only and that no text refers to a variable that is declared behind it. -/
theorem expandVariables_sequential (s : List Char) :
    (∃ ps : List (Char ⊕ (List Char × List Char × List Char)),
      writePieces Prod.fst ps = s ∧ items s = itemsOf ps ∧
      ∀ text name value, .inr (text, name, value) ∈ ps →
        IsAssignment text ⟨name, value, isMarked text value⟩) ∧
    expandVariables s = evaluate Dict.empty (hoisted (items s)) ∧
    ((∃ failure, sequential s = .error failure) ↔ Early (items s)) ∧
    (∀ failure, sequential s = .error failure → ∃ name, failure = .undefinedVariable name) ∧
    (∀ failure, expandVariables s = .error failure → Early (items s)) ∧
    (Steady (items s) → ∀ t, expandVariables s = .ok t ↔ sequential s = .ok t) ∧
    (Ordered (items s) → Steady (items s)) := by
  refine ⟨exists_assignments s, expandVariables_eq_evaluate s, ?_, ?_, ?_, sequential_of_steady,
    steady_of_ordered⟩
  · rcases evaluate_empty_cases (items s) with ⟨hearly, name, hrun⟩ | ⟨hnot, hrun⟩
    · exact iff_of_true ⟨_, hrun⟩ hearly
    · refine iff_of_false ?_ hnot
      intro ⟨failure, hfails⟩
      rw [sequential, hrun] at hfails
      cases hfails
  · intro failure hfails
    rcases evaluate_empty_cases (items s) with ⟨-, name, hrun⟩ | ⟨-, hrun⟩
    · rw [sequential, hrun] at hfails
      cases hfails
      exact ⟨name, rfl⟩
    · rw [sequential, hrun] at hfails
      cases hfails
  · intro failure hfails
    rw [expandVariables_eq_evaluate] at hfails
    rcases evaluate_empty_cases (hoisted (items s)) with ⟨hearly, -⟩ | ⟨-, hrun⟩
    · exact early_of_hoisted hearly
    · rw [hrun] at hfails
      cases hfails

namespace Palette

/-- Each variable is declared once, in front of all that refers to it. -/
def ordered : List Char :=
  "$a: red;\n.b \x7b color: $a; \x7d\n$c: $a !default;\n.d \x7b color: $c; \x7d\n".toList

/-- The second declaration is only meant for the case that there is no other one. -/
def defaulted : List Char := "$a: red;\n$a: blue !default;\n.c \x7b color: $a; \x7d\n".toList

/-- A variable changes its value between two rules. -/
def redeclared : List Char :=
  "$a: red;\n.b \x7b color: $a; \x7d\n$a: blue;\n.c \x7b color: $a; \x7d\n".toList

/-- A variable is declared behind the rule that refers to it. -/
def declaredBehind : List Char := ".c \x7b color: $a; \x7d\n$a: red;\n".toList

end Palette

theorem expandVariables_sequential_ordered :
    Ordered (items Palette.ordered) ∧ sequential Palette.ordered =
      .ok ".b \x7b color: red; \x7d\n.d \x7b color: red; \x7d\n".toList := by
  have hordered : Ordered (items Palette.ordered) := by decide +kernel
  have hrun : expandVariables Palette.ordered =
      .ok ".b \x7b color: red; \x7d\n.d \x7b color: red; \x7d\n".toList := by decide +kernel
  obtain ⟨-, -, -, -, -, hagrees, hsteady⟩ := expandVariables_sequential Palette.ordered
  exact ⟨hordered, (hagrees (hsteady hordered) _).mp hrun⟩

/-- A default behind another declaration replaces its value, the last value of a variable is put in
everywhere, and a variable may be declared behind all that refers to it. -/
theorem not_expanded_in_order :
    (expandVariables Palette.defaulted = .ok ".c \x7b color: blue; \x7d\n".toList ∧
      sequential Palette.defaulted = .ok ".c \x7b color: red; \x7d\n".toList) ∧
    (expandVariables Palette.redeclared =
        .ok ".b \x7b color: blue; \x7d\n.c \x7b color: blue; \x7d\n".toList ∧
      sequential Palette.redeclared =
        .ok ".b \x7b color: red; \x7d\n.c \x7b color: blue; \x7d\n".toList) ∧
    expandVariables Palette.declaredBehind = .ok ".c \x7b color: red; \x7d\n".toList ∧
      sequential Palette.declaredBehind = .error (.undefinedVariable "a") := by
  decide +kernel

end LiveBundle.Style
