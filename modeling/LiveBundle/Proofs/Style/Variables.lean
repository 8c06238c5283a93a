import LiveBundle.Proofs.Path
import LiveBundle.Proofs.Style.References

/-!
# Expanding variables

The declarations of a text are read in order, each with the values of the ones in front of it; then
they are cut out, and the values are put into what remains. Expanding fails at a reference to a
variable that is not declared by then, and at nothing else. The outcome may hold a reference still:
values are put in once, so that one behind a dollar sign makes a new reference with it.

* `IsDeclaration` says how a declaration is written, `exists_declarations` that nothing else is cut
  out;
* `expandVariables_eq_error_iff`: where expanding fails;
* `PutIn` are the texts that an outcome is made of, `holdsReference_iff_leaks`: a reference in the
  outcome was put together in one of them;
* `expandVariables_references` is the whole of it.
-/

namespace LiveBundle.Style

open Text (writePieces pieces isSpaceOrTab)

variable {s t text name value rest : List Char} {known known' : Variables}
  {declarations earlier later : List (List Char × List Char)}

/-! ## Declarations -/

/-- The declarations of a text, each with its name and its value as written. -/
def declaredIn (s : List Char) : List (List Char × List Char) := Text.hits declaration s

/-- A text without its declarations. -/
def remaining (s : List Char) : List Char := Text.replaceAll declaration (fun _ => []) s

/-- Spaces and tabs. -/
def AreBlanks (s : List Char) : Prop := ∀ c ∈ s, isSpaceOrTab c = true

/-- What is cut out behind the semicolon of a declaration. -/
def IsLineEnd (s : List Char) : Prop :=
  ∃ blanks ending, s = blanks ++ ending ∧ AreBlanks blanks ∧
    ending ∈ [[], ['\n'], ['\r', '\n'], ['\r']]

/-- A declaration as it is written. Behind the value, `!default` may stand. -/
def IsDeclaration (text name value : List Char) : Prop :=
  ∃ indent gap lead mark ending, text =
      indent ++ '$' :: name ++ gap ++ ':' :: (lead ++ value ++ mark) ++ ';' :: ending ∧
    AreBlanks indent ∧ IsVariableName name ∧ AreBlanks gap ∧ AreBlanks lead ∧ value ≠ [] ∧
    ';' ∉ lead ++ value ++ mark ∧ isValueEnd mark = true ∧ IsLineEnd ending

lemma dropWhile_blanks (s : List Char) :
    ∃ blanks, s = blanks ++ s.dropWhile isSpaceOrTab ∧ AreBlanks blanks :=
  ⟨s.takeWhile isSpaceOrTab, List.takeWhile_append_dropWhile.symm,
    fun _ hc => List.mem_takeWhile_imp hc⟩

lemma skipLineEnd_text (s : List Char) :
    ∃ ending, s = ending ++ skipLineEnd s ∧ IsLineEnd ending := by
  obtain ⟨blanks, htext, hblanks⟩ := dropWhile_blanks s
  have hbehind : ∃ ending, s.dropWhile isSpaceOrTab = ending ++ skipLineEnd s ∧
      ending ∈ [[], ['\n'], ['\r', '\n'], ['\r']] := by
    unfold skipLineEnd
    split
    · rename_i rest h
      exact ⟨['\r', '\n'], h, by decide⟩
    · rename_i rest h
      exact ⟨['\r'], h, by decide⟩
    · rename_i rest h
      exact ⟨['\n'], h, by decide⟩
    · exact ⟨[], rfl, by decide⟩
  obtain ⟨ending, hending, hmem⟩ := hbehind
  refine ⟨blanks ++ ending, ?_, blanks, ending, rfl, hblanks, hmem⟩
  rw [List.append_assoc, ← hending]
  exact htext

lemma shortestValue_text (taken s : List Char) (hs : s ≠ []) : ∃ more mark,
    s = more ++ mark ∧ shortestValue taken s = taken.reverse ++ more ∧ more ≠ [] ∧
      isValueEnd mark = true := by
  induction s generalizing taken with
  | nil => exact absurd rfl hs
  | cons c cs ih =>
    unfold shortestValue
    split
    · rename_i hend
      exact ⟨[c], cs, rfl, List.reverse_cons, List.cons_ne_nil _ _, hend⟩
    · rename_i hend
      have hcs : cs ≠ [] := by
        rintro rfl
        exact hend rfl
      obtain ⟨more, mark, rfl, hvalue, -, hmark⟩ := ih (c :: taken) hcs
      refine ⟨c :: more, mark, rfl, ?_, List.cons_ne_nil _ _, hmark⟩
      rw [hvalue, List.reverse_cons, List.append_assoc, List.singleton_append]

/-- The value stands behind blanks, and what may stand in front of the semicolon behind it. -/
lemma valueOf?_text {body : List Char} (h : valueOf? body = some value) : ∃ lead mark,
    body = lead ++ value ++ mark ∧ AreBlanks lead ∧ value ≠ [] ∧ isValueEnd mark = true ∧
      (body.dropWhile isSpaceOrTab).drop value.length = mark := by
  obtain ⟨lead, htext, hlead⟩ := dropWhile_blanks body
  unfold valueOf? at h
  split at h
  · rename_i hblank
    obtain ⟨c, hlast, rfl⟩ := Option.map_eq_some_iff.mp h
    obtain ⟨front, rfl⟩ := List.getLast?_eq_some_iff.mp hlast
    refine ⟨front, [], (List.append_nil _).symm, ?_, List.cons_ne_nil _ _, rfl, ?_⟩
    · intro d hd
      exact List.dropWhile_eq_nil_iff.mp hblank d (List.mem_append_left _ hd)
    · rw [hblank]
      rfl
  · rename_i hne
    cases h
    obtain ⟨more, mark, hmore, hvalue, hvalueNe, hmark⟩ :=
      shortestValue_text [] (body.dropWhile isSpaceOrTab) hne
    rw [List.reverse_nil, List.nil_append] at hvalue
    rw [hvalue]
    refine ⟨lead, mark, ?_, hlead, hvalueNe, hmark, ?_⟩
    · rw [List.append_assoc, ← hmore]
      exact htext
    · rw [hmore, List.drop_left]

/-- How a declaration is read, up to the part between its colon and its semicolon. -/
lemma exists_body_of_declaration {lineStart : Bool}
    (h : declaration lineStart s = some ((name, value), rest)) :
    lineStart = true ∧ ∃ indent gap body ending,
      s = indent ++ '$' :: name ++ gap ++ ':' :: body ++ ';' :: ending ++ rest ∧
        AreBlanks indent ∧ IsVariableName name ∧ AreBlanks gap ∧ ';' ∉ body ∧
        valueOf? body = some value ∧ IsLineEnd ending := by
  unfold declaration at h
  split at h
  · cases h
  rename_i hline
  split at h
  · rename_i _ behindDollar hdollar
    split at h
    · cases h
    · rename_i _ name' behindName hname
      split at h
      · rename_i _ behindColon hcolon
        split at h
        · cases h
        · rename_i _ body behind hbody
          obtain ⟨value', hvalue, heq⟩ := Option.map_eq_some_iff.mp h
          cases heq
          obtain ⟨indent, hindent, hindentBlank⟩ := dropWhile_blanks s
          obtain ⟨hnameText, hisName, -⟩ := takeName?_eq_some_iff.mp hname
          obtain ⟨gap, hgap, hgapBlank⟩ := dropWhile_blanks behindName
          obtain ⟨hbodyText, hsemicolon⟩ := Text.splitAt?_eq_some_iff.mp hbody
          obtain ⟨ending, hending, hlineEnd⟩ := skipLineEnd_text behind
          refine ⟨by simpa using hline, indent, gap, body, ending, ?_, hindentBlank, hisName,
            hgapBlank, hsemicolon, hvalue, hlineEnd⟩
          rw [hcolon, hbodyText, hending] at hgap
          rw [hdollar, hnameText, hgap] at hindent
          rw [hindent]
          simp
      · cases h
  · cases h

lemma exists_of_declaration {lineStart : Bool}
    (h : declaration lineStart s = some ((name, value), rest)) :
    ∃ text, s = text ++ rest ∧ IsDeclaration text name value := by
  obtain ⟨-, indent, gap, body, ending, htext, hindent, hname, hgap, hsemicolon, hvalue, hending⟩ :=
    exists_body_of_declaration h
  obtain ⟨lead, mark, rfl, hlead, hne, hmark, -⟩ := valueOf?_text hvalue
  exact ⟨_, htext, indent, gap, lead, mark, ending, by simp, hindent, hname, hgap, hlead, hne,
    hsemicolon, hmark, hending⟩

lemma declaration_withText_reads : (declaration.withText).Reads Prod.fst := by
  apply Text.Pattern.withText_reads
  intro lineStart s ⟨name, value⟩ rest h
  obtain ⟨text, htext, indent, gap, lead, mark, ending, rfl, -⟩ := exists_of_declaration h
  exact ⟨_, by simp, htext⟩

/-- A declaration is read in front of the text of the pieces from there on. -/
lemma declaration_of_pieces {front more : List (Char ⊕ (List Char × List Char × List Char))}
    (h : pieces declaration.withText s = front ++ .inr (text, name, value) :: more) :
    declaration (Text.startsLine true (writePieces Prod.fst front))
      (text ++ writePieces Prod.fst more) = some ((name, value), writePieces Prod.fst more) := by
  have hmatch := Text.match_of_pieces declaration_withText_reads h
  obtain ⟨⟨found, rest⟩, hfound, heq⟩ := Option.map_eq_some_iff.mp hmatch
  obtain ⟨hpair, rfl⟩ := Prod.mk.inj heq
  obtain ⟨-, rfl⟩ := Prod.mk.inj hpair
  exact hfound

/-- Declarations are cut out of a text, and nothing else. -/
lemma exists_declarations (s : List Char) :
    ∃ ps : List (Char ⊕ (List Char × List Char × List Char)),
      writePieces Prod.fst ps = s ∧ writePieces (fun _ => []) ps = remaining s ∧
      (ps.filterMap Sum.getRight?).map Prod.snd = declaredIn s ∧
      ∀ text name value, .inr (text, name, value) ∈ ps → IsDeclaration text name value := by
  refine ⟨pieces declaration.withText s, ?_, ?_, ?_, ?_⟩
  · exact Text.writePieces_pieces declaration_withText_reads s
  · rw [remaining, Text.replaceAll, Text.pieces_withText declaration, Text.writePieces_map]
  · rw [declaredIn, Text.hits, Text.pieces_withText declaration, List.filterMap_map,
      List.map_filterMap]
    congr 1
    funext piece
    cases piece <;> rfl
  · intro text name value hmem
    obtain ⟨front, more, hps⟩ := List.append_of_mem hmem
    obtain ⟨text', htext, hdeclaration⟩ := exists_of_declaration (declaration_of_pieces hps)
    obtain rfl : text = text' := List.append_cancel_right htext
    exact hdeclaration

lemma value_ne_nil {d : List Char × List Char} (h : d ∈ declaredIn s) : d.2 ≠ [] := by
  obtain ⟨ps, -, -, hdeclared, hshape⟩ := exists_declarations s
  rw [← hdeclared, List.mem_map] at h
  obtain ⟨⟨text, name, value⟩, hmem, rfl⟩ := h
  obtain ⟨piece, hpiece, hright⟩ := List.mem_filterMap.mp hmem
  rw [Sum.getRight?_eq_some_iff.mp hright] at hpiece
  obtain ⟨-, -, -, -, -, -, -, -, -, -, hne, -⟩ := hshape _ _ _ hpiece
  exact hne

/-! ## Declaring variables -/

/-- A variable has a value if it had one or gets one. -/
lemma known_of_declareAll (h : declareAll known declarations = .ok known') :
    Known known' name ↔ Known known name ∨ name ∈ declarations.map Prod.fst := by
  induction declarations generalizing known with
  | nil =>
    cases h
    simp
  | cons d declarations ih =>
    obtain ⟨other, value⟩ := d
    rw [declareAll] at h
    rcases substitute_cases known value with ⟨_, -, -, hrun⟩ | ⟨-, hrun⟩
    · rw [hrun] at h
      cases h
    · rw [hrun] at h
      rw [ih h, List.map_cons, List.mem_cons, ← or_assoc]
      refine or_congr_left ?_
      rw [Known, Known, Dict.get?_insert]
      split
      · rename_i heq
        exact iff_of_true rfl (.inr (String.ofList_injective heq).symm)
      · rename_i hne
        refine (or_iff_left ?_).symm
        rintro rfl
        exact hne rfl

lemma known_of_empty (h : declareAll Dict.empty declarations = .ok known) :
    Known known name ↔ name ∈ declarations.map Prod.fst := by
  rw [known_of_declareAll h, Known, Dict.get?_empty]
  simp

lemma declareAll_append (known : Variables) (earlier later : List (List Char × List Char)) :
    declareAll known (earlier ++ later) =
      declareAll known earlier >>= fun known => declareAll known later := by
  induction earlier generalizing known with
  | nil => rfl
  | cons d earlier ih =>
    obtain ⟨name, value⟩ := d
    rw [List.cons_append, declareAll, declareAll]
    rcases substitute_cases known value with ⟨_, -, -, hrun⟩ | ⟨-, hrun⟩
    · rw [hrun]
      rfl
    · rw [hrun]
      exact ih _

/-- A value that is not declared again stays. -/
lemma get?_of_declareAll (h : declareAll known declarations = .ok known')
    (hname : name ∉ declarations.map Prod.fst) :
    known'.get? (String.ofList name) = known.get? (String.ofList name) := by
  induction declarations generalizing known with
  | nil =>
    cases h
    rfl
  | cons d declarations ih =>
    obtain ⟨other, value⟩ := d
    rw [List.map_cons, List.mem_cons, not_or] at hname
    rw [declareAll] at h
    rcases substitute_cases known value with ⟨_, -, -, hrun⟩ | ⟨-, hrun⟩
    · rw [hrun] at h
      cases h
    · rw [hrun] at h
      rw [ih h hname.2, Dict.get?_insert, if_neg]
      intro heq
      exact hname.1 (String.ofList_injective heq).symm

/-- The value of a variable is that of its last declaration, with the values known by then. -/
lemma valueOf_declareAll
    (h : declareAll known (earlier ++ (name, value) :: later) = .ok known')
    (hlater : name ∉ later.map Prod.fst) : ∃ before, declareAll known earlier = .ok before ∧
      (∀ other, Refers value other → Known before other) ∧
      valueOf known' name = substituted before value := by
  rw [declareAll_append] at h
  cases hearlier : declareAll known earlier with
  | error failure =>
    rw [hearlier] at h
    cases h
  | ok before =>
    rw [hearlier] at h
    have hrest : (do
        declareAll (before.insert (String.ofList name) (← substitute before value)) later) =
          .ok known' := h
    rcases substitute_cases before value with ⟨_, -, -, hrun⟩ | ⟨hknown, hrun⟩
    · rw [hrun] at hrest
      cases hrest
    · rw [hrun] at hrest
      refine ⟨before, rfl, hknown, ?_⟩
      rw [valueOf, get?_of_declareAll hrest hlater, Dict.get?_insert, if_pos rfl]
      rfl

/-- A variable that is declared has a last declaration. -/
lemma exists_last (h : name ∈ declarations.map Prod.fst) : ∃ earlier value later,
    declarations = earlier ++ (name, value) :: later ∧ name ∉ later.map Prod.fst := by
  induction declarations with
  | nil => cases h
  | cons d declarations ih =>
    by_cases hrest : name ∈ declarations.map Prod.fst
    · obtain ⟨earlier, value, later, rfl, hlater⟩ := ih hrest
      exact ⟨d :: earlier, value, later, rfl, hlater⟩
    · rw [List.map_cons, List.mem_cons, or_iff_left hrest] at h
      exact ⟨[], d.2, declarations, by rw [h]; rfl, hrest⟩

/-! ## Where expanding fails -/

/-- A declaration refers to a variable that is not declared in front of it. -/
def RefersAhead (declarations : List (List Char × List Char)) : Prop :=
  ∃ earlier name value later, declarations = earlier ++ (name, value) :: later ∧
    ∃ other, Refers value other ∧ other ∉ earlier.map Prod.fst

lemma declareAll_cases (declarations : List (List Char × List Char)) :
    RefersAhead declarations ∧
      (∃ name, declareAll Dict.empty declarations = .error (.undefinedVariable name)) ∨
    ¬RefersAhead declarations ∧ ∃ known, declareAll Dict.empty declarations = .ok known := by
  induction declarations using List.reverseRecOn with
  | nil =>
    refine .inr ⟨?_, Dict.empty, rfl⟩
    intro ⟨earlier, name, value, later, h, _⟩
    simp at h
  | append_singleton declarations d ih =>
    obtain ⟨name, value⟩ := d
    rw [declareAll_append]
    rcases ih with ⟨⟨earlier, name', value', later, rfl, hahead⟩, name₀, hrun⟩ | ⟨hnot, known, hrun⟩
    · refine .inl ⟨⟨earlier, name', value', later ++ [(name, value)], by simp, hahead⟩, name₀, ?_⟩
      rw [hrun]
      rfl
    · have hlast : declareAll known [(name, value)] =
          (do return known.insert (String.ofList name) (← substitute known value)) := rfl
      rw [hrun]
      show _ ∧ (∃ name₀, declareAll known [(name, value)] = _) ∨
        _ ∧ ∃ known', declareAll known [(name, value)] = _
      rw [hlast]
      rcases substitute_cases known value with ⟨other, hrefers, hunknown, hvalue⟩ | ⟨hknown, hvalue⟩
      · refine .inl ⟨⟨declarations, name, value, [], rfl, other, hrefers, ?_⟩,
          String.ofList other, ?_⟩
        · rwa [← known_of_empty hrun]
        · rw [hvalue]
          rfl
      · refine .inr ⟨?_, known.insert (String.ofList name) (substituted known value), ?_⟩
        · intro ⟨earlier, name', value', later, hsplit, other, hrefers, hother⟩
          rcases List.eq_nil_or_concat later with rfl | ⟨init, last, rfl⟩
          · obtain ⟨rfl, heq⟩ := List.append_inj' hsplit rfl
            cases heq
            exact hother ((known_of_empty hrun).mp (hknown other hrefers))
          · rw [List.concat_eq_append, ← List.cons_append, ← List.append_assoc] at hsplit
            obtain ⟨hfront, -⟩ := List.append_inj' hsplit rfl
            exact hnot ⟨earlier, name', value', init, hfront, other, hrefers, hother⟩
        · rw [hvalue]
          rfl

/-- A reference is not declared: one in a declaration in front of it, one in the remaining text
anywhere. -/
def Undeclared (s : List Char) : Prop :=
  RefersAhead (declaredIn s) ∨
    ∃ name, Refers (remaining s) name ∧ name ∉ (declaredIn s).map Prod.fst

lemma expandVariables_eq (s : List Char) : expandVariables s = (do
    substitute (← declareAll Dict.empty (declaredIn s)) (remaining s)) := rfl

lemma expandVariables_cases (s : List Char) :
    Undeclared s ∧ (∃ name, expandVariables s = .error (.undefinedVariable name)) ∨
    ¬Undeclared s ∧ ∃ known, declareAll Dict.empty (declaredIn s) = .ok known ∧
      (∀ name, Refers (remaining s) name → Known known name) ∧
      expandVariables s = .ok (substituted known (remaining s)) := by
  rw [expandVariables_eq]
  rcases declareAll_cases (declaredIn s) with ⟨hahead, name, hrun⟩ | ⟨hnot, known, hrun⟩
  · refine .inl ⟨.inl hahead, name, ?_⟩
    rw [hrun]
    rfl
  · rw [hrun]
    rcases substitute_cases known (remaining s) with
      ⟨name, hrefers, hunknown, hbody⟩ | ⟨hknown, hbody⟩
    · refine .inl ⟨.inr ⟨name, hrefers, ?_⟩, String.ofList name, hbody⟩
      rwa [← known_of_empty hrun]
    · refine .inr ⟨?_, known, rfl, hknown, hbody⟩
      intro h
      rcases h with hahead | ⟨name, hrefers, hname⟩
      · exact hnot hahead
      · exact hname ((known_of_empty hrun).mp (hknown name hrefers))

/-! ## References that are left -/

/-- The texts that an outcome is made of, each with the declarations in front of it: the text itself
and, for what it refers to, the text of the last declaration. -/
inductive PutIn : List (List Char × List Char) → List Char → List (List Char × List Char) →
    List Char → Prop
  | self (declarations : List (List Char × List Char)) (text : List Char) :
      PutIn declarations text declarations text
  | value {earlier later declarations' : List (List Char × List Char)}
      {text name value text' : List Char} (refers : Refers text name)
      (last : name ∉ later.map Prod.fst) (h : PutIn earlier value declarations' text') :
      PutIn (earlier ++ (name, value) :: later) text declarations' text'

/-- In a text that is put in, a value begins a name directly behind a dollar sign. -/
def LeaksWithin (declarations : List (List Char × List Char)) (text : List Char) : Prop :=
  ∃ declarations' text' known, PutIn declarations text declarations' text' ∧
    declareAll Dict.empty declarations' = .ok known ∧ Leaks known text'

lemma leaksWithin_iff (hknown : declareAll Dict.empty declarations = .ok known) :
    LeaksWithin declarations text ↔ Leaks known text ∨
      ∃ earlier name value later, declarations = earlier ++ (name, value) :: later ∧
        Refers text name ∧ name ∉ later.map Prod.fst ∧ LeaksWithin earlier value := by
  constructor
  · intro ⟨declarations', text', known', hput, hrun, hleaks⟩
    cases hput with
    | self =>
      rw [hknown] at hrun
      cases hrun
      exact .inl hleaks
    | value hrefers hlast h =>
      exact .inr ⟨_, _, _, _, rfl, hrefers, hlast, _, _, known', h, hrun, hleaks⟩
  · intro h
    rcases h with hleaks | ⟨earlier, name, value, later, rfl, hrefers, hlast, declarations', text',
      known', hput, hrun, hleaks⟩
    · exact ⟨declarations, text, known, .self _ _, hknown, hleaks⟩
    · exact ⟨declarations', text', known', .value hrefers hlast hput, hrun, hleaks⟩

/-- What passes from the values that a declaration refers to on to its own holds of all values. -/
lemma valueOf_induction {P : List Char → Prop}
    (hvalue : ∀ d ∈ declarations, ∀ before,
      (∀ name, Refers d.2 name → P (valueOf before name)) → P (substituted before d.2))
    (hknown : declareAll Dict.empty declarations = .ok known) (hname : Known known name) :
    P (valueOf known name) := by
  induction hlength : declarations.length using Nat.strong_induction_on
    generalizing declarations known name with
  | _ n ih =>
    obtain ⟨earlier, value, later, rfl, hlast⟩ := exists_last ((known_of_empty hknown).mp hname)
    obtain ⟨before, hbefore, hall, hvalueOf⟩ := valueOf_declareAll hknown hlast
    rw [hvalueOf]
    apply hvalue (name, value) (List.mem_append_right _ List.mem_cons_self)
    intro other hother
    refine ih earlier.length ?_ ?_ hbefore (hall other hother) rfl
    · rw [← hlength, List.length_append, List.length_cons]
      omega
    · intro d hd
      exact hvalue d (List.mem_append_left _ hd)

/-- Values are not empty if they are not declared so. -/
lemma valueOf_ne_nil (hvalues : ∀ d ∈ declarations, d.2 ≠ [])
    (hknown : declareAll Dict.empty declarations = .ok known) (hname : Known known name) :
    valueOf known name ≠ [] := by
  apply valueOf_induction (P := fun value => value ≠ []) ?_ hknown hname
  intro d hd before hbefore
  exact substituted_ne_nil (hvalues d hd) hbefore

/-- Values are without dollar signs if each one in a declaration begins a reference. -/
lemma dollar_not_mem_valueOf (hnamed : ∀ d ∈ declarations, AllNamed d.2)
    (hknown : declareAll Dict.empty declarations = .ok known) (hname : Known known name) :
    '$' ∉ valueOf known name := by
  apply valueOf_induction (P := fun value => '$' ∉ value) ?_ hknown hname
  intro d hd before hbefore
  exact dollar_not_mem_substituted (hnamed d hd) hbefore

/-- A reference in the outcome was put together in one of the texts that it is made of. -/
lemma holdsReference_iff_leaks (hvalues : ∀ d ∈ declarations, d.2 ≠ [])
    (hknown : declareAll Dict.empty declarations = .ok known)
    (hall : ∀ name, Refers text name → Known known name) :
    HoldsReference (substituted known text) ↔ LeaksWithin declarations text := by
  induction hlength : declarations.length using Nat.strong_induction_on
    generalizing declarations known text with
  | _ n ih =>
    rw [leaksWithin_iff hknown, or_comm, holdsReference_substituted_iff
      fun name hname => valueOf_ne_nil hvalues hknown (hall name hname)]
    refine or_congr_left ?_
    -- The value of a variable comes from its last declaration, which has fewer in front.
    have hvalue {earlier later : List (List Char × List Char)} {name value : List Char}
        (hsplit : declarations = earlier ++ (name, value) :: later)
        (hlast : name ∉ later.map Prod.fst) :
        HoldsReference (valueOf known name) ↔ LeaksWithin earlier value := by
      rw [hsplit] at hknown hvalues hlength
      obtain ⟨before, hbefore, hrefers, hvalue⟩ := valueOf_declareAll hknown hlast
      rw [hvalue]
      refine ih earlier.length ?_ ?_ hbefore hrefers rfl
      · rw [← hlength, List.length_append, List.length_cons]
        omega
      · intro d hd
        exact hvalues d (List.mem_append_left _ hd)
    constructor
    · intro ⟨name, hrefers, hholds⟩
      obtain ⟨earlier, value, later, hsplit, hlast⟩ :=
        exists_last ((known_of_empty hknown).mp (hall name hrefers))
      exact ⟨earlier, name, value, later, hsplit, hrefers, hlast, (hvalue hsplit hlast).mp hholds⟩
    · intro ⟨earlier, name, value, later, hsplit, hrefers, hlast, hleaks⟩
      exact ⟨name, hrefers, (hvalue hsplit hlast).mpr hleaks⟩

/-! ## The whole expansion -/

/-- Expanding fails at the references that are not declared, and at nothing else. What it gives is
the text without its declarations if that refers to nothing; it holds a reference if and only if a
value is put directly behind a dollar sign; and it holds no dollar sign at all if each one, in the
declared values and in the remaining text, begins a reference. -/
theorem expandVariables_references (s : List Char) :
    ((∃ name, expandVariables s = .error (.undefinedVariable name)) ↔ Undeclared s) ∧
    (∀ failure, expandVariables s = .error failure → ∃ name, failure = .undefinedVariable name) ∧
    (¬Undeclared s → ∃ t, expandVariables s = .ok t) ∧
    (∃ ps : List (Char ⊕ (List Char × List Char × List Char)),
      writePieces Prod.fst ps = s ∧ writePieces (fun _ => []) ps = remaining s ∧
      (ps.filterMap Sum.getRight?).map Prod.snd = declaredIn s ∧
      ∀ text name value, .inr (text, name, value) ∈ ps → IsDeclaration text name value) ∧
    ∀ t, expandVariables s = .ok t →
      ((∀ name, ¬Refers (remaining s) name) → t = remaining s) ∧
      (HoldsReference t ↔ LeaksWithin (declaredIn s) (remaining s)) ∧
      (AllNamed (remaining s) → (∀ d ∈ declaredIn s, AllNamed d.2) → '$' ∉ t) := by
  rcases expandVariables_cases s with ⟨hundeclared, name, hrun⟩ | ⟨hnot, known, hknown, hall, hrun⟩
  · refine ⟨iff_of_true ⟨name, hrun⟩ hundeclared, ?_, ?_, exists_declarations s, ?_⟩
    · intro failure hfailure
      rw [hrun] at hfailure
      cases hfailure
      exact ⟨name, rfl⟩
    · intro hnot
      exact absurd hundeclared hnot
    · intro t ht
      rw [hrun] at ht
      cases ht
  · refine ⟨iff_of_false ?_ hnot, ?_, fun _ => ⟨_, hrun⟩, exists_declarations s, ?_⟩
    · intro ⟨name, hname⟩
      rw [hrun] at hname
      cases hname
    · intro failure hfailure
      rw [hrun] at hfailure
      cases hfailure
    · intro t ht
      rw [hrun] at ht
      cases ht
      refine ⟨fun h => substituted_of_not_refers h, ?_, ?_⟩
      · exact holdsReference_iff_leaks (fun d hd => value_ne_nil hd) hknown hall
      · intro hremaining hdeclared
        exact dollar_not_mem_substituted hremaining
          fun name hname => dollar_not_mem_valueOf hdeclared hknown (hall name hname)

namespace Palette

/-- Two variables and a rule that uses one of them. -/
def plain : List Char := "$b: red;\n$a: $b;\n.c \x7b color: $a; \x7d\n".toList

/-- The name of a variable is the value of another one, which is used behind a dollar sign. -/
def doubled : List Char := "$b: red;\n$a: b;\n.c \x7b color: $$a; \x7d\n".toList

end Palette

/-- No dollar sign is left in this text. -/
theorem expandVariables_references_plain :
    expandVariables Palette.plain = .ok ".c \x7b color: red; \x7d\n".toList ∧
      '$' ∉ ".c \x7b color: red; \x7d\n".toList := by
  have hrun : expandVariables Palette.plain = .ok ".c \x7b color: red; \x7d\n".toList := by
    decide +kernel
  have hnamed := ((expandVariables_references Palette.plain).2.2.2.2 _ hrun).2.2
  exact ⟨hrun, hnamed (by decide +kernel) (by decide +kernel)⟩

/-- Every variable of this text is declared in front of its use, and the outcome refers to one. -/
theorem not_expanded_doubled :
    ¬Undeclared Palette.doubled ∧
    ∃ t, expandVariables Palette.doubled = .ok t ∧ HoldsReference t := by
  have hrun : expandVariables Palette.doubled = .ok ".c \x7b color: $b; \x7d\n".toList := by
    decide +kernel
  refine ⟨?_, _, hrun, ".c \x7b color: ".toList, 'b', "; \x7d\n".toList, rfl, by decide⟩
  rcases expandVariables_cases Palette.doubled with ⟨-, name, hfails⟩ | ⟨hnot, -⟩
  · rw [hrun] at hfails
    cases hfails
  · exact hnot

end LiveBundle.Style
