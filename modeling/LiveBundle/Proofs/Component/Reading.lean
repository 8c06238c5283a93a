import LiveBundle.Proofs.Component.Text

/-!
# Reading the module of a component

The module of a component without scripts is read from its first token to its last one: where its
text is fixed by evaluation, and around the digest and the markup production by production.

* `reads_escape`, `reads_scope`, `reads_markup` are the statements that are not read at once, and
  `reads_export` is the exported function.
* `parse_moduleText` is the script that is read.
* `fills_escaped`: escaped markup does not end the template literal that it stands in.
-/

namespace LiveBundle.Component

open LiveBundle.Script LiveBundle.Script.Parser

set_option maxRecDepth 100000

variable {text : List Char} {d l : Nat} {tail : List Char} {u : View}

/-! ## The escaping function -/

lemma reads_replace :
    Reads (callArguments (Runner.upTo text (d + 50))) (inFunction l)
      ⟨⟨.punct "(", 1, false⟩, replaceText.tail ++ (headText ++ tail)⟩ (· = none)
      ⟨⟨.punct ";", 1, false⟩, "\n\nexport".toList ++ (headText ++ tail)⟩ :=
  Reads.of_eval fun _ _ _ _ => by cbv

/-- The value that the escaping function gives. -/
lemma reads_string :
    Reads (leftHandSide (Runner.upTo text (d + 50))) (inFunction l)
      ⟨⟨.word "String" false, 6, false⟩, stringText ++ (replaceText ++ (headText ++ tail))⟩
      (fun _ => True)
      ⟨⟨.punct ";", 1, false⟩, "\n\nexport".toList ++ (headText ++ tail)⟩ := by
  unfold leftHandSide
  refine Reads.context_bind ?_
  refine Reads.bind_eq (a := .name "String")
    (w := ⟨⟨.punct "(", 1, false⟩, stringText.tail ++ (replaceText ++ (headText ++ tail))⟩)
    (Reads.of_eval fun _ _ _ _ => by cbv) ?_
  refine Reads.bind_eq (a := ⟨.other, false⟩) ?_ (Reads.pure trivial)
  refine Reads.context_bind ?_
  -- The first round calls the name, the second one what its result has under another name.
  refine Reads.repeat_next (R := (· = ⟨.other, false⟩))
    (w := ⟨⟨.punct ".", 1, false⟩, "replace".toList ++ (replaceText ++ (headText ++ tail))⟩) ?_ ?_
  · exact (Reads.of_eval (a := .inl ⟨.other, false⟩) fun _ _ _ _ => by cbv).mono
      fun _ h => ⟨_, h, rfl⟩
  rintro _ rfl
  refine Reads.repeat_next (R := (· = ⟨.other, false⟩))
    (w := ⟨⟨.punct ";", 1, false⟩, "\n\nexport".toList ++ (headText ++ tail)⟩) ?_ ?_
  · refine Reads.bind_eq (a := ⟨.member, false⟩)
      (w := ⟨⟨.punct "(", 1, false⟩, replaceText.tail ++ (headText ++ tail)⟩)
      (Reads.of_eval fun _ _ _ _ => by cbv) ?_
    refine Reads.bind_eq (a := some ⟨.other, false⟩) ?_ (Reads.pure ⟨_, rfl, rfl⟩)
    refine Reads.eatPunct_bind rfl (Reads.atPunct_bind ?_)
    exact Reads.bind_eq (Reads.bind_eq reads_replace (Reads.pure rfl)) (Reads.pure rfl)
  rintro _ rfl
  exact Reads.repeat_last ((Reads.of_eval (a := .inr ⟨.other, false⟩)
    fun _ _ _ _ => by cbv).mono fun _ h => ⟨_, h, rfl⟩)

/-- The escaping function. -/
lemma reads_escapeArrow :
    Reads (arrowFunction (Runner.upTo text (d + 53)) true) (atTop l)
      ⟨⟨.punct "(", 1, false⟩,
        "value) => String".toList ++ (stringText ++ (replaceText ++ (headText ++ tail)))⟩
      (fun _ => True)
      ⟨⟨.punct ";", 1, false⟩, "\n\nexport".toList ++ (headText ++ tail)⟩ := by
  have hname : View.AtName ⟨⟨.word "String" false, 6, false⟩,
      stringText ++ (replaceText ++ (headText ++ tail))⟩ "String" := ⟨rfl, rfl⟩
  have hbody : Reads (Runner.upTo text (d + 53) (.assignment true)) (inFunction l)
      ⟨⟨.word "String" false, 6, false⟩, stringText ++ (replaceText ++ (headText ++ tail))⟩
      (fun _ => True) ⟨⟨.punct ";", 1, false⟩, "\n\nexport".toList ++ (headText ++ tail)⟩ :=
    reads_assignment hname (reads_plain (by decide) (reads_binary hname rfl (by decide)
      (reads_unary hname rfl (by decide) reads_string)))
  unfold arrowFunction
  refine Reads.peek_bind (a := false) (fun _ _ _ _ => rfl) ?_
  refine Reads.bind_eq (a := false) (w := ⟨⟨.punct "=>", 2, false⟩,
    " String".toList ++ (stringText ++ (replaceText ++ (headText ++ tail)))⟩)
    (Reads.of_eval fun _ _ _ _ => by cbv) ?_
  refine Reads.bind_eq (a := ()) (w := ⟨⟨.word "String" false, 6, false⟩,
    stringText ++ (replaceText ++ (headText ++ tail))⟩) (Reads.of_eval fun _ _ _ _ => by cbv) ?_
  refine (reads_arrowBody rfl rfl hbody).bind fun _ _ => ?_
  exact Reads.pure trivial

/-- The first statement. -/
lemma reads_escape :
    Reads (Runner.upTo text (d + 60) (.statement false)) (atTop l)
      ⟨⟨.word "const" false, 5, false⟩,
        escapeText ++ (stringText ++ (replaceText ++ (headText ++ tail)))⟩ (· = .other)
      ⟨⟨.word "export" false, 6, true⟩, headText ++ tail⟩ := by
  have hname : Reads (takeKeyword : Parser text Unit) (atTop l)
      ⟨⟨.word "const" false, 5, false⟩,
        escapeText ++ (stringText ++ (replaceText ++ (headText ++ tail)))⟩ (· = ())
      ⟨⟨.word "__pg_escape" false, 11, false⟩,
        " = (value) => String".toList ++ (stringText ++ (replaceText ++ (headText ++ tail)))⟩ :=
    Reads.of_eval fun _ _ _ _ => by cbv
  have hpattern : Reads (Runner.upTo text (d + 59) .pattern) (atTop l)
      ⟨⟨.word "__pg_escape" false, 11, false⟩,
        " = (value) => String".toList ++ (stringText ++ (replaceText ++ (headText ++ tail)))⟩
      (· = .name "__pg_escape")
      ⟨⟨.punct "=", 1, false⟩,
        " (value) => String".toList ++ (stringText ++ (replaceText ++ (headText ++ tail)))⟩ :=
    Reads.of_eval fun _ _ _ _ => by cbv
  have hequals : Reads (eatPunct "=" : Parser text Bool) (atTop l)
      ⟨⟨.punct "=", 1, false⟩,
        " (value) => String".toList ++ (stringText ++ (replaceText ++ (headText ++ tail)))⟩
      (· = true)
      ⟨⟨.punct "(", 1, false⟩,
        "value) => String".toList ++ (stringText ++ (replaceText ++ (headText ++ tail)))⟩ :=
    Reads.of_eval fun _ _ _ _ => by cbv
  have hvalue : Reads (Runner.upTo text (d + 59) (.assignment true)) (atTop l)
      ⟨⟨.punct "(", 1, false⟩,
        "value) => String".toList ++ (stringText ++ (replaceText ++ (headText ++ tail)))⟩
      (fun _ => True)
      ⟨⟨.punct ";", 1, false⟩, "\n\nexport".toList ++ (headText ++ tail)⟩ :=
    reads_arrow (Reads.of_eval fun _ _ _ _ => by cbv) reads_escapeArrow
  have hend : Reads (advance : Parser text Unit) (atTop l)
      ⟨⟨.punct ";", 1, false⟩, "\n\nexport".toList ++ (headText ++ tail)⟩ (· = ())
      ⟨⟨.word "export" false, 6, true⟩, headText ++ tail⟩ :=
    Reads.of_eval fun _ _ _ _ => by cbv
  exact reads_declared .const (reads_declaration .const rfl hname
    (reads_variableStatement rfl (reads_declarator rfl hpattern hequals hvalue) hend))

/-! ## The attribute -/

section

variable {name : String} {n : Nat} {rest : List Char}

/-- The arguments of the call that sets the attribute; the first one is not fixed. -/
lemma reads_scopeCall (hblanks : Lexer.blanks .outside false 0 rest = some (0, false))
    (htoken : Lexer.token rest = some (.string name, n))
    (hdrop : rest.drop n = emptyText ++ (displayText ++ tail)) :
    Reads (call (Runner.upTo text (d + 50)) .member) (inBody l) ⟨⟨.punct "(", 1, false⟩, rest⟩
      (· = ()) ⟨⟨.punct ";", 1, false⟩, "\n  host".toList ++ (displayText ++ tail)⟩ := by
  have hadvance : Reads (advance : Parser text Unit) (inBody l) ⟨⟨.punct "(", 1, false⟩, rest⟩
      (· = ()) ⟨⟨.string name, n, false⟩, emptyText ++ (displayText ++ tail)⟩ :=
    reads_advance hblanks htoken hdrop
  have hopen : Reads (expectPunct "(" : Parser text Unit) (inBody l) ⟨⟨.punct "(", 1, false⟩, rest⟩
      (· = ()) ⟨⟨.string name, n, false⟩, emptyText ++ (displayText ++ tail)⟩ := by
    refine Reads.bind_eq (a := true) ?_ (Reads.pure rfl)
    exact Reads.atPunct_bind (Reads.bind_eq hadvance (Reads.pure rfl))
  refine Reads.bind_eq (a := none) ?_ (Reads.pure rfl)
  exact Reads.bind_eq hopen (Reads.of_eval fun _ _ _ _ => by cbv)

/-- The call that sets the attribute. -/
lemma reads_scopeLeft (hcall : Reads (call (Runner.upTo text (d + 50)) .member) (inBody l)
      ⟨⟨.punct "(", 1, false⟩, rest⟩ (· = ())
      ⟨⟨.punct ";", 1, false⟩, "\n  host".toList ++ (displayText ++ tail)⟩) :
    Reads (leftHandSide (Runner.upTo text (d + 50))) (inBody l)
      ⟨⟨.word "host" false, 4, true⟩, scopeText ++ rest⟩ (fun _ => True)
      ⟨⟨.punct ";", 1, false⟩, "\n  host".toList ++ (displayText ++ tail)⟩ := by
  unfold leftHandSide
  refine Reads.context_bind ?_
  refine Reads.bind_eq (a := .name "host")
    (w := ⟨⟨.punct ".", 1, false⟩, scopeText.tail ++ rest⟩) (Reads.of_eval fun _ _ _ _ => by cbv) ?_
  refine Reads.bind_eq (a := ⟨.other, false⟩) ?_ (Reads.pure trivial)
  refine Reads.context_bind ?_
  refine Reads.repeat_next (R := (· = ⟨.other, false⟩))
    (w := ⟨⟨.punct ";", 1, false⟩, "\n  host".toList ++ (displayText ++ tail)⟩) ?_ ?_
  · refine Reads.bind_eq (a := ⟨.member, false⟩) (w := ⟨⟨.punct "(", 1, false⟩, rest⟩)
      (Reads.of_eval fun _ _ _ _ => by cbv) ?_
    refine Reads.bind_eq (a := some ⟨.other, false⟩) ?_ (Reads.pure ⟨_, rfl, rfl⟩)
    refine Reads.eatPunct_bind rfl (Reads.atPunct_bind ?_)
    exact Reads.bind_eq hcall (Reads.pure rfl)
  rintro _ rfl
  exact Reads.repeat_last ((Reads.of_eval (a := .inr ⟨.other, false⟩)
    fun _ _ _ _ => by cbv).mono fun _ h => ⟨_, h, rfl⟩)

end

section

variable {name : String} {n : Nat} {rest after : List Char} {P : Shape → Prop}

/-- A statement that is an expression and starts with the host. -/
lemma reads_hostStatement
    (hlabel : Reads (startsLabel : Parser text Bool) (inBody l)
      ⟨⟨.word "host" false, 4, true⟩, rest⟩
      (· = false) ⟨⟨.word "host" false, 4, true⟩, rest⟩)
    (hplain : Reads (plainAssignment (Runner.upTo text d) true) (inBody l)
      ⟨⟨.word "host" false, 4, true⟩, rest⟩ P ⟨⟨.punct ";", 1, false⟩, after⟩)
    (hend : Reads (advance : Parser text Unit) (inBody l) ⟨⟨.punct ";", 1, false⟩, after⟩
      (· = ()) u) :
    Reads (Runner.upTo text (d + 3) (.statement false)) (inBody l)
      ⟨⟨.word "host" false, 4, true⟩, rest⟩ (· = .other) u := by
  have hname : View.AtName ⟨⟨.word "host" false, 4, true⟩, rest⟩ "host" := ⟨rfl, rfl⟩
  have hexpression : Reads (expressionStatement (Runner.upTo text (d + 2))) (inBody l)
      ⟨⟨.word "host" false, 4, true⟩, rest⟩ (fun _ => True) u := by
    unfold expressionStatement
    refine Reads.bind_eq hlabel ?_
    rw [if_neg Bool.false_ne_true]
    have hread := reads_expression rfl (reads_assignment hname hplain)
    exact (Reads.within hread).bind fun _ _ => (reads_statementEnd hend).mono fun _ _ => trivial
  show Reads (anyStatement (Runner.upTo text (d + 2)) false) _ _ _ _
  unfold anyStatement
  refine Reads.kind_bind ?_
  show Reads (if "host" = "export" then _ else _) _ _ _ _
  rw [if_neg (by decide)]
  refine Reads.looksLike.bind fun _ _ => ?_
  rw [if_neg (by simp)]
  refine Reads.bind (P := fun _ => True) ?_ fun _ _ => Reads.pure rfl
  simp only [keywordStatement]
  refine Reads.peek_bind (a := false) (fun _ _ _ _ => rfl) ?_
  rw [if_neg Bool.false_ne_true]
  refine Reads.peek_bind (a := false) (fun _ _ _ _ => rfl) ?_
  rw [if_neg Bool.false_ne_true]
  refine Reads.context_bind (Reads.looksLike.bind fun _ _ => ?_)
  have htypes : (inBody l).typescript = false := rfl
  rw [htypes, Bool.false_and, if_neg Bool.false_ne_true]
  exact hexpression

/-- The statement that sets the attribute. -/
lemma reads_scope (hblanks : Lexer.blanks .outside false 0 rest = some (0, false))
    (htoken : Lexer.token rest = some (.string name, n))
    (hdrop : rest.drop n = emptyText ++ (displayText ++ tail)) :
    Reads (Runner.upTo text (d + 60) (.statement false)) (inBody l)
      ⟨⟨.word "host" false, 4, true⟩, scopeText ++ rest⟩ (· = .other)
      ⟨⟨.word "host" false, 4, true⟩, displayText ++ tail⟩ := by
  have hname : View.AtName ⟨⟨.word "host" false, 4, true⟩, scopeText ++ rest⟩ "host" := ⟨rfl, rfl⟩
  have hplain : Reads (plainAssignment (Runner.upTo text (d + 57)) true) (inBody l)
      ⟨⟨.word "host" false, 4, true⟩, scopeText ++ rest⟩ (fun _ => True)
      ⟨⟨.punct ";", 1, false⟩, "\n  host".toList ++ (displayText ++ tail)⟩ :=
    reads_plain (by decide) (reads_binary hname rfl (by decide)
      (reads_unary hname rfl (by decide) (reads_scopeLeft (reads_scopeCall hblanks htoken hdrop))))
  exact reads_hostStatement (Reads.of_eval fun _ _ _ _ => by cbv) hplain
    (Reads.of_eval fun _ _ _ _ => by cbv)

/-! ## The markup -/

/-- The statement that sets the markup. -/
lemma reads_markup (hblanks : Lexer.blanks .outside false 0 (' ' :: rest) = some (1, false))
    (htoken : Lexer.token rest = some (.template true true, n))
    (hdrop : rest.drop n = branchText ++ (appendText ++ resultText)) :
    Reads (Runner.upTo text (d + 60) (.statement false)) (inBody l)
      ⟨⟨.word "host" false, 4, true⟩, markupText ++ ' ' :: rest⟩ (· = .other)
      ⟨⟨.word "if" false, 2, true⟩, appendText ++ resultText⟩ := by
  have hadvance : Reads (advance : Parser text Unit) (inBody l)
      ⟨⟨.punct "=", 1, false⟩, ' ' :: rest⟩ (· = ())
      ⟨⟨.template true true, n, false⟩, branchText ++ (appendText ++ resultText)⟩ :=
    reads_advance hblanks htoken hdrop
  have hplain : Reads (plainAssignment (Runner.upTo text (d + 57)) true) (inBody l)
      ⟨⟨.word "host" false, 4, true⟩, markupText ++ ' ' :: rest⟩ (fun _ => True)
      ⟨⟨.punct ";", 1, false⟩, "\n  if".toList ++ (appendText ++ resultText)⟩ := by
    unfold plainAssignment
    refine Reads.bind_eq (a := .member) (w := ⟨⟨.punct "=", 1, false⟩, ' ' :: rest⟩)
      (Reads.of_eval fun _ _ _ _ => by cbv) ?_
    refine Reads.peek_bind (a := some "=") (fun _ _ _ _ => rfl) ?_
    simp only
    unfold plainAssignment.rest
    refine Reads.peek_bind (a := none) (fun _ _ _ _ => rfl) ?_
    rw [if_pos (by decide), if_pos rfl]
    refine Reads.bind_eq (a := ()) (Reads.pure rfl) ?_
    refine Reads.peek_bind (a := ()) (fun _ _ _ _ => rfl) (Reads.bind_eq hadvance ?_)
    refine Reads.bind_eq (a := .other)
      (w := ⟨⟨.punct ";", 1, false⟩, "\n  if".toList ++ (appendText ++ resultText)⟩)
      (Reads.of_eval fun _ _ _ _ => by cbv) ?_
    exact Reads.pure trivial
  exact reads_hostStatement (Reads.of_eval fun _ _ _ _ => by cbv) hplain
    (Reads.of_eval fun _ _ _ _ => by cbv)

end

/-! ## The exported function -/

/-- What may stand for the digest and the markup. -/
structure Fills (digest template : List Char) : Prop where
  digest : ∀ c ∈ digest, c.isAlphanum = true
  template : ∀ rest, ∃ n, Lexer.token (Char.ofNat 96 :: (template ++ Char.ofNat 96 :: rest)) =
    some (.template true true, n) ∧
    (Char.ofNat 96 :: (template ++ Char.ofNat 96 :: rest)).drop n = rest

namespace Fills

variable {digest template : List Char} (h : Fills digest template)

include h

/-- The name of the attribute is a string. -/
lemma token_attribute (rest : List Char) :
    ∃ name, Lexer.token ('\'' :: ("data-pg-".toList ++ digest ++ '\'' :: rest)) =
      some (.string name, ("data-pg-".toList ++ digest).length + 2) := by
  refine ⟨_, Lexer.token_string ?_ rest⟩
  have hne : ∀ e : Char, e.isAlphanum = false → ∀ c ∈ digest, c ≠ e := by
    rintro e he c hc rfl
    rw [h.digest c hc] at he
    cases he
  intro c hc
  rw [List.mem_append] at hc
  rcases hc with hc | hc
  · have hfixed : "data-pg-".toList.all (fun c => c ≠ '\'' ∧ c ≠ '\\' ∧ c ≠ '\n' ∧ c ≠ '\r') := by
      decide
    exact of_decide_eq_true (List.all_eq_true.mp hfixed c hc)
  · exact ⟨hne _ rfl c hc, hne _ rfl c hc, hne _ rfl c hc, hne _ rfl c hc⟩

/-- The name of the function is a word. -/
lemma token_function (rest : List Char) :
    ∃ name, Lexer.token ('C' :: ("omponent_".toList ++ digest ++ '(' :: rest)) =
        some (.word name false, ("omponent_".toList ++ digest).length + 1) ∧
      isReserved name = false ∧ name ≠ "await" := by
  have hparts : ∀ c ∈ "omponent_".toList ++ digest, Lexer.isNamePart c = true := by
    intro c hc
    rw [List.mem_append] at hc
    rcases hc with hc | hc
    · have hfixed : "omponent_".toList.all Lexer.isNamePart := by decide
      exact List.all_eq_true.mp hfixed c hc
    · exact Lexer.isNamePart_of_isAlphanum (h.digest c hc)
  refine ⟨_, Lexer.token_word rfl hparts (by decide) (by decide) rest, ?_, ?_⟩
  · have hwords : ∀ w ∈ reservedWords, w.toList.head? ≠ some 'C' := by decide
    rw [← Bool.not_eq_true, isReserved, List.contains_iff_mem]
    intro hmem
    exact hwords _ hmem (by rw [String.toList_ofList]; rfl)
  · intro heq
    have hhead := congrArg (fun s : String => s.toList.head?) heq
    simp at hhead

end Fills

variable {digest template : List Char}

/-- The body of the exported function. -/
lemma reads_body (h : Fills digest template) :
    Reads (functionBody (Runner.upTo text (d + 61))) (inFunction l)
      ⟨⟨.punct "\x7b", 1, false⟩, "\n  const".toList ++ (targetText ++ (propsText ++ (hostText ++
        fromScope digest template)))⟩ (· = ())
      ⟨⟨.eof, 0, true⟩, []⟩ := by
  have hopen : Reads (expectPunct "\x7b" : Parser text Unit) (inBody l)
      ⟨⟨.punct "\x7b", 1, false⟩, "\n  const".toList ++ (targetText ++ (propsText ++ (hostText ++
        fromScope digest template)))⟩ (· = ())
      ⟨⟨.word "const" false, 5, true⟩, targetText ++ (propsText ++ (hostText ++
        fromScope digest template))⟩ :=
    Reads.of_eval fun _ _ _ _ => by cbv
  have hscope : Reads (Runner.upTo text (d + 60) (.statement false)) (inBody l)
      ⟨⟨.word "host" false, 4, true⟩, fromScope digest template⟩ (· = .other)
      ⟨⟨.word "host" false, 4, true⟩, displayText ++ fromMarkup template⟩ := by
    obtain ⟨name, htoken⟩ := h.token_attribute (emptyText ++ (displayText ++ fromMarkup template))
    exact reads_scope rfl htoken (by simp)
  have hmarkup : Reads (Runner.upTo text (d + 60) (.statement false)) (inBody l)
      ⟨⟨.word "host" false, 4, true⟩, fromMarkup template⟩ (· = .other)
      ⟨⟨.word "if" false, 2, true⟩, appendText ++ resultText⟩ := by
    obtain ⟨n, htoken, hdrop⟩ := h.template (branchText ++ (appendText ++ resultText))
    exact reads_markup rfl htoken hdrop
  have hclose : Reads (advance : Parser text Unit) (inBody l) ⟨⟨.punct "\x7d", 1, true⟩, ['\n']⟩
      (· = ()) ⟨⟨.eof, 0, true⟩, []⟩ := Reads.of_eval fun _ _ _ _ => by cbv
  refine Reads.within ?_
  show Reads (blockStatement (Runner.upTo text (d + 60))) (inBody l) _ _ _
  rw [blockStatement_eq]
  refine Reads.bind_eq hopen (Reads.context_bind ?_)
  exact reads_inner rfl reads_target <| reads_inner rfl reads_props <|
    reads_inner rfl reads_host <| reads_inner rfl hscope <| reads_inner rfl reads_display <|
    reads_inner rfl hmarkup <| reads_inner rfl reads_append <| reads_inner rfl reads_result <|
    reads_close rfl hclose

/-- The exported function from its parameters on. -/
lemma reads_function (h : Fills digest template) :
    Reads (functionRest (Runner.upTo text (d + 61)) false false) (atTop l)
      ⟨⟨.punct "(", 1, false⟩, fromOptions digest template⟩ (· = ()) ⟨⟨.eof, 0, true⟩, []⟩ := by
  unfold functionRest
  refine Reads.within ?_
  refine Reads.bind_eq (a := ()) (w := ⟨⟨.punct "(", 1, false⟩, fromOptions digest template⟩)
    (Reads.context_bind (Reads.pure rfl)) ?_
  refine Reads.bind_eq reads_options ?_
  refine Reads.bind_eq (a := ()) (Reads.context_bind (Reads.pure rfl)) ?_
  exact Reads.atPunct_bind (reads_body h)

/-- The export of the function. -/
lemma reads_export (h : Fills digest template) :
    Reads (Runner.upTo text (d + 62) (.statement false)) (atTop l)
      ⟨⟨.word "export" false, 6, true⟩, headText ++ 'C' :: ("omponent_".toList ++ digest ++
        '(' :: fromOptions digest template)⟩
      (fun item => ∃ span name, item = .exportDefaultNamed span name) ⟨⟨.eof, 0, true⟩, []⟩ := by
  obtain ⟨name, htoken, hreserved, hawait⟩ := h.token_function (fromOptions digest template)
  have hdeclaration : Reads (functionDeclaration (Runner.upTo text (d + 61)) true) (atTop l)
      ⟨⟨.word "function" false, 8, false⟩, ' ' :: 'C' :: ("omponent_".toList ++ digest ++
        '(' :: fromOptions digest template)⟩ (· = some name) ⟨⟨.eof, 0, true⟩, []⟩ := by
    have hdrop : (('C' :: ("omponent_".toList ++ digest ++
        '(' :: fromOptions digest template)).drop (("omponent_".toList ++ digest).length + 1)) =
        '(' :: fromOptions digest template := by simp
    have hblanks : Lexer.blanks .outside false 0 (' ' :: 'C' :: ("omponent_".toList ++ digest ++
        '(' :: fromOptions digest template)) = some (1, false) := rfl
    exact reads_functionDeclaration rfl hreserved hawait
      (reads_advance hblanks htoken hdrop)
      (Reads.of_eval fun _ _ _ _ => by cbv) (reads_function h)
  show Reads (anyStatement (Runner.upTo text (d + 61)) false) _ _ _ _
  unfold anyStatement
  refine Reads.kind_bind ?_
  show Reads (if "export" = "export" then _ else _) _ _ _ _
  rw [if_pos rfl]
  refine Reads.here_bind fun start => ?_
  unfold exportStatement
  refine Reads.bind_eq (a := ()) (w := ⟨⟨.word "default" false, 7, false⟩,
    " function ".toList ++ 'C' :: ("omponent_".toList ++ digest ++
      '(' :: fromOptions digest template)⟩) (Reads.of_eval fun _ _ _ _ => by cbv) ?_
  refine Reads.context_bind (Reads.atWord_bind ?_)
  show Reads (if true = true then _ else _) _ _ _ _
  rw [if_pos rfl]
  unfold exportDefault
  -- Classes and declarations with types are looked for first.
  refine Reads.bind_eq (a := ()) (w := ⟨⟨.word "function" false, 8, false⟩,
    ' ' :: 'C' :: ("omponent_".toList ++ digest ++ '(' :: fromOptions digest template)⟩)
    (Reads.of_eval fun _ _ _ _ => by cbv) ?_
  refine Reads.context_bind (Reads.here_bind fun inner => ?_)
  refine Reads.peek_bind (a := false) (fun _ _ _ _ => rfl) ?_
  refine Reads.peek_bind (a := false) (fun _ _ _ _ => rfl) ?_
  refine Reads.peek_bind (a := false) (fun _ _ _ _ => rfl) ?_
  refine Reads.looksLike.bind fun _ _ => ?_
  rw [if_neg (by simp)]
  refine Reads.peek_bind (a := false) (fun _ _ _ _ => rfl) ?_
  refine Reads.looksLike.bind fun _ _ => ?_
  rw [if_neg (by simp)]
  refine Reads.peek_bind (a := true) (fun _ _ _ _ => rfl) ?_
  rw [if_pos rfl]
  exact Reads.bind_eq hdeclaration (Reads.pure ⟨_, _, rfl⟩)

/-- The module of a component is a script with one export. -/
lemma parse_moduleText {digest template : String} (h : Fills digest.toList template.toList) :
    ∃ span name, Program.parse false (moduleText digest template [] []).toList =
      some ⟨[.other, .exportDefaultNamed span name], []⟩ := by
  have hescape : ∃ rest, fromEscape digest.toList template.toList = ' ' :: rest ∧
      13 ≤ rest.length := by
    refine ⟨escapeText.tail ++ (stringText ++ (replaceText ++ (headText ++ 'C' ::
      ("omponent_".toList ++ digest.toList ++ '(' ::
        fromOptions digest.toList template.toList)))), ?_, ?_⟩
    · have hcons : escapeText = ' ' :: escapeText.tail := by cbv
      rw [fromEscape]
      nth_rewrite 1 [hcons]
      rw [List.cons_append]
    · have hcount : escapeText.tail.length = 31 := by cbv
      rw [List.length_append, hcount]
      omega
  obtain ⟨rest, hrest, hcount⟩ := hescape
  rw [moduleText_eq, hrest]
  -- The length bounds the depth and the rounds of all loops; it only has to be large enough.
  generalize htext : "const".toList ++ ' ' :: rest = text
  have hlength : text.length = rest.length + 6 := by
    rw [← htext, List.length_append, List.length_cons]
    have hword : "const".toList.length = 5 := by cbv
    omega
  obtain ⟨l, hl⟩ := Nat.exists_eq_add_of_le hcount
  have hlimit : text.length + 2 = (l + 1) + 20 := by omega
  have hdepth : Program.depthPerCharacter * (text.length + 2) = (8 * l + 106) + 62 := by
    rw [hlimit, Program.depthPerCharacter]
    omega
  have hread : Reads (Program.statements (Runner.upTo text
      (Program.depthPerCharacter * (text.length + 2)))) (Program.topLevel false (text.length + 2))
      ⟨⟨.word "const" false, 5, false⟩, ' ' :: rest⟩
      (fun items => ∃ span name, items = [.other, .exportDefaultNamed span name])
      ⟨⟨.eof, 0, true⟩, []⟩ := by
    rw [hdepth, hlimit, ← hrest]
    refine Reads.context_bind ?_
    refine reads_item (by simp) reads_escape ?_
    rintro _ rfl
    refine reads_item (by simp) (reads_export h) ?_
    rintro _ ⟨span, name, rfl⟩
    refine (reads_end rfl).mono ?_
    rintro _ rfl
    exact ⟨span, name, rfl⟩
  obtain ⟨items, ⟨span, name, rfl⟩, hparse⟩ := Program.parse_of_reads
    (stands_word (by decide) htext.symm) hread (by
      rintro _ ⟨span, name, rfl⟩
      rfl)
  exact ⟨span, name, hparse⟩

/-! ## Escaped markup -/

/-- The characters with a backslash stand for themselves. -/
lemma escape?_mark {c : Char} (h : c = '\\' ∨ c = Char.ofNat 96 ∨ c = '$') (rest : List Char) :
    Lexer.escape? true (c :: rest) = some ([.char c], 1) := by
  rcases h with rfl | rfl | rfl <;> rfl

/-- Escaped text is passed over up to the mark that ends the template. -/
lemma templatePart_flatMap (cs : List Char) (n : Nat) (rest : List Char) :
    Lexer.templatePart true 0 n (cs.flatMap Template.escapeChar ++ Char.ofNat 96 :: rest) =
      some (.template true true, n + (cs.flatMap Template.escapeChar).length + 1) := by
  induction cs generalizing n with
  | nil => simp [Lexer.templatePart]
  | cons c cs ih =>
    rw [List.flatMap_cons, List.append_assoc, Template.escapeChar]
    split
    · -- A backslash and the character behind it are passed over together.
      rename_i hmark
      rw [List.cons_append, List.cons_append, List.nil_append, Lexer.templatePart,
        if_neg (by decide), if_neg (by simp), if_pos rfl, escape?_mark hmark]
      simp only [Lexer.templatePart]
      rw [ih]
      simp only [List.length_append, List.length_cons, List.length_nil]
      congr 2
      omega
    · rename_i hplain
      rw [not_or, not_or] at hplain
      rw [List.cons_append, List.nil_append, Lexer.templatePart, if_neg hplain.2.1,
        if_neg (by simp [hplain.2.2]), if_neg hplain.1, ih]
      simp only [List.length_append, List.length_cons, List.length_nil]
      congr 2
      omega

/-- Escaped markup may stand for the markup. -/
lemma fills_escaped {digest : List Char} (h : ∀ c ∈ digest, c.isAlphanum = true)
    (markup : List Char) : Fills digest (escaped markup) := by
  refine ⟨h, fun rest => ⟨(escaped markup).length + 2, ?_, by simp⟩⟩
  rw [escaped_eq]
  unfold Lexer.token
  simp only
  rw [if_neg (by decide), if_pos True.intro, templatePart_flatMap, Nat.add_comm 1]

end LiveBundle.Component
