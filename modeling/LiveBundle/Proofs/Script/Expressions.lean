import LiveBundle.Proofs.Script.Statements

/-!
# Reading expressions that start with a name

An expression that starts with a plain name is found by its first productions from the token alone:
it is no arrow function with parentheses and has no operator in front.

* `reads_left` goes from a left-hand side to the first operands, `reads_right` from there to the
  whole expression when no operator follows.
* `reads_expressionStatement` is the statement that such an expression makes.
-/

namespace LiveBundle.Script

open LiveBundle.Script.Parser

variable {text : List Char} {run : Runner text} {ctx : Context} {d : Nat} {u w : View}
  {P : Shape → Prop}

/-- A name that is no keyword where an expression starts. -/
def isPlainName (name : String) : Bool :=
  !(["yield", "async", "await", "delete", "typeof", "void", "function"].contains name)

/-- A view at a plain name. -/
structure View.AtName (v : View) (name : String) : Prop where
  kind : v.token.kind = .word name false
  plain : isPlainName name = true

namespace View.AtName

variable {v : View} {name : String} (h : v.AtName name)

include h

lemma isWord {w' : String} (hw : isPlainName w' = false) : v.token.kind.isWord w' = false := by
  rw [h.kind, TokenKind.isWord, beq_eq_false_iff_ne]
  rintro rfl
  rw [h.plain] at hw
  cases hw

/-- A keyword is not there. -/
lemma atWord_bind {w' : String} {α : Type} {g : Bool → Parser text α} {Q : α → Prop}
    (hw : isPlainName w' = false) (hf : Reads (g false) ctx v Q u) :
    Reads (Parser.atWord w' >>= g) ctx v Q u := by
  refine Reads.atWord_bind ?_
  rw [h.isWord hw]
  exact hf

lemma noPunct (ps : List String) :
    Reads (Parser.atAnyPunct ps : Parser text Bool) ctx v (· = false) v := by
  refine Reads.kind_bind ?_
  rw [h.kind]
  exact Reads.pure rfl

lemma noWord {ws : List String} (hws : ∀ w' ∈ ws, isPlainName w' = false) :
    Reads (Parser.atAnyWord ws : Parser text Bool) ctx v (· = false) v := by
  refine Reads.kind_bind ?_
  rw [h.kind]
  refine Reads.pure ?_
  rw [← Bool.not_eq_true, List.contains_iff_mem]
  intro hname
  have hplain := hws name hname
  rw [h.plain] at hplain
  cases hplain

end View.AtName

variable {v : View} {name : String}

/-! ## Operands -/

/-- Punctuators that end an operand and are no operators between operands. -/
def operandEnds : List String := [";", ")", "="]

lemma mem_operandEnds {p : String} : p ∈ operandEnds ↔ p = ";" ∨ p = ")" ∨ p = "=" := by
  simp [operandEnds]

/-- A left-hand side that starts with a name is an operand. -/
lemma reads_unary {p : String} {length : Nat} {after : List Char} (h : v.AtName name)
    (hctx : ctx.typescript = false) (hp : p ∈ operandEnds)
    (hleft : Reads (leftHandSide (Runner.upTo text d)) ctx v P ⟨⟨.punct p, length, false⟩, after⟩) :
    Reads (Runner.upTo text (d + 1) .unary) ctx v P ⟨⟨.punct p, length, false⟩, after⟩ := by
  show Reads (unaryExpression (Runner.upTo text d)) _ _ _ _
  unfold unaryExpression
  -- Operators in front, by sign and by word.
  refine Reads.context_bind (Reads.bind_eq (h.noPunct _) (Reads.bind_eq (h.noWord ?_) ?_))
  · decide
  rw [Bool.false_or, if_neg Bool.false_ne_true]
  refine Reads.bind_eq (a := false) (w := v) ?_ ?_
  · exact h.atWord_bind rfl (Reads.pure rfl)
  rw [if_neg Bool.false_ne_true]
  refine Reads.bind_eq (h.noPunct _) ?_
  rw [if_neg Bool.false_ne_true]
  refine Reads.atPunct_bind ?_
  rw [hctx, Bool.false_and, if_neg Bool.false_ne_true]
  refine hleft.bind fun operand hoperand => ?_
  -- Operators behind the operand.
  refine Reads.peek_bind (a := false) (fun _ _ _ _ => ?_) ?_
  · rcases mem_operandEnds.mp hp with rfl | rfl | rfl <;> rfl
  refine Reads.peek_bind (a := false) (fun _ _ _ _ => rfl) ?_
  rw [Bool.false_and, if_neg Bool.false_ne_true]
  exact Reads.pure hoperand

/-- An operand alone. -/
lemma reads_binary {p : String} {length limit : Nat} {after : List Char} (h : v.AtName name)
    (hlimit : ctx.limit = limit + 1) (hp : p ∈ operandEnds)
    (hunary : Reads (Runner.upTo text d .unary) ctx v P ⟨⟨.punct p, length, false⟩, after⟩) :
    Reads (Runner.upTo text (d + 1) (.binary 0)) ctx v P ⟨⟨.punct p, length, false⟩, after⟩ := by
  show Reads (binaryExpression (Runner.upTo text d) 0) _ _ _ _
  unfold binaryExpression
  have hfirst : Reads (firstOperand (Runner.upTo text d) 0) ctx v P
      ⟨⟨.punct p, length, false⟩, after⟩ := by
    refine Reads.kind_bind ?_
    rw [h.kind]
    exact hunary
  refine hfirst.bind fun shape hshape => ?_
  refine Reads.context_bind ?_
  rw [hlimit]
  refine Reads.repeat_last ?_
  refine Reads.peek_bind (a := none) (fun _ _ _ _ => ?_) (Reads.pure ⟨shape, rfl, hshape⟩)
  rcases mem_operandEnds.mp hp with rfl | rfl | rfl <;> cbv

/-- Punctuators behind which no operator can stand. -/
def expressionEnds : List String := [";", ")"]

lemma mem_expressionEnds {p : String} : p ∈ expressionEnds ↔ p = ";" ∨ p = ")" := by
  simp [expressionEnds]

/-- Operands without an operator behind them are an expression. -/
lemma reads_plain {p : String} {length : Nat} {after : List Char} {arrowTypes : Bool}
    (hp : p ∈ expressionEnds)
    (hbinary : Reads (run (.binary 0)) ctx v P ⟨⟨.punct p, length, false⟩, after⟩) :
    Reads (plainAssignment run arrowTypes) ctx v P ⟨⟨.punct p, length, false⟩, after⟩ := by
  unfold plainAssignment
  refine hbinary.bind fun shape hshape => ?_
  have hrest : Reads (plainAssignment.rest run arrowTypes (some p) shape) ctx
      ⟨⟨.punct p, length, false⟩, after⟩ P ⟨⟨.punct p, length, false⟩, after⟩ := by
    unfold plainAssignment.rest
    refine Reads.peek_bind (a := none) (fun _ _ _ _ => rfl) ?_
    have hassign : assignmentOperators.contains p = false := by
      rcases mem_expressionEnds.mp hp with rfl | rfl <;> rfl
    rw [hassign, Bool.false_and, if_neg Bool.false_ne_true]
    unfold conditionalRest
    refine Reads.eatPunct_bind ?_ (Reads.pure hshape)
    rcases mem_expressionEnds.mp hp with rfl | rfl <;> rfl
  refine Reads.peek_bind (a := some p) (fun _ _ _ _ => ?_) ?_
  · rcases mem_expressionEnds.mp hp with rfl | rfl <;> rfl
  -- A name alone may be the parameter of an arrow function.
  cases shape with
  | name name =>
    refine Reads.atPunct_bind ?_
    have harrow : TokenKind.isPunct "=>" (.punct p) = false := by
      rcases mem_expressionEnds.mp hp with rfl | rfl <;> rfl
    rw [harrow]
    exact hrest
  | _ => exact hrest

/-- An expression that starts with a name is no arrow function with parentheses. -/
lemma reads_assignment {arrowTypes : Bool} (h : v.AtName name)
    (hplain : Reads (plainAssignment (Runner.upTo text d) arrowTypes) ctx v P w) :
    Reads (Runner.upTo text (d + 1) (.assignment arrowTypes)) ctx v P w := by
  show Reads (assignmentExpression (Runner.upTo text d) arrowTypes) _ _ _ _
  unfold assignmentExpression
  refine Reads.context_bind (Reads.bind_eq (a := false) (w := v) ?_ ?_)
  · exact h.atWord_bind rfl (Reads.pure rfl)
  rw [if_neg Bool.false_ne_true]
  refine Reads.bind_eq (a := .no) (w := v) ?_ ?_
  · exact Reads.bind_eq (h.noPunct _) (h.atWord_bind rfl (Reads.pure rfl))
  simp only
  unfold assignmentExpression.other
  refine Reads.bind_eq (a := false) (w := v) ?_ ?_
  · exact h.atWord_bind rfl (Reads.pure rfl)
  rw [if_neg Bool.false_ne_true]
  exact hplain

/-! ## Arrow functions -/

/-- The body of an arrow function that is an expression. -/
lemma reads_arrowBody {arrowTypes : Bool} (hctx : ctx.inOperator = true)
    (hbrace : v.token.kind.isPunct "\x7b" = false)
    (hbody : Reads (run (.assignment arrowTypes)) (Context.inFunction false false ctx) v P w) :
    Reads (arrowBody run false arrowTypes) ctx v (fun _ => True) w := by
  unfold arrowBody
  refine Reads.context_bind ?_
  rw [hctx]
  refine Reads.within (Reads.atPunct_bind ?_)
  rw [hbrace, if_neg Bool.false_ne_true]
  exact (Reads.within hbody).bind fun _ _ => Reads.pure trivial

/-- An expression that may be an arrow function is one when it reads as one. -/
lemma reads_arrow {arrowTypes : Bool} {length : Nat} {broken : Bool} {rest : List Char}
    (hverdict : Reads (arrowVerdict : Parser text Verdict) ctx ⟨⟨.punct "(", length, broken⟩, rest⟩
      (· = .maybe) ⟨⟨.punct "(", length, broken⟩, rest⟩)
    (harrow : Reads (arrowFunction (Runner.upTo text d) arrowTypes) ctx
      ⟨⟨.punct "(", length, broken⟩, rest⟩ P w) :
    Reads (Runner.upTo text (d + 1) (.assignment arrowTypes)) ctx
      ⟨⟨.punct "(", length, broken⟩, rest⟩ P w := by
  show Reads (assignmentExpression (Runner.upTo text d) arrowTypes) _ _ _ _
  unfold assignmentExpression
  refine Reads.context_bind (Reads.peek_bind (a := false) (fun _ _ _ _ => rfl) ?_)
  rw [if_neg Bool.false_ne_true]
  refine Reads.bind_eq hverdict (harrow.attempt.bind ?_)
  rintro _ ⟨shape, rfl, hshape⟩
  exact Reads.pure hshape

/-! ## Functions -/

section

variable {length length' : Nat} {broken : Bool} {rest after : List Char}

/-- A name that is bound. -/
lemma reads_bindingName (hyields : ctx.yields = false) (hreserved : isReserved name = false)
    (hawait : name ≠ "await")
    (h : Reads (advance : Parser text Unit) ctx ⟨⟨.word name false, length, broken⟩, rest⟩ (· = ())
      w) :
    Reads (bindingName : Parser text String) ctx ⟨⟨.word name false, length, broken⟩, rest⟩
      (· = name) w := by
  unfold bindingName
  refine Reads.peek_bind (a := some name) (fun _ _ _ _ => rfl) ?_
  simp only [hreserved]
  refine Reads.bind_eq (Reads.pure rfl) (Reads.context_bind ?_)
  rw [hyields, beq_eq_false_iff_ne.mpr hawait, Bool.and_false, Bool.false_and, Bool.or_false]
  exact Reads.bind_eq (Reads.pure rfl) (Reads.bind_eq h (Reads.pure rfl))

/-- The declaration of a function with a name. -/
lemma reads_functionDeclaration {optionalName : Bool} (hyields : ctx.yields = false)
    (hreserved : isReserved name = false) (hawait : name ≠ "await")
    (hname : Reads (advance : Parser text Unit) ctx
      ⟨⟨.word "function" false, length, broken⟩, rest⟩ (· = ())
      ⟨⟨.word name false, length', false⟩, after⟩)
    (hnext : Reads (advance : Parser text Unit) ctx ⟨⟨.word name false, length', false⟩, after⟩
      (· = ()) v)
    (hrest : Reads (functionRest run false false) ctx v (· = ()) w) :
    Reads (functionDeclaration run optionalName) ctx
      ⟨⟨.word "function" false, length, broken⟩, rest⟩ (· = some name) w := by
  have hhead : Reads (functionHead : Parser text (Bool × Bool)) ctx
      ⟨⟨.word "function" false, length, broken⟩, rest⟩ (· = (false, false))
      ⟨⟨.word name false, length', false⟩, after⟩ := by
    unfold functionHead
    refine Reads.peek_bind (a := false) (fun _ _ _ _ => rfl) ?_
    exact Reads.bind_eq (Reads.expectWord rfl hname) (Reads.eatPunct_bind rfl (Reads.pure rfl))
  have hbindable : Reads (atBindable : Parser text Bool) ctx
      ⟨⟨.word name false, length', false⟩, after⟩ (· = true)
      ⟨⟨.word name false, length', false⟩, after⟩ := by
    refine Reads.bind_eq (a := some name) (Reads.kind_bind (Reads.pure rfl)) ?_
    simp only [hreserved]
    exact Reads.pure rfl
  unfold functionDeclaration
  refine Reads.bind_eq hhead (Reads.bind_eq hbindable ?_)
  have hbinding := reads_bindingName hyields hreserved hawait hnext
  refine Reads.bind_eq (a := some name) (w := v) (Reads.bind_eq hbinding (Reads.pure rfl)) ?_
  exact Reads.bind_eq hrest (Reads.pure rfl)

end

/-! ## Statements -/

/-- An expression without commas. -/
lemma reads_expression {limit : Nat} {after : List Char} (hlimit : ctx.limit = limit + 1)
    (h : Reads (Runner.upTo text d (.assignment true)) ctx v P ⟨⟨.punct ";", 1, false⟩, after⟩) :
    Reads (Runner.upTo text (d + 1) .expression) ctx v P ⟨⟨.punct ";", 1, false⟩, after⟩ := by
  show Reads (commaExpression (Runner.upTo text d)) _ _ _ _
  unfold commaExpression
  refine h.bind fun shape hshape => ?_
  refine Reads.context_bind ?_
  rw [hlimit]
  exact Reads.repeat_last (Reads.eatPunct_bind rfl (Reads.pure ⟨shape, rfl, hshape⟩))

/-- A semicolon ends a statement. -/
lemma reads_statementEnd {after : List Char}
    (hend : Reads (advance : Parser text Unit) ctx ⟨⟨.punct ";", 1, false⟩, after⟩ (· = ()) w) :
    Reads (statementEnd : Parser text Unit) ctx ⟨⟨.punct ";", 1, false⟩, after⟩ (· = ()) w := by
  refine Reads.bind_eq (a := true) ?_ (Reads.pure rfl)
  exact Reads.atPunct_bind (Reads.bind_eq hend (Reads.pure rfl))

/-- Where types are no part of the language, none is read behind a colon. -/
lemma reads_untyped (hctx : ctx.typescript = false) :
    Reads (optionalType run) ctx v (· = ()) v := by
  refine Reads.context_bind ?_
  rw [hctx, if_neg Bool.false_ne_true]
  exact Reads.pure rfl

section

variable {limit length : Nat} {broken : Bool} {rest after : List Char} {pattern : Pattern}
  {named equals value : View}

/-- A variable with a value. -/
lemma reads_declarator (hctx : ctx.typescript = false)
    (hpattern : Reads (run .pattern) ctx named (· = pattern) equals)
    (hequals : Reads (eatPunct "=" : Parser text Bool) ctx equals (· = true) value)
    (hvalue : Reads (run (.assignment true)) ctx value P w) :
    Reads (declarator run) ctx named (· = (pattern, true)) w := by
  unfold declarator
  refine Reads.bind_eq hpattern (Reads.context_bind ?_)
  rw [hctx, if_neg Bool.false_ne_true]
  refine Reads.bind_eq (reads_untyped hctx) (Reads.bind_eq hequals ?_)
  exact hvalue.bind fun _ _ => Reads.pure rfl

/-- Variables from the name of the first one on, when there is no other. -/
lemma reads_variableStatement {kind : VariableKind} (hlimit : ctx.limit = limit + 1)
    (hdeclarator : Reads (declarator run) ctx named (· = (pattern, true))
      ⟨⟨.punct ";", 1, false⟩, after⟩)
    (hend : Reads (advance : Parser text Unit) ctx ⟨⟨.punct ";", 1, false⟩, after⟩ (· = ()) w) :
    Reads (variableStatement run kind) ctx named (fun _ => True) w := by
  unfold variableStatement declarators
  refine Reads.bind_eq (a := [(pattern, true)]) (w := ⟨⟨.punct ";", 1, false⟩, after⟩) ?_ ?_
  · refine Reads.context_bind ?_
    rw [hlimit]
    refine Reads.repeat_last (Reads.bind_eq hdeclarator ?_)
    exact Reads.eatPunct_bind rfl (Reads.pure ⟨_, rfl, rfl⟩)
  refine Reads.bind_eq (a := ()) (Reads.context_bind (Reads.pure rfl)) ?_
  exact Reads.bind_eq (reads_statementEnd hend) (Reads.pure trivial)

/-- The keyword of variables, or the one of constants. -/
inductive Declares : String → VariableKind → Prop
  | var : Declares "var" .var
  | const : Declares "const" .const_

/-- The declaration of variables or constants. -/
lemma reads_declaration {word : String} {kind : VariableKind} (hword : Declares word kind)
    (hctx : ctx.typescript = false)
    (hname : Reads (takeKeyword : Parser text Unit) ctx ⟨⟨.word word false, length, broken⟩, rest⟩
      (· = ()) named)
    (hstatement : Reads (variableStatement run kind) ctx named (fun _ => True) w) :
    Reads (declaration run) ctx ⟨⟨.word word false, length, broken⟩, rest⟩
      (fun _ => True) w := by
  unfold declaration
  -- Other declarations are looked for first, by their keywords.
  refine Reads.context_bind (Reads.peek_bind (a := false) ?_ ?_)
  · cases hword <;> exact fun _ _ _ _ => rfl
  rw [if_neg Bool.false_ne_true]
  refine Reads.peek_bind (a := false) ?_ (Reads.peek_bind (a := false) (fun _ _ _ _ => rfl) ?_)
  · cases hword <;> exact fun _ _ _ _ => rfl
  refine Reads.atWord_bind (Reads.looksLike.bind fun _ _ => ?_)
  rw [hctx, if_neg (by simp)]
  refine Reads.atWord_bind (Reads.looksLike.bind fun _ _ => ?_)
  rw [if_neg (by simp)]
  refine Reads.peek_bind (a := true) ?_ ?_
  · cases hword <;> exact fun _ _ _ _ => rfl
  rw [if_pos rfl]
  have hvariables : Reads (takeKeyword >>= fun _ => variableStatement run kind) ctx
      ⟨⟨.word word false, length, broken⟩, rest⟩ (fun _ => True) w := Reads.bind_eq hname hstatement
  refine Reads.atWord_bind (Reads.atWord_bind ?_)
  cases hword <;> exact Reads.bind_eq (Reads.pure rfl) hvariables

/-- The statement that declares variables or constants. -/
lemma reads_declared {word : String} {kind : VariableKind} (hword : Declares word kind)
    (h : Reads (declaration (Runner.upTo text d)) ctx ⟨⟨.word word false, length, broken⟩, rest⟩
      (fun _ => True) w) :
    Reads (Runner.upTo text (d + 1) (.statement false)) ctx
      ⟨⟨.word word false, length, broken⟩, rest⟩ (· = .other) w := by
  show Reads (anyStatement (Runner.upTo text d) false) _ _ _ _
  unfold anyStatement
  refine Reads.kind_bind ?_
  show Reads (if word = "export" then _ else _) _ _ _ _
  rw [if_neg (by cases hword <;> decide)]
  refine Reads.looksLike.bind fun _ _ => ?_
  rw [if_neg (by cases hword <;> simp)]
  refine Reads.bind_eq (a := ()) ?_ (Reads.pure rfl)
  cases hword with
  | var =>
    simp only [keywordStatement]
    exact h.bind fun _ _ => Reads.pure trivial
  | const =>
    simp only [keywordStatement]
    refine Reads.bind_eq (a := ()) (Reads.pure rfl) ?_
    exact h.bind fun _ _ => Reads.pure trivial

end

end LiveBundle.Script
