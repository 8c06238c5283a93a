import LiveBundle.Proofs.Script.Ranges
import LiveBundle.Script.Program

/-!
# String literals are read as such

The grammar tells a string literal from other expressions by the shape that is handed up through all
levels of precedence. An expression with that shape is nothing else than the literal: one token was
taken, and no site was found in it.

* `Parser.Keeps` is a parser that stays where it is, `Parser.Gives` one whose results have a
  property.
* `Follows left` is what stands behind an expression `left`: it leaves a string literal alone or
  makes something else of it.
* `IsLiteral` is the claim for a parser of expressions, `Runner.literal_upTo` that it holds for the
  goals of the grammar.
-/

namespace LiveBundle.Script

open LiveBundle.Script.Parser

variable {text : List Char} {α β σ : Type}

/-- Whether an expression is a string literal. -/
def Shape.isString : Shape → Bool
  | .string _ => true
  | _ => false

/-! ## Parsers that stay -/

/-- Nothing was taken and nothing found; the present token may be read in another way. -/
structure State.Still (s s' : State text) : Prop where
  start : s'.start = s.start
  start_le : s.start.offset ≤ s.stop.offset → s'.start.offset ≤ s'.stop.offset
  previous : s'.previous = s.previous
  sites : s'.sites = s.sites

/-- Every state stands still with itself. -/
lemma State.Still.refl (s : State text) : s.Still s := ⟨rfl, id, rfl, rfl⟩

/-- Two times standing still is standing still. -/
lemma State.Still.trans {s s₁ s₂ : State text} (h : s.Still s₁) (h' : s₁.Still s₂) : s.Still s₂ :=
  ⟨h'.start.trans h.start, h'.start_le ∘ h.start_le, h'.previous.trans h.previous,
    h'.sites.trans h.sites⟩

namespace Parser

/-- The parser stays where it is. -/
def Keeps (p : Parser text α) : Prop := ∀ ⦃ctx s a s'⦄, p ctx s = some (a, s') → s.Still s'

namespace Keeps

/-- What is given without reading keeps the state. -/
@[grind ←]
lemma pure (a : α) : (Pure.pure a : Parser text α).Keeps := by
  rintro ctx s b s' ⟨⟩
  exact .refl s

/-- Two steps that keep the state keep it together. -/
@[grind ←]
lemma bind {p : Parser text α} {f : α → Parser text β} (hp : p.Keeps) (hf : ∀ a, (f a).Keeps) :
    (p >>= f).Keeps := by
  intro ctx s b s' hrun
  obtain ⟨a, s₁, hrun₁, hrun₂⟩ := bind_eq_some.mp hrun
  exact (hp hrun₁).trans (hf a hrun₂)

/-- Trying what keeps the state keeps it, whether it succeeds or not. -/
@[grind ←]
lemma attempt {p : Parser text α} (hp : p.Keeps) : (Parser.attempt p).Keeps := by
  intro ctx s a s' hrun
  unfold Parser.attempt at hrun
  split at hrun
  · rename_i b s₁ hrun₁
    cases hrun
    exact hp hrun₁
  · cases hrun
    exact .refl s

/-- Looking ahead takes nothing. -/
@[grind ←]
lemma looksLike (p : Parser text Bool) : (Parser.looksLike p).Keeps := by
  intro ctx s a s' hrun
  unfold Parser.looksLike at hrun
  split at hrun <;> cases hrun <;> exact .refl s

@[grind ←]
lemma context : (Parser.context : Parser text Context).Keeps := by
  rintro ctx s b s' ⟨⟩
  exact .refl s

@[grind ←]
lemma kind : (Parser.kind : Parser text TokenKind).Keeps := by
  rintro ctx s b s' ⟨⟩
  exact .refl s

@[grind ←]
lemma afterLineBreak : (Parser.afterLineBreak : Parser text Bool).Keeps := by
  rintro ctx s b s' ⟨⟩
  exact .refl s

/-- Reading the present token in another way takes nothing. -/
@[grind ←]
lemma reread (scan : List Char → Option (TokenKind × Nat)) :
    (Parser.reread scan : Parser text Unit).Keeps := by
  intro ctx s a s' hrun
  unfold Parser.reread at hrun
  split at hrun <;> cases hrun
  exact ⟨rfl, fun _ => Place.le_skip _ _, rfl, rfl⟩

@[grind ←]
lemma nextLooksLike (p : Parser text Bool) : (Parser.nextLooksLike p).Keeps := looksLike _

@[grind ←]
lemma atPunct (p : String) : (Parser.atPunct p : Parser text Bool).Keeps := by
  unfold Parser.atPunct
  grind

@[grind ←]
lemma atAnyPunct (ps : List String) : (Parser.atAnyPunct ps : Parser text Bool).Keeps := by
  unfold Parser.atAnyPunct
  grind

@[grind ←]
lemma atWord (w : String) : (Parser.atWord w : Parser text Bool).Keeps := by
  unfold Parser.atWord
  grind

@[grind ←]
lemma atAnyWord (ws : List String) : (Parser.atAnyWord ws : Parser text Bool).Keeps := by
  unfold Parser.atAnyWord
  grind

@[grind ←]
lemma word? : (Parser.word? : Parser text (Option String)).Keeps := by
  unfold Parser.word?
  grind

/-- Putting an operator together takes nothing. -/
@[grind ←]
lemma operator? : (Script.operator? : Parser text (Option String)).Keeps := by
  unfold Script.operator? joinAngles
  grind

@[grind ←]
lemma joiningOperator? : (Script.joiningOperator? : Parser text (Option (String × Nat))).Keeps := by
  unfold Script.joiningOperator?
  grind

@[grind ←]
lemma isOperatorWord (word : String) (known : Bool) :
    (Script.isOperatorWord word known : Parser text Bool).Keeps := by
  unfold Script.isOperatorWord
  grind

/-- Whether an arrow function starts is told by looking ahead. -/
@[grind ←]
lemma arrowVerdict : (Script.arrowVerdict : Parser text Verdict).Keeps := by
  unfold Script.arrowVerdict
  grind

@[grind ←]
lemma startsBareAsyncArrow : (Script.startsBareAsyncArrow : Parser text Bool).Keeps := by
  unfold Script.startsBareAsyncArrow
  grind

end Keeps

/-- A punctuator that is not eaten was not there. -/
lemma eatPunct_false {p : String} {ctx : Context} {s s' : State text}
    (h : eatPunct p ctx s = some (false, s')) : s.Still s' := by
  obtain ⟨there, s₁, hat, hrest⟩ := bind_eq_some.mp h
  cases there with
  | true =>
    obtain ⟨_, s₂, -, hpure⟩ := bind_eq_some.mp hrest
    cases hpure
  | false =>
    cases hrest
    exact Keeps.atPunct p hat

/-! ## Properties of results -/

/-- All results have a property. -/
def Gives (P : α → Prop) (p : Parser text α) : Prop := ∀ ⦃ctx s a s'⦄, p ctx s = some (a, s') → P a

namespace Gives

variable {P : α → Prop}

/-- The property holds of what is given. -/
@[grind ←]
lemma pure {a : α} (h : P a) : (Pure.pure a : Parser text α).Gives P := by
  rintro ctx s b s' ⟨⟩
  exact h

/-- It is enough that the last step has results with the property. -/
@[grind ←]
lemma bind {p : Parser text β} {f : β → Parser text α} (hf : ∀ b, (f b).Gives P) :
    (p >>= f).Gives P := by
  intro ctx s b s' hrun
  obtain ⟨a, s₁, -, hrun₂⟩ := bind_eq_some.mp hrun
  exact hf a hrun₂

/-- What is known of the first result may be used. -/
lemma bind_of {Q : β → Prop} {p : Parser text β} {f : β → Parser text α} (hp : p.Gives Q)
    (hf : ∀ b, Q b → (f b).Gives P) : (p >>= f).Gives P := by
  intro ctx s b s' hrun
  obtain ⟨a, s₁, hrun₁, hrun₂⟩ := bind_eq_some.mp hrun
  exact hf a (hp hrun₁) hrun₂

/-- Nothing is read, so anything holds of it. -/
@[grind ←]
lemma fail : (Parser.fail : Parser text α).Gives P := fun _ _ _ _ hrun => nomatch hrun

/-- A loop, with what is known of its value between the rounds. -/
lemma iterate_of {I : σ → Prop} {start : σ} {step : σ → Parser text (σ ⊕ α)} (hstart : I start)
    (hstep : ∀ acc, I acc → (step acc).Gives (Sum.elim I P)) :
    (Parser.iterate start step).Gives P := by
  refine .bind fun ctx => ?_
  generalize ctx.limit = n
  induction n generalizing start with
  | zero => exact fail
  | succ n ih =>
    refine .bind_of (hstep start hstart) fun result hresult => ?_
    cases result with
    | inl acc => exact ih hresult
    | inr a => exact .pure hresult

/-- The last round of a loop gives its result. -/
lemma iterate {start : σ} {step : σ → Parser text (σ ⊕ α)}
    (hstep : ∀ acc, (step acc).Gives fun r => ∀ a, r = .inr a → P a) :
    (Parser.iterate start step).Gives P := by
  refine iterate_of (I := fun _ => True) trivial fun acc _ ctx s r s' hrun => ?_
  cases r with
  | inl acc => trivial
  | inr a => exact hstep acc hrun a rfl

end Gives

end Parser

/-! ## Expressions that are no literals -/

/-- The expressions are no string literals. -/
def Other (p : Parser text Shape) : Prop := p.Gives fun shape => shape.isString = false

namespace Other

@[grind ←]
lemma pure {shape : Shape} (h : shape.isString = false) :
    Other (Pure.pure shape : Parser text Shape) := Gives.pure h

@[grind ←]
lemma bind {p : Parser text α} {f : α → Parser text Shape} (hf : ∀ a, Other (f a)) :
    Other (p >>= f) := Gives.bind hf

@[grind ←]
lemma fail : Other (Parser.fail : Parser text Shape) := Gives.fail

/-- A loop whose last round gives no string literal. -/
lemma iterate {start : σ} {step : σ → Parser text (σ ⊕ Shape)}
    (hstep : ∀ acc, (step acc).Gives fun r => ∀ shape, r = .inr shape → shape.isString = false) :
    Other (Parser.iterate start step) := Gives.iterate hstep

end Other

section

variable (run : Runner text)

/-- Brackets make an array. -/
@[grind ←]
lemma arrayLiteral_other : Other (arrayLiteral run) := by
  refine .bind fun _ => .iterate fun acc => .bind fun closed => ?_
  split
  · exact .pure (by rintro _ ⟨⟩; rfl)
  · refine .bind fun hole => ?_
    split
    · exact .pure (by rintro _ ⟨⟩)
    · refine .bind fun element => .bind fun last => ?_
      split
      · exact .bind fun _ => .pure (by rintro _ ⟨⟩)
      · exact .pure (by rintro _ ⟨⟩)

/-- Braces make an object. -/
@[grind ←]
lemma objectLiteral_other : Other (objectLiteral run) := by
  refine .bind fun _ => .iterate fun acc => .bind fun closed => ?_
  split
  · exact .pure (by rintro _ ⟨⟩; rfl)
  · refine .bind fun property => .bind fun last => ?_
    split
    · exact .bind fun _ => .pure (by rintro _ ⟨⟩)
    · exact .pure (by rintro _ ⟨⟩)

/-- An expression in parentheses is no literal itself. -/
@[grind ←]
lemma parenthesized_other : Other (parenthesized run) := by
  unfold parenthesized
  grind [Shape.isString]

/-- A call of `import` is no string literal, though its argument may be one. -/
@[grind ←]
lemma importCall_other (start : Place text) : Other (importCall run start) := by
  unfold importCall
  repeat' first | with_reducible refine .bind fun _ => ?_ | split
  all_goals exact .pure rfl

/-- What starts with `import` is a call or `import.meta`. -/
@[grind ←]
lemma importExpression_other : Other (importExpression run) := by
  unfold importExpression
  repeat' first | exact importCall_other run _ | refine .bind fun _ => ?_ | split
  all_goals exact .pure rfl

/-- What starts with `super` is no literal. -/
@[grind ←]
lemma superExpression_other : Other (superExpression : Parser text Shape) := by
  unfold superExpression
  grind [Shape.isString]

@[grind ←]
lemma classExpression_other : Other (classExpression run) := by
  unfold classExpression
  grind [Shape.isString]

/-- A construction is no literal. -/
@[grind ←]
lemma construction_other (n : Nat) : Other (construction run n) := by
  cases n with
  | zero => exact .fail
  | succ n =>
    unfold construction
    repeat' first | with_reducible refine .bind fun _ => ?_ | split
    all_goals exact .pure rfl

@[grind ←]
lemma yieldExpression_other : Other (yieldExpression run) := by
  unfold yieldExpression
  refine .bind fun _ => .bind fun _ => .bind fun _ => .bind fun _ => ?_
  grind [Shape.isString]

/-- A function is no literal. -/
@[grind ←]
lemma arrowFunction_other (arrowTypes : Bool) : Other (arrowFunction run arrowTypes) := by
  unfold arrowFunction
  grind [Shape.isString]

@[grind ←]
lemma bareArrowFunction_other (async arrowTypes : Bool) :
    Other (bareArrowFunction run async arrowTypes) := by
  unfold bareArrowFunction
  grind [Shape.isString]

/-- Joined operands are no literal. -/
@[grind ←]
lemma joined_other (op : String) (level : Nat) (left : Shape) :
    Other (joined run op level left) := by
  unfold joined
  grind [Shape.isString]

end

/-! ## Behind an expression -/

/-- What stands behind the expression `left`: where a string literal comes out, `left` was one and
nothing was taken. -/
def Follows (left : Shape) (p : Parser text Shape) : Prop :=
  ∀ ⦃ctx s shape s'⦄, p ctx s = some (shape, s') → shape.isString = true →
    left.isString = true ∧ s.Still s'

namespace Follows

variable {left : Shape}

/-- Where nothing follows, the expression is what it was. -/
lemma pure (left : Shape) : Follows left (Pure.pure left : Parser text Shape) := by
  rintro ctx s shape s' ⟨⟩ hstring
  exact ⟨hstring, .refl s⟩

/-- Whatever comes out is no string literal. -/
lemma of_other {p : Parser text Shape} (hp : Other p) : Follows left p := by
  intro ctx s shape s' hrun hstring
  rw [hp hrun] at hstring
  cases hstring

/-- What keeps the state may come in between. -/
lemma bind {p : Parser text α} {f : α → Parser text Shape} (hp : p.Keeps)
    (hf : ∀ a, Follows left (f a)) : Follows left (p >>= f) := by
  intro ctx s shape s' hrun hstring
  obtain ⟨a, s₁, hrun₁, hrun₂⟩ := bind_eq_some.mp hrun
  obtain ⟨hleft, hstill⟩ := hf a hrun₂ hstring
  exact ⟨hleft, (hp hrun₁).trans hstill⟩

/-- A punctuator that makes something else of the expression. -/
lemma eat {punctuator : String} {p q : Parser text Shape} (hp : Other p) (hq : Follows left q) :
    Follows left (do if ← eatPunct punctuator then p else q) := by
  intro ctx s shape s' hrun hstring
  obtain ⟨eaten, s₁, hrun₁, hrun₂⟩ := bind_eq_some.mp hrun
  split at hrun₂
  · rw [hp hrun₂] at hstring
    cases hstring
  · rename_i heaten
    rw [Bool.not_eq_true] at heaten
    subst heaten
    obtain ⟨hleft, hstill⟩ := hq hrun₂ hstring
    exact ⟨hleft, (eatPunct_false hrun₁).trans hstill⟩

end Follows

/-- An expression that comes out as a string literal is one token, and no site is in it. -/
def IsLiteral (p : Parser text Shape) : Prop :=
  ∀ ⦃ctx s shape s'⦄, s.start.offset ≤ s.stop.offset → p ctx s = some (shape, s') →
    shape.isString = true → s.start.offset ≤ s'.previous.offset ∧ s'.sites = s.sites

namespace IsLiteral

@[grind ←]
lemma of_other {p : Parser text Shape} (hp : Other p) : IsLiteral p := by
  intro ctx s shape s' hs hrun hstring
  rw [hp hrun] at hstring
  cases hstring

/-- Looking ahead does not matter. -/
@[grind ←]
lemma bind {p : Parser text α} {f : α → Parser text Shape} (hp : p.Keeps)
    (hf : ∀ a, IsLiteral (f a)) : IsLiteral (p >>= f) := by
  intro ctx s shape s' hs hrun hstring
  obtain ⟨a, s₁, hrun₁, hrun₂⟩ := bind_eq_some.mp hrun
  have hstill := hp hrun₁
  obtain ⟨hle, hsites⟩ := hf a (hstill.start_le hs) hrun₂ hstring
  rw [hstill.start] at hle
  exact ⟨hle, hsites.trans hstill.sites⟩

/-- Other surroundings change nothing about it. -/
lemma within {change : Context → Context} {p : Parser text Shape} (hp : IsLiteral p) :
    IsLiteral (Parser.within change p) := fun _ _ _ _ hs hrun => hp hs hrun

/-- On both ways a literal is one token. -/
lemma ite {c : Prop} [Decidable c] {p q : Parser text Shape} (hp : IsLiteral p)
    (hq : IsLiteral q) : IsLiteral (if c then p else q) := by
  split
  · exact hp
  · exact hq

/-- What is tried is no literal, and what is given up leaves nothing behind. -/
lemma attempt {p q : Parser text Shape} (hp : Other p) (hq : IsLiteral q) :
    IsLiteral (do
      match ← Parser.attempt p with
      | some shape => pure shape
      | none => q) := by
  intro ctx s shape s' hs hrun hstring
  obtain ⟨r, s₁, hrun₁, hrun₂⟩ := bind_eq_some.mp hrun
  unfold Parser.attempt at hrun₁
  split at hrun₁
  · rename_i tried s₂ htried
    cases hrun₁
    cases hrun₂
    rw [hp htried] at hstring
    cases hstring
  · cases hrun₁
    exact hq hs hrun₂ hstring

/-- An expression with something behind it. -/
lemma follows {p : Parser text Shape} {f : Shape → Parser text Shape} (hp : IsLiteral p)
    (hf : ∀ left, Follows left (f left)) : IsLiteral (p >>= f) := by
  intro ctx s shape s' hs hrun hstring
  obtain ⟨left, s₁, hrun₁, hrun₂⟩ := bind_eq_some.mp hrun
  obtain ⟨hleft, hstill⟩ := hf left hrun₂ hstring
  obtain ⟨hle, hsites⟩ := hp hs hrun₁ hleft
  rw [← hstill.previous] at hle
  exact ⟨hle, hstill.sites.trans hsites⟩

end IsLiteral

/-! ## The levels of precedence -/

/-- Readers of goals for which the claim holds, at the levels where it is needed. -/
structure Runner.Literal (run : Runner text) : Prop where
  unary : IsLiteral (run .unary)
  binary level : IsLiteral (run (.binary level))
  assignment arrowTypes : IsLiteral (run (.assignment arrowTypes))

section

variable {run : Runner text}

/-- A token that is taken for an expression. -/
lemma advance_isLiteral (shape : Shape) :
    IsLiteral (do advance; pure shape : Parser text Shape) := by
  rintro ctx s _ s' hs ⟨⟩ -
  exact ⟨hs, rfl⟩

/-- Of the primary expressions, only a string token is a string literal. -/
@[grind ←]
lemma primary_isLiteral {construction : Parser text Shape} (h : Other construction) :
    IsLiteral (primary run construction) := by
  refine .bind .kind fun kind => ?_
  split
  · exact advance_isLiteral _
  all_goals exact .of_other (by grind [Shape.isString])

end

/-! ### Accesses and calls -/

/-- Where nothing comes out, nothing was taken. -/
def StaysOnNone (p : Parser text (Option α)) : Prop :=
  ∀ ⦃ctx s s'⦄, p ctx s = some (none, s') → s.Still s'

namespace StaysOnNone

/-- Where nothing is found, nothing was taken. -/
lemma none : StaysOnNone (pure Option.none : Parser text (Option α)) := by
  rintro ctx s _ ⟨⟩
  exact .refl s

/-- Something always comes out. -/
lemma of_gives {p : Parser text (Option α)} (h : p.Gives fun r => r.isSome = true) :
    StaysOnNone p := fun _ _ _ hrun => nomatch h hrun

lemma bind {p : Parser text β} {f : β → Parser text (Option α)} (hp : p.Keeps)
    (hf : ∀ b, StaysOnNone (f b)) : StaysOnNone (p >>= f) := by
  intro ctx s s' hrun
  obtain ⟨b, s₁, hrun₁, hrun₂⟩ := bind_eq_some.mp hrun
  exact (hp hrun₁).trans (hf b hrun₂)

/-- What is tried and given up leaves nothing behind. -/
lemma attempt {p : Parser text β} {f : Option β → Parser text (Option α)}
    (hsome : ∀ b, (f (some b)).Gives fun r => r.isSome = true)
    (hnone : StaysOnNone (f Option.none)) :
    StaysOnNone (Parser.attempt p >>= f) := by
  intro ctx s s' hrun
  obtain ⟨r, s₁, hrun₁, hrun₂⟩ := bind_eq_some.mp hrun
  cases r with
  | some b => exact nomatch hsome b hrun₂
  | none =>
    unfold Parser.attempt at hrun₁
    split at hrun₁ <;> cases hrun₁
    exact hnone hrun₂

/-- A punctuator behind which something always comes out. -/
lemma eat {punctuator : String} {p q : Parser text (Option α)}
    (hp : p.Gives fun r => r.isSome = true) (hq : StaysOnNone q) :
    StaysOnNone (do if ← eatPunct punctuator then p else q) := by
  intro ctx s s' hrun
  obtain ⟨eaten, s₁, hrun₁, hrun₂⟩ := bind_eq_some.mp hrun
  cases eaten with
  | true => exact nomatch hp hrun₂
  | false => exact (eatPunct_false hrun₁).trans (hq hrun₂)

end StaysOnNone

section

variable (run : Runner text)

/-- An access makes something else of a value. -/
lemma access?_gives (chain : Chain) :
    (access? run chain).Gives fun r => ∀ c, r = some c → c.shape.isString = false := by
  unfold access?
  repeat' first | with_reducible refine .bind fun _ => ?_ | split
  all_goals exact .pure (by grind [Shape.isString])

/-- Where no access follows, nothing is taken. -/
lemma access?_stays (chain : Chain) : StaysOnNone (access? run chain) := by
  unfold access?
  refine .bind .context fun ctx => .bind .kind fun kind => ?_
  split
  · exact .of_gives (.bind fun _ => .bind fun _ => .pure rfl)
  · refine .bind (.nextLooksLike _) fun property => ?_
    split
    · refine .of_gives (.bind fun _ => .bind fun bracket => ?_)
      split <;> exact .bind fun _ => .pure rfl
    · exact .none
  · split
    · exact .none
    · exact .of_gives (.bind fun _ => .pure rfl)
  · exact .of_gives (.bind fun _ => .bind fun _ => .pure rfl)
  · refine .bind .afterLineBreak fun broken => ?_
    split
    · exact .of_gives (.bind fun _ => .pure rfl)
    · exact .none
  · split
    · exact .attempt (fun _ => .pure rfl) .none
    · exact .none
  · exact .none

/-- A call makes something else of a value. -/
lemma call?_gives (chain : Chain) :
    (call? run chain).Gives fun r => ∀ c, r = some c → c.shape.isString = false := by
  unfold call?
  repeat' first | with_reducible refine .bind fun _ => ?_ | split
  all_goals exact .pure (by grind [Shape.isString])

/-- Where no call follows, nothing is taken. -/
lemma call?_stays (chain : Chain) : StaysOnNone (call? run chain) := by
  refine .eat ?_ (.bind (.atPunct _) fun paren => ?_)
  · repeat' first | with_reducible refine .bind fun _ => ?_ | split
    all_goals exact .pure rfl
  · split
    · exact .of_gives (.bind fun _ => .pure rfl)
    · exact .none

/-- A loop that makes something else of an expression in each round but the last one, in which
nothing is taken. -/
lemma Parser.iterate_follows (shapeIn : σ → Shape) (shapeOut : α → Shape)
    {step : σ → Parser text (σ ⊕ α)}
    (hnext : ∀ acc, (step acc).Gives fun r => ∀ acc', r = .inl acc' →
      (shapeIn acc').isString = false)
    (hlast : ∀ ⦃acc ctx s a s'⦄, step acc ctx s = some (.inr a, s') →
      (shapeOut a).isString = true → (shapeIn acc).isString = true ∧ s.Still s')
    {start : σ} {ctx : Context} {s s' : State text} {a : α}
    (hrun : iterate start step ctx s = some (a, s')) (hstring : (shapeOut a).isString = true) :
    (shapeIn start).isString = true ∧ s.Still s' := by
  obtain ⟨_, _, ⟨⟩, hloop⟩ := bind_eq_some.mp hrun
  clear hrun
  generalize ctx.limit = n at hloop
  induction n generalizing start s with
  | zero => cases hloop
  | succ n ih =>
    obtain ⟨result, s₁, hrun₁, hrun₂⟩ := bind_eq_some.mp hloop
    cases result with
    | inl acc =>
      -- The expression of the next round is no string literal, so none comes out.
      have hacc := (ih hrun₂).1
      rw [hnext _ hrun₁ acc rfl] at hacc
      cases hacc
    | inr b =>
      cases hrun₂
      exact hlast hrun₁ hstring

/-- A chain that is a string literal has no access and no call. -/
lemma accesses_follows {chain c : Chain} {ctx : Context} {s s' : State text}
    (hrun : accesses run chain ctx s = some (c, s')) (hstring : c.shape.isString = true) :
    chain.shape.isString = true ∧ s.Still s' := by
  refine iterate_follows Chain.shape Chain.shape (fun chain => ?_) ?_ hrun hstring
  · refine .bind_of (access?_gives run chain) fun r hr => ?_
    cases r with
    | some c => exact .pure (by rintro _ ⟨⟩; exact hr c rfl)
    | none => exact .pure (by rintro _ ⟨⟩)
  · intro chain ctx s c s' hstep hc
    obtain ⟨r, s₁, hrun₁, hrun₂⟩ := bind_eq_some.mp hstep
    cases r with
    | some c => cases hrun₂
    | none =>
      cases hrun₂
      exact ⟨hc, access?_stays run chain hrun₁⟩

/-- A value with accesses and calls behind it. -/
lemma leftHandSide_isLiteral : IsLiteral (leftHandSide run) := by
  refine .bind .context fun ctx => .follows (primary_isLiteral (construction_other run _)) ?_
  intro value ctx s shape s' hrun hstring
  obtain ⟨chain, s₁, hloop, hpure⟩ := bind_eq_some.mp hrun
  cases hpure
  refine iterate_follows Chain.shape Chain.shape (fun chain => ?_) ?_ hloop hstring
  · refine .bind fun chain => .bind_of (call?_gives run chain) fun r hr => ?_
    cases r with
    | some c => exact .pure (by rintro _ ⟨⟩; exact hr c rfl)
    | none => exact .pure (by rintro _ ⟨⟩)
  · intro chain ctx s c s' hstep hc
    obtain ⟨accessed, s₁, hrun₁, hrest⟩ := bind_eq_some.mp hstep
    obtain ⟨r, s₂, hrun₂, hrun₃⟩ := bind_eq_some.mp hrest
    have hcall := call?_stays run accessed
    cases r with
    | some c => cases hrun₃
    | none =>
      cases hrun₃
      obtain ⟨hchain, hstill⟩ := accesses_follows run hrun₁ hc
      exact ⟨hchain, hstill.trans (hcall hrun₂)⟩

/-! ### Operators -/

variable {run}

/-- An operand with an operator is no literal. -/
lemma unaryExpression_isLiteral : IsLiteral (unaryExpression run) := by
  unfold unaryExpression
  refine .bind .context fun ctx => .bind (.atAnyPunct _) fun sign =>
    .bind (.atAnyWord _) fun _ => ?_
  split
  · exact .of_other (by grind [Shape.isString])
  · refine .bind (.isOperatorWord _ _) fun await => ?_
    split
    · exact .of_other (by grind [Shape.isString])
    · refine .bind (.atAnyPunct _) fun update => ?_
      split
      · exact .of_other (by grind [Shape.isString])
      · refine .bind (.atPunct _) fun cast => ?_
        split
        · exact .of_other (by grind [Shape.isString])
        · refine .follows (leftHandSide_isLiteral run) fun operand => ?_
          refine .bind (.atAnyPunct _) fun update => .bind .afterLineBreak fun broken => ?_
          split
          · exact .of_other (by grind [Shape.isString])
          · exact .pure operand

variable (hrun : run.Literal)
include hrun

/-- The first operand is a literal only as a unary expression. -/
lemma firstOperand_isLiteral (level : Nat) : IsLiteral (firstOperand run level) := by
  unfold firstOperand
  refine .bind .kind fun kind => ?_
  exact .ite (.of_other (by grind [Shape.isString])) hrun.unary

/-- Joined operands are a literal only where there is one operand. -/
lemma binaryExpression_isLiteral (level : Nat) : IsLiteral (binaryExpression run level) := by
  refine .follows (firstOperand_isLiteral hrun level) fun first => ?_
  intro ctx s shape s' hloop hstring
  refine iterate_follows id id (fun left => ?_) ?_ hloop hstring
  · refine .bind fun op => ?_
    split
    · split
      · exact .bind_of (joined_other run _ _ _) fun shape h => .pure (by rintro _ ⟨⟩; exact h)
      · exact .pure (by rintro _ ⟨⟩)
    · exact .pure (by rintro _ ⟨⟩)
  · intro left ctx s shape s' hstep hshape
    obtain ⟨op, s₁, hop, hrest⟩ := bind_eq_some.mp hstep
    have hstill := Keeps.joiningOperator? hop
    split at hrest
    · split at hrest
      · obtain ⟨_, s₂, -, hpure⟩ := bind_eq_some.mp hrest
        cases hpure
      · cases hrest
        exact ⟨hshape, hstill⟩
    · cases hrest
      exact ⟨hshape, hstill⟩

omit hrun in
/-- A question mark makes something else of the literal. -/
lemma conditionalRest_follows (arrowTypes : Bool) (left : Shape) :
    Follows left (conditionalRest run arrowTypes left) :=
  .eat (by grind [Shape.isString]) (.pure left)

omit hrun in
/-- So does an operator that assigns. -/
lemma rest_follows (arrowTypes : Bool) (op : Option String) (left : Shape) :
    Follows left (plainAssignment.rest run arrowTypes op left) := by
  unfold plainAssignment.rest
  split
  · refine .bind .word? fun word => ?_
    split
    · exact .of_other (by grind [Shape.isString])
    · exact conditionalRest_follows _ _
  · exact conditionalRest_follows _ _

/-- An assignment is a literal only where nothing is assigned. -/
lemma plainAssignment_isLiteral (arrowTypes : Bool) :
    IsLiteral (plainAssignment run arrowTypes) := by
  refine .follows (hrun.binary 0) fun left => .bind .operator? fun op => ?_
  cases left with
  | name text =>
    refine .bind (.atPunct _) fun arrow => ?_
    split
    · exact .of_other (bareArrowFunction_other run _ _)
    · exact rest_follows _ _ _
  | _ => exact rest_follows _ _ _

/-- A bare parameter with an arrow behind it is no literal. -/
lemma otherAssignment_isLiteral (arrowTypes : Bool) :
    IsLiteral (assignmentExpression.other run arrowTypes) := by
  refine .bind .startsBareAsyncArrow fun bare => ?_
  split
  · exact .of_other (by grind)
  · exact plainAssignment_isLiteral hrun _

/-- Each form of an assignment expression but the plain one is no literal. -/
lemma assignmentExpression_isLiteral (arrowTypes : Bool) :
    IsLiteral (assignmentExpression run arrowTypes) := by
  unfold assignmentExpression
  refine .bind .context fun ctx => .bind (.isOperatorWord _ _) fun isYield => ?_
  split
  · exact .of_other (yieldExpression_other run)
  · refine .bind .arrowVerdict fun verdict => ?_
    split
    · exact .of_other (arrowFunction_other run _)
    · exact .attempt (arrowFunction_other run _) (otherAssignment_isLiteral hrun _)
    · exact otherAssignment_isLiteral hrun _

/-- What holds at one depth of nesting holds at the next one. -/
lemma Runner.Literal.step : (Runner.step run).Literal where
  unary := unaryExpression_isLiteral
  binary := binaryExpression_isLiteral hrun
  assignment := assignmentExpression_isLiteral hrun

end

/-- Expressions that nest at any depth are literals only where they are single tokens. -/
lemma Runner.literal_upTo (text : List Char) (depth : Nat) : (Runner.upTo text depth).Literal := by
  induction depth with
  | zero => exact ⟨.of_other .fail, fun _ => .of_other .fail, fun _ => .of_other .fail⟩
  | succ depth ih => exact ih.step

end LiveBundle.Script
