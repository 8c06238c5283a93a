import LiveBundle.Proofs.Script.Tokens
import LiveBundle.Script.Cursor
import LiveBundle.Script.Program
import Mathlib.Data.List.Basic
import Mathlib.Tactic.Lemma

/-!
# Reading a known beginning

What a parser does depends on the token that it stands at and on the characters behind it. Where the
beginning of these characters is known, its run can be followed although the rest of the text is
not: `Reads` states one step of such a run. A list of statements is read round by round, at the top
level up to the end of the script and in a block up to its closing brace.

* `Reads.of_eval` takes a step by evaluation, when the parser looks at known characters only.
* `Reads.bind`, `Reads.within` and the lemmas on loops put steps together.
* `reads_advance` is the step over a token that has unknown characters.
* `reads_item` and `reads_end` are the rounds of the top level, `reads_inner` and `reads_close`
  those of a block.
* `Program.parse_of_reads` gives the script that was read from its first token on.
* `Program.parse_comment`: a script that is one comment has no statements.
-/

namespace LiveBundle.Script

open LiveBundle.Script.Parser

section

variable {text : List Char} {α β σ : Type}

/-! ## Steps -/

/-- Whether the token is the given word. -/
def TokenKind.isWord (w : String) : TokenKind → Bool
  | .word v _ => v == w
  | _ => false

/-- Whether the token is the given punctuator. -/
def TokenKind.isPunct (p : String) : TokenKind → Bool
  | .punct q => q == p
  | _ => false

/-- A token and the characters behind it: all that is known of a state on a run. -/
structure View where
  token : Token
  rest : List Char

/-- The state is at the token of the view, and nothing was noted so far. -/
structure State.Stands (s : State text) (v : View) : Prop where
  token : s.token = v.token
  rest : s.stop.rest = v.rest
  flawed : s.flawed = false
  defaults : s.defaults = []
  sites : s.sites = []

/-- Standing at `v`, the parser gives a value with `P` and then stands at `w`. -/
def Reads (p : Parser text α) (ctx : Context) (v : View) (P : α → Prop) (w : View) : Prop :=
  ∀ s : State text, s.Stands v → ∃ a s', p ctx s = some (a, s') ∧ P a ∧ s'.Stands w

namespace Reads

variable {p : Parser text α} {f : α → Parser text β} {ctx : Context} {v w u : View}
  {P : α → Prop} {Q : β → Prop}

/-- A step by evaluation: only the places are not known. -/
lemma of_eval {a : α} (h : ∀ (offset : Nat)
      (reached : ∃ before, text = before ++ v.rest ∧ Text.byteSize before = offset)
      (start previous : Place text),
    (p ctx ⟨v.token, start, ⟨offset, v.rest, reached⟩, previous, false, [], []⟩).map
        (fun r => (r.1, r.2.token, r.2.stop.rest, r.2.flawed, r.2.defaults, r.2.sites)) =
      some (a, w.token, w.rest, false, [], [])) : Reads p ctx v (· = a) w := by
  rintro ⟨token, start, ⟨offset, rest, reached⟩, previous, flawed, defaults, sites⟩
    ⟨rfl, rfl, rfl, rfl, rfl⟩
  obtain ⟨⟨b, s'⟩, hrun, hview⟩ := Option.map_eq_some_iff.mp (h offset reached start previous)
  simp only [Prod.mk.injEq] at hview
  obtain ⟨rfl, htoken, hrest, hflawed, hdefaults, hsites⟩ := hview
  exact ⟨b, s', hrun, rfl, htoken, hrest, hflawed, hdefaults, hsites⟩

lemma mono {Q : α → Prop} (h : Reads p ctx v P w) (hPQ : ∀ a, P a → Q a) : Reads p ctx v Q w := by
  intro s hs
  obtain ⟨a, s', hrun, ha, hs'⟩ := h s hs
  exact ⟨a, s', hrun, hPQ a ha, hs'⟩

lemma pure {a : α} (h : P a) : Reads (Pure.pure a : Parser text α) ctx v P v :=
  fun s hs => ⟨a, s, rfl, h, hs⟩

/-- One parser after the other. -/
lemma bind (hp : Reads p ctx v P w) (hf : ∀ a, P a → Reads (f a) ctx w Q u) :
    Reads (p >>= f) ctx v Q u := by
  intro s hs
  obtain ⟨a, s', hrun, ha, hs'⟩ := hp s hs
  obtain ⟨b, s'', hrun', hb, hs''⟩ := hf a ha s' hs'
  refine ⟨b, s'', ?_, hb, hs''⟩
  simp only [Bind.bind, hrun]
  exact hrun'

/-- One parser after another one whose value is known. -/
lemma bind_eq {a : α} (hp : Reads p ctx v (· = a) w) (hf : Reads (f a) ctx w Q u) :
    Reads (p >>= f) ctx v Q u :=
  hp.bind fun _ ha => ha ▸ hf

/-- A step by evaluation that takes nothing. -/
lemma peek_bind {a : α} (h : ∀ (offset : Nat)
      (reached : ∃ before, text = before ++ v.rest ∧ Text.byteSize before = offset)
      (start previous : Place text),
    (p ctx ⟨v.token, start, ⟨offset, v.rest, reached⟩, previous, false, [], []⟩).map
        (fun r => (r.1, r.2.token, r.2.stop.rest, r.2.flawed, r.2.defaults, r.2.sites)) =
      some (a, v.token, v.rest, false, [], [])) (hf : Reads (f a) ctx v Q u) :
    Reads (p >>= f) ctx v Q u :=
  bind_eq (of_eval h) hf

lemma within {change : Context → Context} (h : Reads p (change ctx) v P w) :
    Reads (Parser.within change p) ctx v P w := h

/-- The surroundings are known. -/
lemma context_bind {f : Context → Parser text β} (h : Reads (f ctx) ctx v Q u) :
    Reads (Parser.context >>= f) ctx v Q u := h

/-- The present token is known. -/
lemma kind_bind {f : TokenKind → Parser text β} (h : Reads (f v.token.kind) ctx v Q u) :
    Reads (Parser.kind >>= f) ctx v Q u := by
  intro s hs
  rw [← hs.token] at h
  exact h s hs

/-- The place of the present token is not known. -/
lemma here_bind {f : Place text → Parser text β} (h : ∀ place, Reads (f place) ctx v Q u) :
    Reads (Parser.here >>= f) ctx v Q u :=
  fun s hs => h s.start s hs

/-- Whether the present token is a given word. -/
lemma atWord_bind {w' : String} {f : Bool → Parser text β}
    (h : Reads (f (v.token.kind.isWord w')) ctx v Q u) :
    Reads (Parser.atWord w' >>= f) ctx v Q u := by
  refine bind_eq (kind_bind ?_) h
  cases v.token.kind <;> exact Reads.pure rfl

/-- Whether the present token is a given punctuator. -/
lemma atPunct_bind {p' : String} {f : Bool → Parser text β}
    (h : Reads (f (v.token.kind.isPunct p')) ctx v Q u) :
    Reads (Parser.atPunct p' >>= f) ctx v Q u := by
  refine bind_eq (kind_bind ?_) h
  cases v.token.kind <;> exact Reads.pure rfl

/-- A punctuator that is not there is not taken. -/
lemma eatPunct_bind {p' : String} {f : Bool → Parser text β}
    (hno : v.token.kind.isPunct p' = false) (h : Reads (f false) ctx v Q u) :
    Reads (Parser.eatPunct p' >>= f) ctx v Q u := by
  refine bind_eq (atPunct_bind ?_) h
  rw [hno]
  exact Reads.pure rfl

/-- A keyword without escapes that is there is taken. -/
lemma eatWord {w' : String} (hyes : v.token.kind = .word w' false)
    (h : Reads (Parser.advance : Parser text Unit) ctx v (· = ()) w) :
    Reads (Parser.eatWord w' : Parser text Bool) ctx v (· = true) w := by
  have htake : Reads (Parser.takeKeyword : Parser text Unit) ctx v (· = ()) w := by
    refine kind_bind ?_
    rw [hyes]
    exact bind_eq (Reads.pure rfl) h
  refine atWord_bind ?_
  rw [hyes, TokenKind.isWord, beq_self_eq_true, if_pos rfl]
  exact bind_eq htake (Reads.pure rfl)

lemma expectWord {w' : String} (hyes : v.token.kind = .word w' false)
    (h : Reads (Parser.advance : Parser text Unit) ctx v (· = ()) w) :
    Reads (Parser.expectWord w' : Parser text Unit) ctx v (· = ()) w :=
  bind_eq (eatWord hyes h) (Reads.pure rfl)

/-- Looking ahead takes nothing. What is seen does not matter here. -/
lemma looksLike {q : Parser text Bool} : Reads (Parser.looksLike q) ctx v (fun _ => True) v := by
  intro s hs
  unfold Parser.looksLike
  rcases q ctx s with _ | ⟨b, s'⟩
  · exact ⟨false, s, rfl, True.intro, hs⟩
  · exact ⟨b, s, rfl, True.intro, hs⟩

/-- A parser that reads is not given up. -/
lemma attempt (h : Reads p ctx v P w) :
    Reads (Parser.attempt p) ctx v (fun x => ∃ a, x = some a ∧ P a) w := by
  intro s hs
  obtain ⟨a, s', hrun, ha, hs'⟩ := h s hs
  refine ⟨some a, s', ?_, ⟨a, rfl, ha⟩, hs'⟩
  unfold Parser.attempt
  rw [hrun]

/-! ### Loops -/

variable {step : σ → Parser text (σ ⊕ α)} {n : Nat} {acc : σ}

/-- A round of a loop that goes on. -/
lemma repeat_next {R : σ → Prop}
    (h : Reads (step acc) ctx v (fun x => ∃ next, x = .inl next ∧ R next) w)
    (hnext : ∀ next, R next → Reads (repeatFor step n next) ctx w P u) :
    Reads (repeatFor step (n + 1) acc) ctx v P u := by
  refine h.bind fun x hx => ?_
  obtain ⟨next, rfl, hR⟩ := hx
  exact hnext next hR

/-- The last round of a loop. -/
lemma repeat_last (h : Reads (step acc) ctx v (fun x => ∃ a, x = .inr a ∧ P a) w) :
    Reads (repeatFor step (n + 1) acc) ctx v P w := by
  refine h.bind fun x hx => ?_
  obtain ⟨a, rfl, ha⟩ := hx
  exact Reads.pure ha

end Reads

/-! ## Known beginnings of runs -/

/-- From `v` on, the parser does what one with `Q` does from `w` on, whether that reads or fails. -/
def Leads (p : Parser text α) (ctx : Context) (v : View) (Q : Parser text α → Prop) (w : View) :
    Prop :=
  ∀ s : State text, s.Stands v → ∃ q s', Q q ∧ s'.Stands w ∧ p ctx s = q ctx s'

namespace Leads

variable {p : Parser text α} {f : β → Parser text α} {ctx : Context} {v w u : View}
  {Q : Parser text α → Prop}

lemma here (h : Q p) : Leads p ctx v Q v := fun s hs => ⟨p, s, h, hs, rfl⟩

lemma bind_eq {p : Parser text β} {b : β} (hp : Reads p ctx v (· = b) w)
    (hf : Leads (f b) ctx w Q u) : Leads (p >>= f) ctx v Q u := by
  intro s hs
  obtain ⟨_, s', hrun, rfl, hs'⟩ := hp s hs
  obtain ⟨q, s'', hq, hs'', hrest⟩ := hf s' hs'
  refine ⟨q, s'', hq, hs'', ?_⟩
  simp only [Bind.bind, hrun]
  exact hrest

/-- A step by evaluation that takes nothing. -/
lemma peek_bind {p : Parser text β} {b : β} (h : ∀ (offset : Nat)
      (reached : ∃ before, text = before ++ v.rest ∧ Text.byteSize before = offset)
      (start previous : Place text),
    (p ctx ⟨v.token, start, ⟨offset, v.rest, reached⟩, previous, false, [], []⟩).map
        (fun r => (r.1, r.2.token, r.2.stop.rest, r.2.flawed, r.2.defaults, r.2.sites)) =
      some (b, v.token, v.rest, false, [], [])) (hf : Leads (f b) ctx v Q u) :
    Leads (p >>= f) ctx v Q u :=
  bind_eq (Reads.of_eval h) hf

lemma kind_bind {f : TokenKind → Parser text α} (h : Leads (f v.token.kind) ctx v Q u) :
    Leads (Parser.kind >>= f) ctx v Q u := by
  intro s hs
  rw [← hs.token] at h
  exact h s hs

lemma here_bind {f : Place text → Parser text α} (h : ∀ place, Leads (f place) ctx v Q u) :
    Leads (Parser.here >>= f) ctx v Q u :=
  fun s hs => h s.start s hs

lemma reads {P : α → Prop} (h : Leads p ctx v Q w) (hq : ∀ q, Q q → Reads q ctx w P u) :
    Reads p ctx v P u := by
  intro s hs
  obtain ⟨q, s', hQ, hs', hrun⟩ := h s hs
  rw [hrun]
  exact hq q hQ s' hs'

end Leads

/-! ## Tokens with unknown characters -/

/-- The token at a place is the one behind the blanks in front. -/
lemma tokenAt_eq {place : Place text} {kind : TokenKind} {n length : Nat} {broken : Bool}
    (hblanks : Lexer.blanks .outside false 0 place.rest = some (n, broken))
    (htoken : Lexer.token (place.rest.drop n) = some (kind, length)) :
    tokenAt place = (⟨kind, length, broken⟩, place.skip n) := by
  have hskip : (place.skip n).rest = place.rest.drop n := rfl
  unfold tokenAt
  rw [hblanks]
  simp only [hskip, htoken]

/-- The next token is the one behind the blanks in front. -/
lemma reads_advance {ctx : Context} {token : Token} {rest after : List Char} {n length : Nat}
    {broken : Bool} {kind : TokenKind}
    (hblanks : Lexer.blanks .outside false 0 rest = some (n, broken))
    (htoken : Lexer.token (rest.drop n) = some (kind, length))
    (hafter : (rest.drop n).drop length = after) :
    Reads (advance : Parser text Unit) ctx ⟨token, rest⟩ (· = ())
      ⟨⟨kind, length, broken⟩, after⟩ := by
  subst hafter
  rintro s ⟨hs, rfl, hflawed, hdefaults, hsites⟩
  refine ⟨(), { s with
    token := ⟨kind, length, broken⟩
    start := s.stop.skip n
    stop := (s.stop.skip n).skip length
    previous := s.stop }, ?_, rfl, rfl, rfl, hflawed, hdefaults, hsites⟩
  unfold advance
  rw [tokenAt_eq hblanks htoken]

/-- Where no token can be read, there is one that no production takes. -/
lemma reads_advance_bad {ctx : Context} {token : Token} {rest : List Char} {n : Nat} {broken : Bool}
    (hblanks : Lexer.blanks .outside false 0 rest = some (n, broken))
    (htoken : Lexer.token (rest.drop n) = none) :
    Reads (advance : Parser text Unit) ctx ⟨token, rest⟩ (· = ())
      ⟨⟨.bad, 0, broken⟩, rest.drop n⟩ := by
  rintro s ⟨hs, rfl, hflawed, hdefaults, hsites⟩
  refine ⟨(), { s with
    token := ⟨.bad, 0, broken⟩
    start := s.stop.skip n
    stop := (s.stop.skip n).skip 0
    previous := s.stop }, ?_, rfl, rfl, rfl, hflawed, hdefaults, hsites⟩
  have hskip : (s.stop.skip n).rest = s.stop.rest.drop n := rfl
  unfold advance tokenAt
  simp only [hblanks, hskip, htoken]

end

variable {text : List Char} {run : Runner text} {ctx : Context} {v w u : View} {n : Nat}

/-! ## The top level -/

/-- A round of the top level. -/
def Program.round (run : Runner text) (items : List (Item text)) :
    Parser text (List (Item text) ⊕ List (Item text)) := do
  if ← atEnd then pure (.inr items.reverse)
  else
    let item ← run (.statement false)
    pure (.inl (item :: items))

lemma Program.statements_eq : statements run = iterate [] (round run) := rfl

/-- A statement of the top level. -/
lemma reads_item {items : List (Item text)} {P : Item text → Prop} {Q : List (Item text) → Prop}
    (hv : v.token.kind ≠ .eof) (h : Reads (run (.statement false)) ctx v P w)
    (hnext : ∀ item, P item → Reads (repeatFor (Program.round run) n (item :: items)) ctx w Q u) :
    Reads (repeatFor (Program.round run) (n + 1) items) ctx v Q u := by
  refine Reads.repeat_next (R := fun next => ∃ item, next = item :: items ∧ P item) (w := w) ?_ ?_
  · refine Reads.bind_eq (a := false) (w := v) (Reads.kind_bind (Reads.pure (by simpa using hv))) ?_
    exact h.bind fun item hitem => Reads.pure ⟨_, rfl, item, rfl, hitem⟩
  · rintro _ ⟨item, rfl, hitem⟩
    exact hnext item hitem

/-- The end of the script. -/
lemma reads_end {items : List (Item text)} (hv : v.token.kind = .eof) :
    Reads (repeatFor (Program.round run) (n + 1) items) ctx v (· = items.reverse) v := by
  refine Reads.repeat_last ?_
  refine Reads.bind_eq (a := true) (w := v) (Reads.kind_bind (Reads.pure (by simpa using hv))) ?_
  exact Reads.pure ⟨_, rfl, rfl⟩

/-! ## Blocks -/

/-- A round of a block. -/
def blockRound (run : Runner text) (_ : Unit) : Parser text (Unit ⊕ Unit) := do
  if ← eatPunct "\x7d" then pure (.inr ())
  else
    let _ ← run (.statement false)
    pure (.inl ())

lemma blockStatement_eq :
    blockStatement run = (do
      expectPunct "\x7b"
      iterate () (blockRound run)) := rfl

/-- A statement of a block. -/
lemma reads_inner {P : Item text → Prop} {Q : Unit → Prop}
    (hv : v.token.kind.isPunct "\x7d" = false) (h : Reads (run (.statement false)) ctx v P w)
    (hnext : Reads (repeatFor (blockRound run) n ()) ctx w Q u) :
    Reads (repeatFor (blockRound run) (n + 1) ()) ctx v Q u := by
  refine Reads.repeat_next (R := fun _ => True) (w := w) ?_ fun _ _ => hnext
  refine Reads.eatPunct_bind hv ?_
  exact h.bind fun _ _ => Reads.pure ⟨_, rfl, trivial⟩

/-- The end of a block. -/
lemma reads_close (hv : v.token.kind.isPunct "\x7d" = true)
    (h : Reads (advance : Parser text Unit) ctx v (· = ()) w) :
    Reads (repeatFor (blockRound run) (n + 1) ()) ctx v (· = ()) w := by
  refine Reads.repeat_last ?_
  refine Reads.bind_eq (a := true) (w := w) ?_ (Reads.pure ⟨_, rfl, rfl⟩)
  refine Reads.atPunct_bind ?_
  rw [hv]
  exact Reads.bind_eq h (Reads.pure rfl)

/-! ## Whole scripts -/

/-- Where reading a script starts. -/
lemma stands_initial {n length : Nat} {broken : Bool} {kind : TokenKind}
    (hbang : Lexer.hashbang text = 0)
    (hblanks : Lexer.blanks .outside false 0 text = some (n, broken))
    (htoken : Lexer.token (text.drop n) = some (kind, length)) :
    (Program.initial text).Stands ⟨⟨kind, length, broken⟩, (text.drop n).drop length⟩ := by
  have hrest : ((Place.first text).skip (Lexer.hashbang text)).rest = text := by
    rw [hbang]
    rfl
  have htokenAt : tokenAt ((Place.first text).skip (Lexer.hashbang text)) =
      (⟨kind, length, broken⟩, ((Place.first text).skip (Lexer.hashbang text)).skip n) := by
    rw [← hrest] at hblanks htoken
    exact tokenAt_eq hblanks htoken
  unfold Program.initial
  simp only [htokenAt]
  refine ⟨rfl, ?_, rfl, rfl, rfl⟩
  show (((Place.first text).skip (Lexer.hashbang text)).rest.drop n).drop length = _
  rw [hrest]

/-- Where reading a script starts whose first token is a word. -/
lemma stands_word {word : String} (h : Specifier.isIdentifier word = true) {rest : List Char}
    (htext : text = word.toList ++ ' ' :: rest) :
    (Program.initial text).Stands ⟨⟨.word word false, word.toList.length, false⟩, ' ' :: rest⟩ := by
  subst htext
  have hstands := stands_initial (Lexer.hashbang_identifier h _) (Lexer.blanks_front h 0 _)
    (Lexer.token_identifier h (d := ' ') (by decide) (by decide) rest)
  rwa [List.drop_zero, List.drop_left' rfl] at hstands

/-- A script whose statements are read to the end without anything noted is that list. -/
lemma Program.parse_of_reads {typescript : Bool} {v w : View} {P : List (Item text) → Prop}
    (hstart : (initial text).Stands v)
    (h : Reads (statements (Runner.upTo text (depthPerCharacter * (text.length + 2))))
      (topLevel typescript (text.length + 2)) v P w)
    (hdistinct : ∀ items, P items → distinct (items.flatMap Item.exportedNames) = true) :
    ∃ items, P items ∧ parse typescript text = some ⟨items, []⟩ := by
  obtain ⟨items, s, hrun, hitems, -, -, hflawed, hdefaults, hsites⟩ := h _ hstart
  refine ⟨items, hitems, ?_⟩
  unfold parse
  simp [hrun, hflawed, hdefaults, hsites, hdistinct items hitems]

/-- A script that is a comment has no statements. -/
lemma Program.parse_comment {body : List Char} (hbody : Text.occursIn ['*', '/'] body = false)
    (typescript : Bool) :
    Program.parse typescript ('/' :: '*' :: (body ++ [' ', '*', '/'])) = some ⟨[], []⟩ := by
  obtain ⟨broken, hblanks⟩ := Lexer.blanks_comment hbody
  -- Types depend on the text, so it is named before anything is rewritten.
  generalize htext : '/' :: '*' :: (body ++ [' ', '*', '/']) = text at hblanks ⊢
  have hdrop : text.drop (body.length + 5) = [] := by
    rw [← htext]
    simp
  have hbang : Lexer.hashbang text = 0 := by
    rw [← htext]
    rfl
  have htoken : Lexer.token (text.drop (body.length + 5)) = some (.eof, 0) := by
    rw [hdrop]
    rfl
  have hstart := stands_initial hbang hblanks htoken
  have hread (v : View) (hv : v.token.kind = .eof) :
      Reads (Program.statements (Runner.upTo text (Program.depthPerCharacter * (text.length + 2))))
        (Program.topLevel typescript (text.length + 2)) v (· = []) v :=
    Reads.context_bind (reads_end hv)
  obtain ⟨items, rfl, hparse⟩ := Program.parse_of_reads hstart (hread _ rfl) (by rintro _ rfl; rfl)
  exact hparse

end LiveBundle.Script
