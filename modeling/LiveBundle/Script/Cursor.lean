import LiveBundle.Script.Lexer
import LiveBundle.Script.Syntax

/-!
# Walking through a script

The grammar of scripts is read by parsers that move a cursor over the tokens of one text. The
cursor knows the place of the present token and the end of the one before; a place comes with the
proof that it lies between two characters, so a span made of places does too. A parser that fails
leaves nothing behind, hence a way of reading can be tried and given up.

* `Parser.attempt` tries a parser, `Parser.looksLike` only looks whether it would succeed.
* `Parser.flaw` notes an error that does not stop the reading; a script with a flaw is refused.
-/

namespace LiveBundle.Script

/-- A place in a text: its byte offset and the characters behind it. -/
structure Place (text : List Char) where
  offset : Nat
  rest : List Char
  reached : ∃ before, text = before ++ rest ∧ Text.byteSize before = offset

namespace Place

variable {text : List Char}

/-- A place never stands inside a character. -/
theorem boundary (p : Place text) : IsBoundary text p.offset :=
  let ⟨before, h, hn⟩ := p.reached
  ⟨before, p.rest, h, hn⟩

/-- The start of a text. -/
def first (text : List Char) : Place text := ⟨0, text, [], rfl, rfl⟩

/-- The place `n` characters further on. -/
def skip (p : Place text) (n : Nat) : Place text where
  offset := p.offset + Text.byteSize (p.rest.take n)
  rest := p.rest.drop n
  reached := by
    obtain ⟨before, h, hn⟩ := p.reached
    refine ⟨before ++ p.rest.take n, ?_, by rw [Text.byteSize_append, hn]⟩
    rw [List.append_assoc, List.take_append_drop, ← h]

/-- The span between two places; it is empty if they are in the wrong order. -/
def spanTo (a b : Place text) : Span text :=
  if h : a.offset ≤ b.offset then ⟨a.offset, b.offset, h, a.boundary, b.boundary⟩
  else ⟨a.offset, a.offset, Nat.le_refl _, a.boundary, a.boundary⟩

end Place

/-- What the grammar depends on around a construct. -/
structure Context where
  /-- Whether types are part of the language. -/
  typescript : Bool
  /-- Whether `in` is an operator here. -/
  inOperator : Bool
  /-- Whether `yield` starts an expression. -/
  yields : Bool
  /-- Whether `await` starts an expression. -/
  awaits : Bool
  /-- Whether `return` may stand here. -/
  returns : Bool
  /-- Whether brackets belong to what follows a decorator. -/
  decorating : Bool
  /-- Whether declarations describe what exists elsewhere. -/
  ambient : Bool
  /-- Whether a type may be followed by a condition. -/
  conditionals : Bool
  /-- A bound on the steps of any loop. -/
  limit : Nat

/-- The state of the walk through `text`. -/
structure State (text : List Char) where
  token : Token
  /-- Where the present token starts. -/
  start : Place text
  /-- Where the present token ends. -/
  stop : Place text
  /-- Where the token before ended. -/
  previous : Place text
  /-- Whether an error was found that did not stop the reading. -/
  flawed : Bool
  /-- Offsets of properties with a default value that are not yet part of a pattern. -/
  defaults : List Nat
  /-- The sites found so far, the latest first. -/
  sites : List (Site text)

/-- A parser over the tokens of `text`. -/
def Parser (text : List Char) (α : Type) : Type :=
  Context → State text → Option (α × State text)

namespace Parser

variable {text : List Char} {α β σ : Type}

instance : Monad (Parser text) where
  pure a := fun _ s => some (a, s)
  bind p f := fun ctx s =>
    match p ctx s with
    | none => none
    | some (a, s) => f a ctx s

/-- The script cannot be read on. -/
def fail : Parser text α := fun _ _ => none

/-- The surroundings. -/
def context : Parser text Context := fun ctx s => some (ctx, s)

/-- Reads with `p` in changed surroundings. -/
def within (change : Context → Context) (p : Parser text α) : Parser text α :=
  fun ctx s => p (change ctx) s

/-- The present state. -/
def state : Parser text (State text) := fun _ s => some (s, s)

/-- Notes an error that does not stop the reading. -/
def flaw : Parser text Unit := fun _ s => some ((), { s with flawed := true })

/-- Notes an error if the condition holds. -/
def flawIf (condition : Bool) : Parser text Unit :=
  if condition then flaw else pure ()

/-- Fails if the condition does not hold. -/
def ensure (condition : Bool) : Parser text Unit :=
  if condition then pure () else fail

/-- Reads with `p`, or nothing if `p` fails. -/
def attempt (p : Parser text α) : Parser text (Option α) := fun ctx s =>
  match p ctx s with
  | some (a, s') => some (some a, s')
  | none => some (none, s)

/-- Whether `p` would read `true`; nothing is taken. -/
def looksLike (p : Parser text Bool) : Parser text Bool := fun ctx s =>
  match p ctx s with
  | some (b, _) => some (b, s)
  | none => some (false, s)

/-- Repeats a step that changes a value, until the step gives a result. -/
def repeatFor (step : σ → Parser text (σ ⊕ α)) : Nat → σ → Parser text α
  | 0, _ => fail
  | n + 1, acc => do
    match ← step acc with
    | .inl acc => repeatFor step n acc
    | .inr result => pure result

/-- Repeats a step as often as the text may need. -/
def iterate (start : σ) (step : σ → Parser text (σ ⊕ α)) : Parser text α := do
  repeatFor step (← context).limit start

/-! ## Tokens -/

/-- The token behind the blanks at a place, and where it starts. -/
def tokenAt (p : Place text) : Token × Place text :=
  match Lexer.blanks .outside false 0 p.rest with
  | none => (⟨.bad, 0, false⟩, p)
  | some (n, broken) =>
    let start := p.skip n
    match Lexer.token start.rest with
    | some (kind, length) => (⟨kind, length, broken⟩, start)
    | none => (⟨.bad, 0, broken⟩, start)

/-- Goes to the next token. -/
def advance : Parser text Unit := fun _ s =>
  let (token, start) := tokenAt s.stop
  some ((), { s with token, start, stop := start.skip token.length, previous := s.stop })

/-- Takes another reading of the characters at the present token for the token. -/
def reread (scan : List Char → Option (TokenKind × Nat)) : Parser text Unit := fun _ s =>
  match scan s.start.rest with
  | some (kind, length) =>
    some ((), { s with
      token := { s.token with kind, length }
      stop := s.start.skip length })
  | none => none

/-- The kind of the present token. -/
def kind : Parser text TokenKind := fun _ s => some (s.token.kind, s)

/-- Whether a line break comes before the present token. -/
def afterLineBreak : Parser text Bool := fun _ s => some (s.token.lineBreakBefore, s)

/-- Where the present token starts. -/
def here : Parser text (Place text) := fun _ s => some (s.start, s)

/-- The span from a place to the end of the last token taken. -/
def spanFrom (start : Place text) : Parser text (Span text) := fun _ s =>
  some (start.spanTo s.previous, s)

/-- Whether the present token is the given punctuator. -/
def atPunct (p : String) : Parser text Bool := do
  match ← kind with
  | .punct q => pure (q == p)
  | _ => pure false

/-- Whether the present token is one of the given punctuators. -/
def atAnyPunct (ps : List String) : Parser text Bool := do
  match ← kind with
  | .punct q => pure (ps.contains q)
  | _ => pure false

/-- Whether the present token is the given word. -/
def atWord (w : String) : Parser text Bool := do
  match ← kind with
  | .word v _ => pure (v == w)
  | _ => pure false

/-- Whether the present token is one of the given words. -/
def atAnyWord (ws : List String) : Parser text Bool := do
  match ← kind with
  | .word v _ => pure (ws.contains v)
  | _ => pure false

/-- The present token, if it is a word. -/
def word? : Parser text (Option String) := do
  match ← kind with
  | .word v _ => pure (some v)
  | _ => pure none

/-- Whether the script ends here. -/
def atEnd : Parser text Bool := do pure ((← kind) == .eof)

/-- Takes a keyword; one with escapes is a flaw. -/
def takeKeyword : Parser text Unit := do
  match ← kind with
  | .word _ escaped => flawIf escaped
  | _ => pure ()
  advance

/-- Takes a punctuator if it is there. -/
def eatPunct (p : String) : Parser text Bool := do
  if ← atPunct p then
    advance
    pure true
  else pure false

/-- Takes a keyword if it is there. -/
def eatWord (w : String) : Parser text Bool := do
  if ← atWord w then
    takeKeyword
    pure true
  else pure false

/-- Takes a punctuator that must be there. -/
def expectPunct (p : String) : Parser text Unit := do
  ensure (← eatPunct p)

/-- Takes a keyword that must be there. -/
def expectWord (w : String) : Parser text Unit := do
  ensure (← eatWord w)

/-- Whether `p` reads `true` from the token behind the present one. -/
def nextLooksLike (p : Parser text Bool) : Parser text Bool := looksLike do
  advance
  p

/-- Reads a statement's end: a semicolon, or a place where one is implied. -/
def statementEnd : Parser text Unit := do
  if ← eatPunct ";" then pure ()
  else ensure ((← atPunct "\x7d") || (← atEnd) || (← afterLineBreak))

/-- Whether a statement may end here. -/
def canEndStatement : Parser text Bool := do
  pure ((← atAnyPunct [";", "\x7d"]) || (← atEnd) || (← afterLineBreak))

/-- Whether a word is a name, and not `await` or `yield` where these are keywords. -/
def isReference (ctx : Context) (w : String) : Bool :=
  !isReserved w && !(ctx.awaits && w == "await") && !(ctx.yields && w == "yield")

/-- Whether the present token is a word that can be bound. -/
def atBindable : Parser text Bool := do
  match ← word? with
  | some w => pure (!isReserved w)
  | none => pure false

/-- A name that is bound or declared. -/
def bindingName : Parser text String := do
  match ← word? with
  | none => fail
  | some w =>
    ensure (!isReserved w)
    let ctx ← context
    flawIf ((ctx.awaits && w == "await") || (ctx.yields && w == "yield"))
    advance
    pure w

/-- Any word, as the name of a property. -/
def anyName : Parser text String := do
  match ← word? with
  | none => fail
  | some w =>
    advance
    pure w

/-- Items up to a closing punctuator, which is not taken, with commas between them; tells whether
a comma stands before the end. -/
def commaList (close : String) (item : Parser text α) : Parser text (List α × Bool) :=
  iterate ([], false) fun (acc, comma) => do
    if ← atPunct close then pure (.inr (acc.reverse, comma))
    else
      let a ← item
      if ← eatPunct "," then pure (.inl (a :: acc, true))
      else do
        ensure (← atPunct close)
        pure (.inr ((a :: acc).reverse, false))

/-- Notes a site. -/
def found (site : Site text) : Parser text Unit := fun _ s =>
  some ((), { s with sites := site :: s.sites })

/-- Notes a property with a default value, which has to become part of a pattern. -/
def noteDefault (offset : Nat) : Parser text Unit := fun _ s =>
  some ((), { s with defaults := offset :: s.defaults })

/-- Forgets properties with default values that became part of a pattern. -/
def settleDefaults (offsets : List Nat) : Parser text Unit := fun _ s =>
  some ((), { s with defaults := s.defaults.filter fun n => !offsets.contains n })

end Parser

end LiveBundle.Script
