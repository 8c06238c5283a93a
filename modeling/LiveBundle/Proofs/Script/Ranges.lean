import LiveBundle.Bundle.ModuleSyntax
import Mathlib.Data.List.Pairwise
import Mathlib.Tactic.Lemma
import Mathlib.Tactic.SplitIfs

/-!
# Ranges of what is read

Edits come from two places: a statement of the top level gives its own, and a site in an expression
gives one wherever the expression stands. Nobody compares them while a script is read. They fit
together because a parser only goes on: what it finds lies between the place where it starts and the
end of the last token that it takes.

* `Edit.Nests` is how two edits of a script lie, `Fits` says it of all edits in a range.
* `Spans` is what reading does to a state, `Parser.Yields` says it of a parser with the edits that
  its result stands for, `Parser.Proceeds` of one whose result stands for none.
* `Spans.trans` puts two readings together; there is a rule for each way of combining parsers and
  for each primitive one.
-/

namespace LiveBundle

/-! ## Edits -/

/-- The range of an edit lies in that of another one, behind its start. -/
def Edit.Inside (a b : Edit) : Prop := b.start < a.start ∧ a.stop ≤ b.stop

/-- Two edits lie apart, or one inside the other. -/
def Edit.Nests (a b : Edit) : Prop :=
  a.stop ≤ b.start ∨ b.stop ≤ a.start ∨ a.Inside b ∨ b.Inside a

/-- Of two edits, it does not matter which one is named first. -/
lemma Edit.Nests.symm {a b : Edit} (h : a.Nests b) : b.Nests a := by
  rcases h with h | h | h | h
  · exact .inr (.inl h)
  · exact .inl h
  · exact .inr (.inr (.inr h))
  · exact .inr (.inr (.inl h))

/-- The edits lie between `lo` and `hi`, any two of them apart or nested. -/
structure Fits (lo hi : Nat) (edits : List Edit) : Prop where
  bounds : ∀ e ∈ edits, lo ≤ e.start ∧ e.start ≤ e.stop ∧ e.stop ≤ hi
  nests : edits.Pairwise Edit.Nests

namespace Fits

variable {lo hi lo' hi' : Nat} {as bs : List Edit}

/-- No edits fit anywhere. -/
lemma nil : Fits lo hi [] := ⟨fun _ h => absurd h List.not_mem_nil, .nil⟩

/-- What fits between two bytes fits between bytes farther apart. -/
lemma mono (h : Fits lo hi as) (hlo : lo' ≤ lo) (hhi : hi ≤ hi') : Fits lo' hi' as := by
  refine ⟨fun e he => ?_, h.nests⟩
  have hbounds := h.bounds e he
  omega

/-- The order of the edits does not matter. -/
lemma perm (h : Fits lo hi as) (hperm : as.Perm bs) : Fits lo hi bs :=
  ⟨fun e he => h.bounds e (hperm.mem_iff.mpr he),
    (hperm.pairwise_iff fun hab => Edit.Nests.symm hab).mp h.nests⟩

/-- Edits may be left out. -/
lemma sublist (h : Fits lo hi as) (hsub : bs.Sublist as) : Fits lo hi bs :=
  ⟨fun e he => h.bounds e (hsub.subset he), h.nests.sublist hsub⟩

/-- Edits of two ranges that follow each other. -/
lemma append (ha : Fits lo hi as) (hb : Fits lo' hi' bs) (hmid : hi ≤ lo') (hlo : lo ≤ lo')
    (hhi : hi ≤ hi') : Fits lo hi' (as ++ bs) := by
  refine ⟨fun e he => ?_, List.pairwise_append.mpr ⟨ha.nests, hb.nests, fun a hmem b hmem' => ?_⟩⟩
  · rcases List.mem_append.mp he with h | h
    · have hbounds := ha.bounds e h
      omega
    · have hbounds := hb.bounds e h
      omega
  · have hbefore := ha.bounds a hmem
    have hbehind := hb.bounds b hmem'
    exact .inl (by omega)

/-- One more edit, which nests with all others. -/
lemma cons {e : Edit} (h : Fits lo hi as) (hbounds : lo ≤ e.start ∧ e.start ≤ e.stop ∧ e.stop ≤ hi)
    (hnests : ∀ a ∈ as, e.Nests a) : Fits lo hi (e :: as) :=
  ⟨by rintro a (_ | ⟨_, ha⟩); exacts [hbounds, h.bounds a ha], .cons hnests h.nests⟩

end Fits

namespace Script

open LiveBundle.Script.Parser
open ModuleSyntax (siteEdit itemEdits editOf)

variable {text : List Char} {α β σ : Type}

/-! ## Places and tokens -/

/-- A text with characters has bytes. -/
lemma byteSize_pos {s : List Char} (h : s ≠ []) : 0 < Text.byteSize s := by
  cases s with
  | nil => exact absurd rfl h
  | cons c cs =>
    have hsize : 0 < c.utf8Size := Char.utf8Size_pos c
    simp only [Text.byteSize]
    omega

/-- Skipping never goes back. -/
lemma Place.le_skip (p : Place text) (n : Nat) : p.offset ≤ (p.skip n).offset :=
  Nat.le_add_right _ _

/-- Skipping a character goes on. -/
lemma Place.lt_skip {p : Place text} {n : Nat} (hn : 0 < n) (hrest : p.rest ≠ []) :
    p.offset < (p.skip n).offset := by
  have htake : p.rest.take n ≠ [] := by
    simp only [ne_eq, List.take_eq_nil_iff, not_or]
    exact ⟨by omega, hrest⟩
  have hpos := byteSize_pos htake
  show p.offset < p.offset + Text.byteSize (p.rest.take n)
  omega

/-- Behind a place with nothing left there is no other place. -/
lemma Place.rest_ne_nil {p q : Place text} (h : p.offset < q.offset) : p.rest ≠ [] := by
  intro hnil
  obtain ⟨before, htext, hsize⟩ := p.reached
  obtain ⟨before', htext', hsize'⟩ := q.reached
  have hp := congrArg Text.byteSize htext
  have hq := congrArg Text.byteSize htext'
  rw [Text.byteSize_append] at hp hq
  rw [hnil, Text.byteSize] at hp
  omega

/-- A span between places in order has them for its ends. -/
lemma Place.spanTo_of_le {a b : Place text} (h : a.offset ≤ b.offset) :
    (a.spanTo b).start = a.offset ∧ (a.spanTo b).stop = b.offset := by
  unfold Place.spanTo
  rw [dif_pos h]
  exact ⟨rfl, rfl⟩

/-- Whether a token is a word or a punctuator. -/
def TokenKind.isSolid : TokenKind → Bool
  | .word _ _ | .punct _ => true
  | _ => false

namespace Lexer

/-- Scanning gives words and punctuators a length, where there is text. -/
def Solid (s : List Char) (r : Option (TokenKind × Nat)) : Prop :=
  ∀ kind n, r = some (kind, n) → kind.isSolid = true → 0 < n ∧ s ≠ []

/-- Where nothing is found there is nothing to measure. -/
lemma Solid.none {s : List Char} : Solid s none := fun _ _ h => nomatch h

/-- Tokens of other kinds are not measured. -/
lemma Solid.of_kind {s : List Char} {kind : TokenKind} {n : Nat} (h : kind.isSolid = false) :
    Solid s (some (kind, n)) := by
  rintro _ _ ⟨⟩ hsolid
  rw [h] at hsolid
  cases hsolid

lemma solid_endNumber {s : List Char} {kind : TokenKind} (hkind : kind.isSolid = false) (n : Nat)
    (rest : List Char) : Solid s (endNumber kind n rest) := by
  unfold endNumber
  split
  · split
    · exact .none
    · exact .of_kind hkind
  · exact .of_kind hkind

lemma solid_exponentPart {s : List Char} (n : Nat) (rest : List Char) :
    Solid s (exponentPart n rest) := by
  unfold exponentPart
  split
  · split
    · simp only
      split
      · exact solid_endNumber rfl _ _
      · exact .none
    · exact solid_endNumber rfl _ _
  · exact .of_kind rfl

lemma solid_fractionPart {s : List Char} (n : Nat) (rest : List Char) :
    Solid s (fractionPart n rest) := by
  unfold fractionPart
  split
  · exact solid_exponentPart _ _
  · exact .none

lemma solid_basedNumber {s : List Char} (isDigit : Char → Bool) (rest : List Char) :
    Solid s (basedNumber isDigit rest) := by
  unfold basedNumber
  split
  · simp only
    split
    · exact solid_endNumber rfl _ _
    · exact solid_endNumber rfl _ _
  · exact .none

lemma solid_zeroNumber {s : List Char} (rest : List Char) : Solid s (zeroNumber rest) := by
  unfold zeroNumber
  simp only
  split
  · exact solid_endNumber rfl _ _
  · split
    · exact solid_fractionPart _ _
    · exact solid_exponentPart _ _
    · exact solid_endNumber rfl _ _

lemma solid_decimal {s : List Char} (rest : List Char) : Solid s (number.decimal rest) := by
  unfold number.decimal
  split
  · exact .none
  · split
    · exact solid_fractionPart _ _
    · exact solid_endNumber rfl _ _
    · exact solid_exponentPart _ _

/-- A number is neither a word nor a punctuator. -/
lemma solid_number {s : List Char} (rest : List Char) : Solid s (number rest) := by
  unfold number
  split
  · split_ifs
    · exact solid_basedNumber _ _
    · exact solid_basedNumber _ _
    · exact solid_basedNumber _ _
    · exact solid_zeroNumber _
    · exact .none
    · exact solid_decimal _
  · exact solid_decimal _

/-- A part of a template is neither a word nor a punctuator. -/
lemma solid_templatePart {s : List Char} (wellFormed : Bool) (skip n : Nat) (rest : List Char) :
    Solid s (templatePart wellFormed skip n rest) := by
  induction rest generalizing wellFormed skip n with
  | nil => cases skip <;> exact .none
  | cons c cs ih =>
    cases skip with
    | succ skip => exact ih _ _ _
    | zero =>
      unfold templatePart
      split_ifs
      · exact .of_kind rfl
      · exact .of_kind rfl
      · split
        · exact ih _ _ _
        · exact ih _ _ _
      · exact ih _ _ _

/-- A word with characters in it was read from characters. -/
lemma wordChars_length {first escaped escaped' : Bool} {skip n m : Nat} {s cs : List Char}
    (h : wordChars first escaped skip n s = some (cs, m, escaped')) :
    n ≤ m ∧ (cs ≠ [] → n < m) := by
  induction s generalizing first escaped skip n cs with
  | nil =>
    cases skip <;> cases h <;> exact ⟨Nat.le_refl _, fun h => absurd rfl h⟩
  | cons c s ih =>
    -- Whatever is read further on starts behind the present character.
    have hread {skip : Nat} {first escaped : Bool} {f : List Char → List Char}
        (h : (wordChars first escaped skip (n + 1) s).map (fun r => (f r.1, r.2)) =
          some (cs, m, escaped')) : n ≤ m ∧ (cs ≠ [] → n < m) := by
      obtain ⟨⟨rest, m', e⟩, hrest, heq⟩ := Option.map_eq_some_iff.mp h
      cases heq
      have hlength := (ih hrest).1
      exact ⟨by omega, fun _ => by omega⟩
    cases skip with
    | succ skip =>
      have hlength := (ih h).1
      exact ⟨by omega, fun _ => by omega⟩
    | zero =>
      unfold wordChars at h
      by_cases hpart : (if first = true then isNameStart c else isNamePart c) = true
      · rw [if_pos hpart] at h
        exact hread h
      · rw [if_neg hpart] at h
        by_cases hescape : c = '\\'
        · rw [if_pos hescape] at h
          split at h
          · split at h
            · simp only at h
              split_ifs at h <;> exact hread h
            · cases h
          · cases h
        · rw [if_neg hescape] at h
          cases h
          exact ⟨Nat.le_refl _, fun h => absurd rfl h⟩

/-- A word that is found has at least one character. -/
lemma solid_word (s : List Char) : Solid s (word s) := by
  intro kind n h hsolid
  unfold word at h
  split at h
  · rename_i c cs m escaped hread
    cases h
    refine ⟨(wordChars_length hread).2 (by simp), ?_⟩
    rintro rfl
    cases hread
  · cases h

/-- What is found in a table without empty texts has a length. -/
lemma found_length {table : List String} {s : List Char} {p : String}
    (htable : ∀ q ∈ table, 0 < q.length)
    (h : table.find? (fun p => p.toList.isPrefixOf s) = some p) : 0 < p.length ∧ s ≠ [] := by
  have hlength : 0 < p.length := htable p (List.mem_of_find?_eq_some h)
  refine ⟨hlength, ?_⟩
  rintro rfl
  have hprefix := List.find?_some h
  rw [List.isPrefixOf_iff_prefix, List.prefix_nil] at hprefix
  rw [← String.length_toList, hprefix] at hlength
  cases hlength

/-- A punctuator that is found has the length of its text. -/
lemma solid_punctuator (s : List Char) : Solid s (punctuator s) := by
  intro kind n h hsolid
  obtain ⟨p, hfind, heq⟩ := Option.map_eq_some_iff.mp h
  obtain ⟨hlength, hs⟩ := found_length (by decide) hfind
  refine ⟨?_, hs⟩
  split at heq <;> cases heq
  · exact Nat.one_pos
  · exact hlength

/-- So has an operator that starts with a closing angle bracket. -/
lemma solid_angleOperator (s : List Char) : Solid s (angleOperator s) := by
  intro kind n h hsolid
  obtain ⟨p, hfind, heq⟩ := Option.map_eq_some_iff.mp h
  cases heq
  exact found_length (by decide) hfind

/-- A word or punctuator is found only in front of a text, and has a length. -/
lemma solid_token (s : List Char) : Solid s (token s) := by
  unfold token
  split
  · exact .of_kind rfl
  · rename_i c cs
    split_ifs
    · intro kind n h hsolid
      obtain ⟨r, -, heq⟩ := Option.map_eq_some_iff.mp h
      cases heq
      cases hsolid
    · exact solid_templatePart _ _ _ _
    · exact solid_number _
    · exact solid_fractionPart _ _
    · split
      · exact .of_kind rfl
      · exact .none
    · exact solid_word _
    · exact solid_punctuator _

end Lexer

/-- A word or punctuator that is found has a length, and there is text for it. -/
lemma tokenAt_solid (p : Place text) (h : (tokenAt p).1.kind.isSolid = true) :
    0 < (tokenAt p).1.length ∧ (tokenAt p).2.rest ≠ [] := by
  unfold tokenAt at h ⊢
  split at h
  · cases h
  · simp only at h ⊢
    split at h
    · rename_i kind length htoken
      exact Lexer.solid_token _ _ _ htoken h
    · cases h

/-- A token starts where it is looked for, or behind. -/
lemma le_tokenAt (p : Place text) : p.offset ≤ (tokenAt p).2.offset := by
  unfold tokenAt
  split
  · exact Nat.le_refl _
  · simp only
    split
    · exact p.le_skip _
    · exact p.le_skip _

/-! ## States -/

/-- The places of a state are in order, and a word or punctuator is not empty. -/
structure State.Ordered (s : State text) : Prop where
  previous_le : s.previous.offset ≤ s.start.offset
  start_le : s.start.offset ≤ s.stop.offset
  start_lt : s.token.kind.isSolid = true → s.start.offset < s.stop.offset

/-- What reading from `s` to `s'` does, with the edits of what was read: nothing goes back, and
these edits and those of the sites that were found fit between the two states. -/
structure Spans (s : State text) (edits : List Edit) (s' : State text) : Prop where
  ordered : s'.Ordered
  previous_le : s.previous.offset ≤ s'.previous.offset
  start_le : s.start.offset ≤ s'.start.offset
  found : ∃ sites, s'.sites = sites ++ s.sites ∧
    Fits s.start.offset s'.previous.offset (edits ++ sites.map siteEdit)

namespace Spans

variable {s s₁ s₂ s' : State text} {as bs : List Edit}

/-- Nothing is read from a state to itself. -/
lemma refl (h : s.Ordered) : Spans s [] s :=
  ⟨h, Nat.le_refl _, Nat.le_refl _, [], rfl, .nil⟩

/-- One reading after the other. -/
lemma trans (h : Spans s as s₁) (h' : Spans s₁ bs s₂) : Spans s (as ++ bs) s₂ := by
  obtain ⟨found, hfound, hfits⟩ := h.found
  obtain ⟨found', hfound', hfits'⟩ := h'.found
  refine ⟨h'.ordered, Nat.le_trans h.previous_le h'.previous_le,
    Nat.le_trans h.start_le h'.start_le, found' ++ found,
    by rw [hfound', hfound, List.append_assoc], ?_⟩
  refine (hfits.append hfits' h.ordered.previous_le h.start_le h'.previous_le).perm ?_
  -- Only the order differs: sites that were found later stand first.
  rw [List.map_append]
  have hswap : (found.map siteEdit ++ (bs ++ found'.map siteEdit)).Perm
      (bs ++ (found'.map siteEdit ++ found.map siteEdit)) := by
    rw [← List.append_assoc bs]
    exact List.perm_append_comm
  simpa [List.append_assoc] using hswap.append_left as

/-- Edits may be left out. -/
lemma sublist (h : Spans s as s') (hsub : bs.Sublist as) : Spans s bs s' := by
  obtain ⟨found, hfound, hfits⟩ := h.found
  exact ⟨h.ordered, h.previous_le, h.start_le, found, hfound,
    hfits.sublist (hsub.append (List.Sublist.refl _))⟩

/-- A state that differs in nothing that matters here. -/
lemma of_eq (h : s.Ordered) (htoken : s'.token = s.token) (hstart : s'.start = s.start)
    (hstop : s'.stop = s.stop) (hprevious : s'.previous = s.previous)
    (hsites : s'.sites = s.sites) : Spans s [] s' := by
  refine ⟨⟨?_, ?_, ?_⟩, ?_, ?_, [], hsites, .nil⟩
  · rw [hprevious, hstart]
    exact h.previous_le
  · rw [hstart, hstop]
    exact h.start_le
  · rw [htoken, hstart, hstop]
    exact h.start_lt
  · exact Nat.le_of_eq (by rw [hprevious])
  · exact Nat.le_of_eq (by rw [hstart])

end Spans

/-! ## Parsers -/

/-- Reading goes on, and the results stand for the given edits. -/
def Parser.Yields (edits : α → List Edit) (p : Parser text α) : Prop :=
  ∀ ⦃ctx s a s'⦄, s.Ordered → p ctx s = some (a, s') → Spans s (edits a) s'

/-- Reading goes on, and the results stand for no edits. -/
def Parser.Proceeds (p : Parser text α) : Prop := p.Yields fun _ => []

/-- What two parsers read, one after the other. -/
lemma Parser.bind_eq_some {p : Parser text α} {f : α → Parser text β} {ctx : Context}
    {s s' : State text} {b : β} :
    (p >>= f) ctx s = some (b, s') ↔
      ∃ a s₁, p ctx s = some (a, s₁) ∧ f a ctx s₁ = some (b, s') := by
  simp only [Bind.bind]
  rcases p ctx s with _ | ⟨a, s₁⟩
  · simp
  · simp only [Option.some.injEq, Prod.mk.injEq]
    exact ⟨fun h => ⟨a, s₁, ⟨rfl, rfl⟩, h⟩, fun ⟨_, _, ⟨rfl, rfl⟩, h⟩ => h⟩

/-- The edits of the result, without those of the sites, may be forgotten. -/
lemma Parser.Yields.proceeds {edits : α → List Edit} {p : Parser text α} (h : p.Yields edits) :
    p.Proceeds := fun _ _ _ _ hs hrun => (h hs hrun).sublist (List.nil_sublist _)

namespace Parser.Proceeds

@[grind ←]
lemma pure (a : α) : (Pure.pure a : Parser text α).Proceeds := by
  rintro ctx s b s' hs ⟨⟩
  exact .refl hs

/-- Two steps that go on go on together. -/
@[grind ←]
lemma bind {p : Parser text α} {f : α → Parser text β} (hp : p.Proceeds)
    (hf : ∀ a, (f a).Proceeds) : (p >>= f).Proceeds := by
  intro ctx s b s' hs hrun
  obtain ⟨a, s₁, hrun₁, hrun₂⟩ := bind_eq_some.mp hrun
  have hfirst := hp hs hrun₁
  exact hfirst.trans (hf a hfirst.ordered hrun₂)

/-- After a parser without a result nothing depends on it. -/
@[grind ←]
lemma bind_unit {p : Parser text PUnit} {f : PUnit → Parser text β} (hp : p.Proceeds)
    (hf : (f ⟨⟩).Proceeds) : (p >>= f).Proceeds := hp.bind fun _ => hf

@[grind ←]
lemma map {p : Parser text α} (f : α → β) (hp : p.Proceeds) : (f <$> p).Proceeds :=
  hp.bind fun a => pure (f a)

lemma ite {c : Prop} [Decidable c] {p q : Parser text α} (hp : p.Proceeds) (hq : q.Proceeds) :
    (if c then p else q).Proceeds := by
  split
  · exact hp
  · exact hq

/-- Nothing is read where reading fails. -/
@[grind ←]
lemma fail : (Parser.fail : Parser text α).Proceeds := fun _ _ _ _ _ hrun => nomatch hrun

/-- Other surroundings change nothing about it. -/
@[grind ←]
lemma within {change : Context → Context} {p : Parser text α} (hp : p.Proceeds) :
    (Parser.within change p).Proceeds := fun _ _ _ _ hs hrun => hp hs hrun

/-- What is tried goes on, or the state stays. -/
@[grind ←]
lemma attempt {p : Parser text α} (hp : p.Proceeds) : (Parser.attempt p).Proceeds := by
  intro ctx s a s' hs hrun
  unfold Parser.attempt at hrun
  split at hrun
  · rename_i b s₁ hrun₁
    cases hrun
    exact hp hs hrun₁
  · cases hrun
    exact .refl hs

/-- Looking ahead takes nothing, whatever is looked for. -/
@[grind ←]
lemma looksLike (p : Parser text Bool) : (Parser.looksLike p).Proceeds := by
  intro ctx s a s' hs hrun
  unfold Parser.looksLike at hrun
  split at hrun <;> cases hrun <;> exact .refl hs

/-- A loop goes on in each of its rounds. -/
lemma repeatFor {step : σ → Parser text (σ ⊕ α)} (hstep : ∀ acc, (step acc).Proceeds) (n : Nat)
    (acc : σ) : (Parser.repeatFor step n acc).Proceeds := by
  induction n generalizing acc with
  | zero => exact fail
  | succ n ih =>
    refine (hstep acc).bind fun result => ?_
    cases result with
    | inl acc => exact ih acc
    | inr a => exact pure a

@[grind ←]
lemma context : (Parser.context : Parser text Context).Proceeds := by
  rintro ctx s b s' hs ⟨⟩
  exact .refl hs

/-- A loop goes on, however many rounds it has. -/
@[grind ←]
lemma iterate {start : σ} {step : σ → Parser text (σ ⊕ α)} (hstep : ∀ acc, (step acc).Proceeds) :
    (Parser.iterate start step).Proceeds :=
  context.bind fun _ => repeatFor hstep _ _

/-- A loop without a value that changes. -/
@[grind ←]
lemma iterate_unit {step : PUnit → Parser text (PUnit ⊕ α)} (hstep : (step ⟨⟩).Proceeds) :
    (Parser.iterate ⟨⟩ step).Proceeds := iterate fun _ => hstep

/-! ### Primitive parsers -/

@[grind ←]
lemma kind : (Parser.kind : Parser text TokenKind).Proceeds := by
  rintro ctx s b s' hs ⟨⟩
  exact .refl hs

@[grind ←]
lemma afterLineBreak : (Parser.afterLineBreak : Parser text Bool).Proceeds := by
  rintro ctx s b s' hs ⟨⟩
  exact .refl hs

@[grind ←]
lemma here : (Parser.here : Parser text (Place text)).Proceeds := by
  rintro ctx s b s' hs ⟨⟩
  exact .refl hs

@[grind ←]
lemma spanFrom (start : Place text) : (Parser.spanFrom start).Proceeds := by
  rintro ctx s b s' hs ⟨⟩
  exact .refl hs

/-- A note of an error moves nothing. -/
@[grind ←]
lemma flaw : (Parser.flaw : Parser text Unit).Proceeds := by
  rintro ctx s b s' hs ⟨⟩
  exact .of_eq hs rfl rfl rfl rfl rfl

/-- A note of a default value moves nothing. -/
@[grind ←]
lemma noteDefault (offset : Nat) : (Parser.noteDefault offset : Parser text Unit).Proceeds := by
  rintro ctx s b s' hs ⟨⟩
  exact .of_eq hs rfl rfl rfl rfl rfl

/-- Taking notes back moves nothing. -/
@[grind ←]
lemma settleDefaults (offsets : List Nat) :
    (Parser.settleDefaults offsets : Parser text Unit).Proceeds := by
  rintro ctx s b s' hs ⟨⟩
  exact .of_eq hs rfl rfl rfl rfl rfl

/-- Going to the next token: the end of the present one becomes the end of the last one. -/
@[grind ←]
lemma advance : (Parser.advance : Parser text Unit).Proceeds := by
  rintro ctx s b s' hs ⟨⟩
  have hnext := le_tokenAt s.stop
  refine ⟨⟨hnext, Place.le_skip _ _, fun h => ?_⟩, Nat.le_trans hs.previous_le hs.start_le,
    Nat.le_trans hs.start_le hnext, [], rfl, .nil⟩
  obtain ⟨hlength, hrest⟩ := tokenAt_solid _ h
  exact Place.lt_skip hlength hrest

/-- The end of a token that is read in another way. -/
lemma reread_of {scan : List Char → Option (TokenKind × Nat)} {ctx : Context} {s s' : State text}
    {u : Unit} (hs : s.Ordered) (hscan : Lexer.Solid s.start.rest (scan s.start.rest))
    (hrun : Parser.reread scan ctx s = some (u, s')) : Spans s [] s' := by
  unfold Parser.reread at hrun
  split at hrun
  · rename_i kind length hread
    cases hrun
    refine ⟨⟨hs.previous_le, Place.le_skip _ _, fun h => ?_⟩, Nat.le_refl _, Nat.le_refl _, [], rfl,
      .nil⟩
    obtain ⟨hlength, hrest⟩ := hscan _ _ hread h
    exact Place.lt_skip hlength hrest
  · cases hrun

/-- Reading the present token in another way keeps its start, and gives words and punctuators a
length. -/
lemma reread {scan : List Char → Option (TokenKind × Nat)} (hscan : ∀ s, Lexer.Solid s (scan s)) :
    (Parser.reread scan : Parser text Unit).Proceeds :=
  fun _ _ _ _ hs hrun => reread_of hs (hscan _) hrun

end Parser.Proceeds

/-! ## Loops with results -/

/-- A loop whose rounds keep an invariant of its value and the state. -/
lemma Parser.iterate_invariant {I : σ → State text → Prop} {Q : α → State text → Prop}
    {ctx : Context} {step : σ → Parser text (σ ⊕ α)}
    (hstep : ∀ ⦃acc s r s'⦄, I acc s → step acc ctx s = some (r, s') →
      Sum.elim (fun acc => I acc s') (fun a => Q a s') r)
    {start : σ} {s s' : State text} {a : α} (hs : I start s)
    (hrun : Parser.iterate start step ctx s = some (a, s')) : Q a s' := by
  obtain ⟨_, _, ⟨⟩, hloop⟩ := bind_eq_some.mp hrun
  clear hrun
  generalize ctx.limit = n at hloop
  induction n generalizing start s with
  | zero => cases hloop
  | succ n ih =>
    obtain ⟨result, s₁, hrun₁, hrun₂⟩ := bind_eq_some.mp hloop
    have hround := hstep hs hrun₁
    cases result with
    | inl acc => exact ih hround hrun₂
    | inr b =>
      cases hrun₂
      exact hround

/-- A loop each round of which adds the edits of what it read. -/
lemma Spans.iterate (before : σ → List Edit) (after : α → List Edit)
    {step : σ → Parser text (σ ⊕ α)}
    (hstep : ∀ ⦃s₀ ctx acc s r s'⦄, Spans s₀ (before acc) s → step acc ctx s = some (r, s') →
      Spans s₀ (Sum.elim before after r) s')
    {start : σ} {ctx : Context} {s₀ s s' : State text} {a : α} (hs : Spans s₀ (before start) s)
    (hrun : Parser.iterate start step ctx s = some (a, s')) : Spans s₀ (after a) s' := by
  refine iterate_invariant (I := fun acc s => Spans s₀ (before acc) s)
    (Q := fun a s => Spans s₀ (after a) s) (fun acc s r s' h hround => ?_) hs hrun
  have hnext := hstep h hround
  cases r <;> exact hnext

/-! ## Readings from a first token on -/

/-- From `s₀` on a token was taken, and what was found since lies behind its start. -/
structure Opened (s₀ s : State text) : Prop where
  ordered : s.Ordered
  previous_le : s₀.previous.offset ≤ s.previous.offset
  start_lt : s₀.start.offset < s.start.offset
  start_le : s₀.start.offset ≤ s.previous.offset
  found : ∃ sites, s.sites = sites ++ s₀.sites ∧
    Fits (s₀.start.offset + 1) s.previous.offset (sites.map siteEdit)

namespace Opened

variable {s₀ s s' : State text}

/-- A word or punctuator is taken. -/
lemma of_advance {ctx : Context} {u : Unit} (hs : s₀.Ordered)
    (hsolid : s₀.token.kind.isSolid = true) (hrun : advance ctx s₀ = some (u, s)) :
    Opened s₀ s := by
  have hspans := Proceeds.advance hs hrun
  cases hrun
  have hnext := le_tokenAt s₀.stop
  have hstart := hs.start_lt hsolid
  exact ⟨hspans.ordered, hspans.previous_le, Nat.lt_of_lt_of_le hstart hnext, hs.start_le,
    [], rfl, .nil⟩

/-- Reading goes on. -/
lemma spans (h : Opened s₀ s) (h' : Spans s [] s') : Opened s₀ s' := by
  obtain ⟨found, hfound, hfits⟩ := h.found
  obtain ⟨found', hfound', hfits'⟩ := h'.found
  have hstart := h.start_lt
  refine ⟨h'.ordered, Nat.le_trans h.previous_le h'.previous_le,
    Nat.lt_of_lt_of_le h.start_lt h'.start_le, Nat.le_trans h.start_le h'.previous_le,
    found' ++ found, by rw [hfound', hfound, List.append_assoc], ?_⟩
  have hboth := hfits.append hfits' h.ordered.previous_le (by omega) h'.previous_le
  rw [List.map_append]
  exact hboth.perm List.perm_append_comm

/-- All that was read, as one range. -/
lemma whole (h : Opened s₀ s) (r : Replacement) :
    Spans s₀ [editOf (s₀.start.spanTo s.previous) r] s := by
  obtain ⟨found, hfound, hfits⟩ := h.found
  obtain ⟨hstart, hstop⟩ := Place.spanTo_of_le h.start_le
  refine ⟨h.ordered, h.previous_le, Nat.le_of_lt h.start_lt, found, hfound,
    (hfits.mono (Nat.le_succ _) (Nat.le_refl _)).cons ?_ fun e he => ?_⟩
  · simp only [editOf, hstart, hstop]
    exact ⟨Nat.le_refl _, h.start_le, Nat.le_refl _⟩
  · have hbounds := hfits.bounds e he
    refine .inr (.inr (.inr ⟨?_, ?_⟩))
    · simp only [editOf, hstart]
      omega
    · simp only [editOf, hstop]
      omega

/-- The edits of what was opened may be forgotten. -/
lemma forget (h : Opened s₀ s) : Spans s₀ [] s := (h.whole .remove).sublist (List.nil_sublist _)

/-- The range up to the present token, when reading has gone on behind it. -/
lemma head (h : Opened s₀ s) (h' : Spans s [] s') (htaken : s.start.offset ≤ s'.previous.offset)
    (r : Replacement) : Spans s₀ [editOf (s₀.start.spanTo s.start) r] s' := by
  obtain ⟨found, hfound, hfits⟩ := h.found
  obtain ⟨found', hfound', hfits'⟩ := h'.found
  obtain ⟨hstart, hstop⟩ := Place.spanTo_of_le (Nat.le_of_lt h.start_lt)
  have hprevious := h.ordered.previous_le
  refine ⟨h'.ordered, Nat.le_trans h.previous_le h'.previous_le,
    Nat.le_trans (Nat.le_of_lt h.start_lt) h'.start_le, found' ++ found,
    by rw [hfound', hfound, List.append_assoc], ?_⟩
  have hall : Fits s₀.start.offset s'.previous.offset ((found' ++ found).map siteEdit) := by
    have happend := hfits.append hfits' hprevious (by have := h.start_lt; omega) h'.previous_le
    rw [List.map_append]
    exact (happend.mono (Nat.le_succ _) (Nat.le_refl _)).perm List.perm_append_comm
  refine hall.cons ?_ fun e he => ?_
  · simp only [editOf, hstart, hstop]
    exact ⟨Nat.le_refl _, Nat.le_of_lt h.start_lt, htaken⟩
  · -- A site is behind the present token, or it was found in front of it.
    rw [List.map_append, List.mem_append] at he
    rcases he with hbehind | hbefore
    · have hbounds := hfits'.bounds e hbehind
      refine .inl ?_
      simp only [editOf, hstop]
      omega
    · have hbounds := hfits.bounds e hbefore
      refine .inr (.inr (.inr ⟨?_, ?_⟩))
      · simp only [editOf, hstart]
        omega
      · simp only [editOf, hstop]
        omega

end Opened

/-- The end of what was read, as an empty range behind all others. -/
lemma Spans.tail {s s' : State text} {edits : List Edit} (h : Spans s edits s')
    (htaken : s.start.offset ≤ s'.previous.offset) (r : Replacement) :
    Spans s (edits ++ [editOf (s'.previous.spanTo s'.previous) r]) s' := by
  obtain ⟨found, hfound, hfits⟩ := h.found
  obtain ⟨hstart, hstop⟩ := Place.spanTo_of_le (Nat.le_refl s'.previous.offset)
  refine ⟨h.ordered, h.previous_le, h.start_le, found, hfound, ?_⟩
  have hcons : Fits s.start.offset s'.previous.offset
      (editOf (s'.previous.spanTo s'.previous) r :: (edits ++ found.map siteEdit)) := by
    refine hfits.cons ?_ fun e he => .inr (.inl ?_)
    · simp only [editOf, hstart, hstop]
      exact ⟨htaken, Nat.le_refl _, Nat.le_refl _⟩
    · have hbounds := hfits.bounds e he
      simp only [editOf, hstart]
      exact hbounds.2.2
  refine hcons.perm ?_
  rw [List.append_assoc]
  exact List.perm_middle.symm

/-- A site that is noted has the range of an edit that was read. -/
lemma Spans.note {s s' : State text} {edits : List Edit} {site : Site text}
    (h : Spans s (siteEdit site :: edits) s') :
    Spans s edits { s' with sites := site :: s'.sites } := by
  obtain ⟨found, hfound, hfits⟩ := h.found
  refine ⟨⟨h.ordered.previous_le, h.ordered.start_le, h.ordered.start_lt⟩, h.previous_le,
    h.start_le, site :: found, by rw [hfound, List.cons_append], ?_⟩
  refine hfits.perm ?_
  rw [List.map_cons]
  exact List.perm_middle.symm

/-- Reading from a first token on, with the edits that the result stands for. -/
def Parser.Completes (s₀ : State text) (edits : α → List Edit) (p : Parser text α) : Prop :=
  ∀ ⦃ctx s a s'⦄, Opened s₀ s → p ctx s = some (a, s') →
    Spans s₀ (edits a) s' ∧ s₀.start.offset ≤ s'.previous.offset

namespace Parser.Completes

variable {s₀ : State text} {edits : α → List Edit}

/-- What goes on may come in front. -/
lemma bind {p : Parser text β} {f : β → Parser text α} (hp : p.Proceeds)
    (hf : ∀ b, (f b).Completes s₀ edits) : (p >>= f).Completes s₀ edits := by
  intro ctx s a s' hs hrun
  obtain ⟨b, s₁, hrun₁, hrun₂⟩ := bind_eq_some.mp hrun
  exact hf b (hs.spans (hp hs.ordered hrun₁)) hrun₂

/-- Without edits there is nothing to complete. -/
lemma pure {a : α} (h : edits a = []) : (Pure.pure a : Parser text α).Completes s₀ edits := by
  rintro ctx s b s' hs ⟨⟩
  rw [h]
  exact ⟨hs.forget, hs.start_le⟩

/-- On both ways the edits are complete. -/
lemma ite {c : Prop} [Decidable c] {p q : Parser text α} (hp : p.Completes s₀ edits)
    (hq : q.Completes s₀ edits) : (if c then p else q).Completes s₀ edits := by
  split
  · exact hp
  · exact hq

/-- The result has the range of all that was read. -/
lemma spanFrom {f : Span text → Parser text α} {a : Span text → α} {r : Replacement}
    (hf : ∀ span, f span = Pure.pure (a span)) (h : ∀ span, edits (a span) = [editOf span r]) :
    (Parser.spanFrom s₀.start >>= f).Completes s₀ edits := by
  intro ctx s b s' hs hrun
  obtain ⟨span, s₁, hrun₁, hrun₂⟩ := bind_eq_some.mp hrun
  cases hrun₁
  rw [hf] at hrun₂
  cases hrun₂
  rw [h]
  exact ⟨hs.whole r, hs.start_le⟩

end Parser.Completes

end Script

end LiveBundle
