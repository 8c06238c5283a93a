import LiveBundle.Proofs.Component.Braces
import Mathlib.Data.List.TakeWhile

/-!
# Templates of markup

Markup is read as a template if all its braces have partners and each outermost group holds an
expression. The template is then written as the body of a template literal, in which the literal
text can neither end the literal nor start an expression of its own.

* `Fault.At` says what each fault is about, `parse_error_at` that a fault is found at the first
  brace that has one;
* `parse_outline`: markup with expressions in its groups is read as the parts of its outline;
* `escaped_mark` and `unescape_escape`: marks in escaped text have a backslash in front, and what
  was escaped is read back;
* `template_written`: which markup is read, and what is written for it.
-/

namespace LiveBundle.Component.Template

open Text (isBlank)

variable {markup front rest e a b : List Char} {o : Outline} {g : List Char × List Char}
  {offset start depth : Nat}

/-! ## Expressions -/

/-- The text of a group can be an expression: it is not blank, and no mark makes it a block. -/
structure IsExpression (e : List Char) : Prop where
  shown : ∃ c ∈ e, isBlank c = false
  unmarked : ∀ mark, e.head? = some mark → isBlockMark mark = false

/-- What a fault is about: a brace, and what stands behind it. -/
inductive Fault.At : Fault → Char → List Char → Prop
  | emptyExpression {e : List Char} (rest : List Char) (balanced : Balanced e)
      (blank : ∀ c ∈ e, isBlank c = true) : At .emptyExpression '\x7b' (e ++ '\x7d' :: rest)
  | blockMark {mark : Char} (rest : List Char) (h : isBlockMark mark = true) :
      At (.blockMark mark) '\x7b' (mark :: rest)
  | unexpectedClose (rest : List Char) : At .unexpectedClose '\x7d' rest
  | unclosedExpression {rest : List Char} (h : NeverCloses 0 rest) :
      At .unclosedExpression '\x7b' rest

/-- A brace with a partner is at fault only for the text of its group. -/
lemma not_isExpression_iff : ¬IsExpression e ↔
    (∀ c ∈ e, isBlank c = true) ∨ ∃ mark, e.head? = some mark ∧ isBlockMark mark = true := by
  constructor
  · intro h
    by_cases hmark : ∃ mark, e.head? = some mark ∧ isBlockMark mark = true
    · exact .inr hmark
    · refine .inl fun c hc => ?_
      by_contra hblank
      refine h ⟨⟨c, hc, by simpa using hblank⟩, fun mark hhead => ?_⟩
      by_contra hblock
      exact hmark ⟨mark, hhead, by simpa using hblock⟩
  · rintro (hblank | ⟨mark, hhead, hmark⟩) h
    · obtain ⟨c, hc, hshown⟩ := h.shown
      rw [hblank c hc] at hshown
      cases hshown
    · rw [h.unmarked mark hhead] at hmark
      cases hmark

lemma not_isBlockMark_of_isBlank {c : Char} (h : isBlank c = true) : isBlockMark c = false := by
  rw [← Bool.not_eq_true]
  intro hmark
  simp only [isBlockMark, Bool.or_eq_true, beq_iff_eq] at hmark
  rcases hmark with ((rfl | rfl) | rfl) | rfl <;> exact absurd h (by decide)

/-! ## Reading a group -/

lemma partsFrom_inside_open (start depth offset : Nat) (text rest : List Char) :
    partsFrom (.inside start depth text) offset ('\x7b' :: rest) =
      partsFrom (.inside start (depth + 1) ('\x7b' :: text)) (offset + 1) rest := by
  cases depth <;> rfl

lemma partsFrom_inside_close (start depth offset : Nat) (text rest : List Char) :
    partsFrom (.inside start (depth + 1) text) offset ('\x7d' :: rest) =
      partsFrom (.inside start depth ('\x7d' :: text)) (offset + 1) rest := rfl

lemma partsFrom_inside_other {c : Char} (hopen : c ≠ '\x7b') (hclose : c ≠ '\x7d')
    (start depth offset : Nat) (text rest : List Char) :
    partsFrom (.inside start depth text) offset (c :: rest) =
      partsFrom (.inside start depth (c :: text)) (offset + c.utf8Size) rest := by
  cases depth <;> simp [partsFrom, hopen, hclose]

/-- A group that is not closed. -/
lemma partsFrom_unclosed (h : NeverCloses depth rest) (start offset : Nat) (text : List Char) :
    partsFrom (.inside start depth text) offset rest = .error (.unclosedExpression, start) := by
  induction rest generalizing depth offset text with
  | nil => rfl
  | cons c cs ih =>
    by_cases hclose : c = '\x7d'
    · subst hclose
      cases depth with
      | zero => exact absurd h not_neverCloses_close
      | succ depth =>
        rw [partsFrom_inside_close]
        exact ih (neverCloses_close.mp h) _ _
    · by_cases hopen : c = '\x7b'
      · subst hopen
        rw [partsFrom_inside_open]
        exact ih (neverCloses_open.mp h) _ _
      · rw [partsFrom_inside_other hopen hclose]
        exact ih ((neverCloses_other hopen hclose).mp h) _ _

/-- The rest of a group up to the brace that closes it. -/
lemma partsFrom_closed (h : NeverCloses depth e)
    (htotal : e.count '\x7d' = e.count '\x7b' + depth) (start offset : Nat)
    (text rest : List Char) :
    partsFrom (.inside start depth text) offset (e ++ '\x7d' :: rest) =
      if (text.reverse ++ e).all isBlank then .error (.emptyExpression, start)
      else consPart (.expression (text.reverse ++ e))
        (partsFrom .outside (offset + Text.byteSize e + 1) rest) := by
  induction e generalizing depth offset text with
  | nil =>
    obtain rfl : depth = 0 := by simpa using htotal.symm
    simp [partsFrom, Text.byteSize]
  | cons c cs ih =>
    -- The first character is put behind the text so far.
    have hnext : (c :: text).reverse ++ cs = text.reverse ++ c :: cs := by simp
    have hone : '\x7b'.utf8Size = 1 ∧ '\x7d'.utf8Size = 1 := by decide
    rw [List.cons_append]
    by_cases hclose : c = '\x7d'
    · subst hclose
      cases depth with
      | zero => exact absurd h not_neverCloses_close
      | succ depth =>
        rw [List.count_cons_self, List.count_cons_of_ne (by decide)] at htotal
        rw [partsFrom_inside_close, ih (neverCloses_close.mp h) (by omega), hnext, Text.byteSize,
          hone.2, ← Nat.add_assoc]
    · by_cases hopen : c = '\x7b'
      · subst hopen
        rw [List.count_cons_self, List.count_cons_of_ne (by decide)] at htotal
        rw [partsFrom_inside_open, ih (neverCloses_open.mp h) (by omega), hnext, Text.byteSize,
          hone.1, ← Nat.add_assoc]
      · rw [List.count_cons_of_ne hopen, List.count_cons_of_ne hclose] at htotal
        rw [partsFrom_inside_other hopen hclose, ih ((neverCloses_other hopen hclose).mp h) htotal,
          hnext, Text.byteSize, ← Nat.add_assoc]

/-- A brace with a mark behind it. -/
lemma partsFrom_blockMark {mark : Char} (h : isBlockMark mark = true) (offset : Nat)
    (rest : List Char) :
    partsFrom .outside offset ('\x7b' :: mark :: rest) = .error (.blockMark mark, offset) := by
  simp [partsFrom, h]

/-- A brace without a mark behind it opens a group. -/
lemma partsFrom_open (h : ∀ mark, rest.head? = some mark → isBlockMark mark = false)
    (offset : Nat) :
    partsFrom .outside offset ('\x7b' :: rest) =
      partsFrom (.inside offset 0 []) (offset + 1) rest := by
  rw [partsFrom, if_pos rfl]
  cases hhead : rest.head? with
  | none => rfl
  | some mark => simp [h mark hhead]

/-- Literal text in front. -/
lemma partsFrom_front (h : Literal front) (offset : Nat) (rest : List Char) :
    partsFrom .outside offset (front ++ rest) =
      (front.map .literal).foldr consPart
        (partsFrom .outside (offset + Text.byteSize front) rest) := by
  induction front generalizing offset with
  | nil => rfl
  | cons c cs ih =>
    obtain ⟨hopen, hclose⟩ := h
    rw [List.mem_cons, not_or] at hopen hclose
    rw [List.cons_append, partsFrom, if_neg (Ne.symm hopen.1), if_neg (Ne.symm hclose.1),
      ih ⟨hopen.2, hclose.2⟩, Text.byteSize, ← Nat.add_assoc]
    rfl

/-! ## Reading an outline -/

/-- The parts of a group and of the literal text behind it. -/
def Outline.groupParts (g : List Char × List Char) : List Part :=
  .expression g.1 :: g.2.map .literal

/-- The parts of an outline. -/
def Outline.parts (o : Outline) : List Part :=
  o.front.map .literal ++ o.groups.flatMap groupParts

open Outline (groupText groupParts)

/-- A group with an expression. -/
lemma partsFrom_group (hg : Balanced g.1 ∧ Literal g.2) (he : IsExpression g.1) (offset : Nat)
    (rest : List Char) :
    partsFrom .outside offset (groupText g ++ rest) =
      (groupParts g).foldr consPart
        (partsFrom .outside (offset + Text.byteSize (groupText g)) rest) := by
  have hhead : ∀ mark, (g.1 ++ '\x7d' :: (g.2 ++ rest)).head? = some mark →
      isBlockMark mark = false := by
    intro mark hmark
    refine he.unmarked mark ?_
    obtain ⟨c, hc, -⟩ := he.shown
    rw [List.head?_append_of_ne_nil _ (List.ne_nil_of_mem hc)] at hmark
    exact hmark
  have hshown : g.1.all isBlank = false := by
    obtain ⟨c, hc, hblank⟩ := he.shown
    rw [List.all_eq_false]
    exact ⟨c, hc, by simp [hblank]⟩
  have hsize : offset + 1 + Text.byteSize g.1 + 1 + Text.byteSize g.2 =
      offset + Text.byteSize (groupText g) := by
    have hone : '\x7b'.utf8Size = 1 ∧ '\x7d'.utf8Size = 1 := by decide
    rw [groupText, Text.byteSize, Text.byteSize_append, Text.byteSize, hone.1, hone.2]
    omega
  have htext : groupText g ++ rest = '\x7b' :: (g.1 ++ '\x7d' :: (g.2 ++ rest)) := by
    simp [groupText]
  rw [htext, partsFrom_open hhead, partsFrom_closed hg.1.neverCloses hg.1.total.symm,
    List.reverse_nil, List.nil_append, if_neg (by rw [hshown]; exact Bool.false_ne_true),
    partsFrom_front hg.2, hsize]
  rfl

/-- A group without an expression. -/
lemma partsFrom_badGroup (hg : Balanced g.1) (he : ¬IsExpression g.1) (rest : List Char) :
    ∃ fault behind, groupText g ++ rest = '\x7b' :: behind ∧ fault.At '\x7b' behind ∧
      ∀ offset, partsFrom .outside offset (groupText g ++ rest) = .error (fault, offset) := by
  have htext : groupText g ++ rest = '\x7b' :: (g.1 ++ '\x7d' :: (g.2 ++ rest)) := by
    simp [groupText]
  rw [htext]
  rcases not_isExpression_iff.mp he with hblank | ⟨mark, hhead, hmark⟩
  · refine ⟨.emptyExpression, _, rfl, .emptyExpression _ hg hblank, fun offset => ?_⟩
    have hunmarked : ∀ mark, (g.1 ++ '\x7d' :: (g.2 ++ rest)).head? = some mark →
        isBlockMark mark = false := by
      intro mark hmark
      cases he : g.1 with
      | nil =>
        rw [he, List.nil_append, List.head?_cons, Option.some.injEq] at hmark
        rw [← hmark]
        rfl
      | cons c cs =>
        rw [he, List.cons_append, List.head?_cons, Option.some.injEq] at hmark
        exact not_isBlockMark_of_isBlank (hblank mark (by simp [he, hmark]))
    rw [partsFrom_open hunmarked, partsFrom_closed hg.neverCloses hg.total.symm, List.reverse_nil,
      List.nil_append, if_pos (List.all_eq_true.mpr hblank)]
  · obtain ⟨more, hmore⟩ : ∃ more, g.1 = mark :: more := by
      cases he : g.1 with
      | nil =>
        rw [he] at hhead
        cases hhead
      | cons c cs =>
        rw [he, List.head?_cons, Option.some.injEq] at hhead
        exact ⟨cs, by rw [hhead]⟩
    rw [hmore, List.cons_append]
    exact ⟨.blockMark mark, _, rfl, .blockMark _ hmark,
      fun offset => partsFrom_blockMark hmark offset _⟩

/-- Groups with expressions, one after the other. -/
lemma partsFrom_groups {groups : List (List Char × List Char)}
    (hgroups : ∀ g ∈ groups, Balanced g.1 ∧ Literal g.2)
    (hexpressions : ∀ g ∈ groups, IsExpression g.1) (offset : Nat) (rest : List Char) :
    partsFrom .outside offset (groups.flatMap groupText ++ rest) =
      (groups.flatMap groupParts).foldr consPart
        (partsFrom .outside (offset + Text.byteSize (groups.flatMap groupText)) rest) := by
  induction groups generalizing offset with
  | nil => rfl
  | cons g gs ih =>
    obtain ⟨hg, hgs⟩ := List.forall_mem_cons.mp hgroups
    obtain ⟨he, hes⟩ := List.forall_mem_cons.mp hexpressions
    rw [List.flatMap_cons, List.append_assoc, partsFrom_group hg he, ih hgs hes, List.flatMap_cons,
      List.foldr_append, Text.byteSize_append, Nat.add_assoc]

/-- The groups are the outermost ones, and hold expressions. -/
structure Outline.Readable (o : Outline) : Prop where
  valid : o.Valid
  expressions : ∀ g ∈ o.groups, IsExpression g.1

/-- An outline whose groups hold expressions. -/
lemma partsFrom_outline (ho : o.Readable) (offset : Nat) (rest : List Char) :
    partsFrom .outside offset (o.text ++ rest) =
      o.parts.foldr consPart (partsFrom .outside (offset + Text.byteSize o.text) rest) := by
  rw [Outline.text, List.append_assoc, partsFrom_front ho.valid.front,
    partsFrom_groups ho.valid.groups ho.expressions, Outline.parts, List.foldr_append,
    Text.byteSize_append, Nat.add_assoc]

lemma foldr_consPart_ok (ps qs : List Part) : ps.foldr consPart (.ok qs) = .ok (ps ++ qs) := by
  induction ps with
  | nil => rfl
  | cons p ps ih =>
    rw [List.foldr_cons, ih]
    rfl

lemma foldr_consPart_error (ps : List Part) (f : Fault × Nat) :
    ps.foldr consPart (.error f) = .error f := by
  induction ps with
  | nil => rfl
  | cons p ps ih =>
    rw [List.foldr_cons, ih]
    rfl

/-- A fault behind an outline whose groups hold expressions. -/
lemma partsFrom_outline_error {fault : Fault} (ho : o.Readable)
    (h : ∀ offset, partsFrom .outside offset rest = .error (fault, offset)) :
    parse (o.text ++ rest) = .error (fault, Text.byteSize o.text) := by
  rw [parse, partsFrom_outline ho, h, foldr_consPart_error, Nat.zero_add]

/-- Among groups that do not all hold expressions there is a first one that holds none. -/
lemma exists_first_bad {groups : List (List Char × List Char)}
    (h : ¬∀ g ∈ groups, IsExpression g.1) :
    ∃ before g after, groups = before ++ g :: after ∧ (∀ g ∈ before, IsExpression g.1) ∧
      ¬IsExpression g.1 := by
  induction groups with
  | nil => exact absurd (fun _ h => absurd h List.not_mem_nil) h
  | cons g gs ih =>
    by_cases hg : IsExpression g.1
    · obtain ⟨before, bad, after, rfl, hbefore, hbad⟩ := ih fun hgs =>
        h (List.forall_mem_cons.mpr ⟨hg, hgs⟩)
      exact ⟨g :: before, bad, after, rfl, List.forall_mem_cons.mpr ⟨hg, hbefore⟩, hbad⟩
    · exact ⟨[], g, gs, rfl, fun _ h => absurd h List.not_mem_nil, hg⟩

/-- An outline with a group that holds no expression: there is a fault at the first such group. -/
lemma parse_bad (ho : o.Valid) (h : ¬∀ g ∈ o.groups, IsExpression g.1) (rest : List Char) :
    ∃ (o' : Outline) (fault : Fault) (behind : List Char),
      o.text ++ rest = o'.text ++ '\x7b' :: behind ∧ o'.Readable ∧ fault.At '\x7b' behind ∧
        parse (o.text ++ rest) = .error (fault, Text.byteSize o'.text) := by
  obtain ⟨front, groups⟩ := o
  obtain ⟨before, g, after, rfl, hbefore, hbad⟩ := exists_first_bad h
  have hgroups := List.forall_mem_append.mp ho.groups
  have hreadable : Outline.Readable ⟨front, before⟩ := ⟨⟨ho.front, hgroups.1⟩, hbefore⟩
  have hg := (List.forall_mem_cons.mp hgroups.2).1
  have htext : Outline.text ⟨front, before ++ g :: after⟩ ++ rest =
      Outline.text ⟨front, before⟩ ++ (groupText g ++ (after.flatMap groupText ++ rest)) := by
    simp [Outline.text]
  obtain ⟨fault, behind, hbehind, hat, hfault⟩ :=
    partsFrom_badGroup hg.1 hbad (after.flatMap groupText ++ rest)
  refine ⟨⟨front, before⟩, fault, behind, ?_, hreadable, hat, ?_⟩
  · rw [htext, hbehind]
  · rw [htext]
    exact partsFrom_outline_error hreadable hfault

/-- An outline whose groups hold expressions, and nothing behind it. -/
lemma parse_outline (ho : o.Readable) : parse o.text = .ok o.parts := by
  have hread := partsFrom_outline ho 0 []
  rwa [List.append_nil, partsFrom, foldr_consPart_ok, List.append_nil] at hread

/-- Markup is read as the parts of an outline, or there is a fault at a brace behind an outline that
is read. -/
lemma parse_cases (markup : List Char) :
    (∃ o : Outline, o.Readable ∧ markup = o.text ∧ parse markup = .ok o.parts) ∨
    ∃ (fault : Fault) (o : Outline) (c : Char) (rest : List Char),
      markup = o.text ++ c :: rest ∧ o.Readable ∧ fault.At c rest ∧
        parse markup = .error (fault, Text.byteSize o.text) := by
  obtain ⟨o, rest, ho, rfl, hends⟩ := Outline.exists_of_markup markup
  by_cases hexpressions : ∀ g ∈ o.groups, IsExpression g.1
  · have ho : o.Readable := ⟨ho, hexpressions⟩
    cases hends with
    | nil =>
      rw [List.append_nil]
      exact .inl ⟨o, ho, rfl, parse_outline ho⟩
    | close rest =>
      exact .inr ⟨.unexpectedClose, o, '\x7d', rest, rfl, ho, .unexpectedClose rest,
        partsFrom_outline_error ho fun _ => rfl⟩
    | @unclosed rest hopen =>
      by_cases hmark : ∃ mark, rest.head? = some mark ∧ isBlockMark mark = true
      · obtain ⟨mark, hhead, hmark⟩ := hmark
        obtain ⟨more, rfl⟩ := List.head?_eq_some_iff.mp hhead
        exact .inr ⟨.blockMark mark, o, '\x7b', _, rfl, ho, .blockMark more hmark,
          partsFrom_outline_error ho fun offset => partsFrom_blockMark hmark offset _⟩
      · have hunmarked : ∀ mark, rest.head? = some mark → isBlockMark mark = false :=
          fun mark hhead => by
            rw [← Bool.not_eq_true]
            exact fun h => hmark ⟨mark, hhead, h⟩
        refine .inr ⟨.unclosedExpression, o, '\x7b', rest, rfl, ho, .unclosedExpression hopen,
          partsFrom_outline_error ho fun offset => ?_⟩
        rw [partsFrom_open hunmarked]
        exact partsFrom_unclosed hopen _ _ _
  · obtain ⟨o', fault, behind, htext, ho', hat, hparse⟩ := parse_bad ho hexpressions rest
    exact .inr ⟨fault, o', '\x7b', behind, htext, ho', hat, hparse⟩

/-- A fault is found at a brace, and it is the first one: all markup in front of it is read. -/
theorem parse_error_at {fault : Fault} (h : parse markup = .error (fault, offset)) :
    ∃ a c rest, markup = a ++ c :: rest ∧ Text.byteSize a = offset ∧
      (∃ parts, parse a = .ok parts) ∧ fault.At c rest := by
  rcases parse_cases markup with ⟨o, -, -, hparse⟩ | ⟨fault', o, c, rest, htext, ho, hat, hparse⟩
  · rw [hparse] at h
    cases h
  · rw [hparse] at h
    cases h
    exact ⟨o.text, c, rest, htext, rfl, ⟨o.parts, parse_outline ho⟩, hat⟩

/-! ## Escaping -/

/-- Literal text inside a template literal. -/
def escape (literal : List Char) : List Char := literal.flatMap escapeChar

/-- A character that template literals give a meaning: a backslash, the mark that ends them, or the
one that starts an expression. -/
def IsMark (c : Char) : Prop := c = '\\' ∨ c = Char.ofNat 96 ∨ c = '$'

instance : DecidablePred IsMark := fun c =>
  inferInstanceAs (Decidable (c = '\\' ∨ c = Char.ofNat 96 ∨ c = '$'))

/-- The text that was escaped. -/
def unescape : List Char → List Char
  | [] => []
  | [c] => [c]
  | c :: d :: rest =>
    if c = '\\' ∧ IsMark d then d :: unescape rest else c :: unescape (d :: rest)

/-- The number of backslashes at the end of a text. -/
def slashes (before : List Char) : Nat := (before.reverse.takeWhile (· = '\\')).length

/-- Behind this text a character is escaped: an odd number of backslashes stands in front. -/
def Escapes (before : List Char) : Prop := slashes before % 2 = 1

lemma slashes_append (a b : List Char) :
    slashes (a ++ b) = if b.all (· = '\\') then slashes a + b.length else slashes b := by
  unfold slashes
  rw [List.reverse_append]
  split
  · rename_i hall
    rw [List.all_eq_true] at hall
    rw [List.takeWhile_append_of_pos fun c hc => hall c (List.mem_reverse.mp hc),
      List.length_append, List.length_reverse, Nat.add_comm]
  · rename_i hother
    -- The run ends inside of the second part.
    rw [List.takeWhile_append, if_neg]
    intro hlength
    have hwhole := (List.takeWhile_prefix (· = '\\') (l := b.reverse)).eq_of_length hlength
    refine hother (List.all_eq_true.mpr fun c hc => ?_)
    have hmem : c ∈ b.reverse.takeWhile (· = '\\') := by
      rw [hwhole]
      exact List.mem_reverse.mpr hc
    simpa using List.mem_takeWhile_imp hmem

/-- Text in front does not matter if it ends with an even number of backslashes. -/
lemma Escapes.behind {before : List Char} (h : Escapes before) (ha : slashes a % 2 = 0) :
    Escapes (a ++ before) := by
  have hown := slashes_append [] before
  rw [List.nil_append] at hown
  rw [Escapes, slashes_append]
  rw [Escapes] at h
  split
  · rename_i hall
    rw [if_pos hall] at hown
    have hnone : slashes [] = 0 := rfl
    omega
  · exact h

lemma escape_cons (c : Char) (cs : List Char) :
    escape (c :: cs) = if IsMark c then '\\' :: c :: escape cs else c :: escape cs := by
  show (if IsMark c then ['\\', c] else [c]) ++ escape cs = _
  by_cases h : IsMark c
  · rw [if_pos h, if_pos h]
    rfl
  · rw [if_neg h, if_neg h]
    rfl

lemma slashes_of_ne {c : Char} (h : c ≠ '\\') : slashes [c] = 0 := by
  simp [slashes, h]

/-- In escaped text, the mark that ends a template literal and the one that starts an expression are
escaped. -/
theorem escaped_mark (literal : List Char) {before after : List Char} {c : Char}
    (h : escape literal = before ++ c :: after) (hc : c = Char.ofNat 96 ∨ c = '$') :
    Escapes before := by
  have hslash : c ≠ '\\' := by rcases hc with rfl | rfl <;> decide
  induction literal generalizing before with
  | nil => simp [escape] at h
  | cons x xs ih =>
    rw [escape_cons] at h
    split at h
    · rename_i hx
      have heven : slashes ['\\', x] % 2 = 0 := by rcases hx with rfl | rfl | rfl <;> decide
      rcases before with _ | ⟨d, _ | ⟨d', before⟩⟩
      · exact absurd (List.cons.inj h).1.symm hslash
      · rw [← (List.cons.inj h).1]
        exact (by decide : slashes ['\\'] % 2 = 1)
      · obtain ⟨hd, htail⟩ := List.cons.inj h
        obtain ⟨hd', hrest⟩ := List.cons.inj htail
        rw [← hd, ← hd']
        exact (ih hrest).behind heven
    · rename_i hx
      cases before with
      | nil => exact absurd (.inr (by rwa [(List.cons.inj h).1])) hx
      | cons d before =>
        obtain ⟨hd, hrest⟩ := List.cons.inj h
        have heven : slashes [x] % 2 = 0 := by rw [slashes_of_ne fun heq => hx (.inl heq)]
        rw [← hd]
        exact (ih hrest).behind heven

lemma unescape_cons {c : Char} (h : c ≠ '\\') (s : List Char) :
    unescape (c :: s) = c :: unescape s := by
  cases s with
  | nil => rfl
  | cons d rest =>
    rw [unescape, if_neg]
    exact fun hc => h hc.1

/-- What was escaped is read back. -/
theorem unescape_escape (literal : List Char) : unescape (escape literal) = literal := by
  induction literal with
  | nil => rfl
  | cons c cs ih =>
    rw [escape_cons]
    split
    · rename_i hc
      rw [unescape, if_pos ⟨rfl, hc⟩, ih]
    · rename_i hc
      rw [unescape_cons fun heq => hc (.inl heq), ih]

/-! ## What is written -/

/-- An expression inside a template literal. -/
def interpolation (e : List Char) : List Char :=
  "$\x7b__pg_escape(".toList ++ Text.trim e ++ ")\x7d".toList

/-- An outline as the body of a template literal. -/
def Outline.written (o : Outline) : List Char :=
  escape o.front ++ o.groups.flatMap fun g => interpolation g.1 ++ escape g.2

lemma flatMap_literal (s : List Char) : (s.map Part.literal).flatMap Part.render = escape s := by
  rw [List.flatMap_map]
  rfl

lemma render_outline (o : Outline) : render o.parts = Text.trim o.written := by
  have hgroups : (o.groups.flatMap groupParts).flatMap Part.render =
      o.groups.flatMap fun g => interpolation g.1 ++ escape g.2 := by
    rw [List.flatMap_assoc]
    refine List.flatMap_congr fun g _ => ?_
    rw [groupParts, List.flatMap_cons, flatMap_literal]
    rfl
  rw [render, Outline.parts, List.flatMap_append, flatMap_literal, hgroups, Outline.written]

/-- An outline of markup that is read has expressions in its groups. -/
lemma isExpression_of_parse {parts : List Part} (ho : o.Valid)
    (h : parse (o.text ++ rest) = .ok parts) : ∀ g ∈ o.groups, IsExpression g.1 := by
  by_contra hbad
  obtain ⟨o', fault, behind, -, -, -, hparse⟩ := parse_bad ho hbad rest
  rw [hparse] at h
  cases h

/-- A group of markup that is read holds an expression. -/
lemma isExpression_of_group {parts : List Part} (h : parse markup = .ok parts)
    (htext : markup = a ++ '\x7b' :: (e ++ '\x7d' :: b)) (ha : Balanced a) (he : Balanced e) :
    IsExpression e := by
  obtain ⟨o, ho, rfl⟩ := Outline.exists_of_balanced ha
  have hsnoc : markup = (o.snoc (e, [])).text ++ b := by
    rw [htext, Outline.text_snoc]
    simp [groupText]
  rw [hsnoc] at h
  exact isExpression_of_parse (ho.snoc ⟨he, .nil⟩) h (e, []) (by simp [Outline.snoc])

/-- No brace behind balanced markup that is read has a mark behind it. -/
lemma unmarked_of_parse {parts : List Part} {c : Char} (h : parse markup = .ok parts)
    (htext : markup = a ++ '\x7b' :: c :: b) (ha : Balanced a) : isBlockMark c = false := by
  rw [← Bool.not_eq_true]
  intro hmark
  obtain ⟨o, ho, rfl⟩ := Outline.exists_of_balanced ha
  rw [htext] at h
  rw [partsFrom_outline_error ⟨ho, isExpression_of_parse ho h⟩
    fun offset => partsFrom_blockMark hmark offset b] at h
  cases h

/-- Markup that is read is the text of an outline, and read as its parts. -/
lemma exists_outline_of_parse {parts : List Part} (h : parse markup = .ok parts) :
    ∃ o : Outline, o.Readable ∧ markup = o.text ∧ parts = o.parts := by
  rcases parse_cases markup with ⟨o, ho, htext, hparse⟩ | ⟨fault, o, c, rest, -, -, -, hfault⟩
  · rw [hparse] at h
    cases h
    exact ⟨o, ho, htext, rfl⟩
  · rw [hfault] at h
    cases h

/-- A fault in balanced markup is at a brace that opens a blank group, or one with a mark behind
it. -/
lemma Fault.At.group_or_mark {fault : Fault} {c : Char} (hat : fault.At c rest)
    (ha : Balanced a) (hbalanced : Balanced (a ++ c :: rest)) :
    c = '\x7b' ∧ ((∃ e b, rest = e ++ '\x7d' :: b ∧ Balanced e ∧ ∀ d ∈ e, isBlank d = true) ∨
      ∃ d b, rest = d :: b ∧ isBlockMark d = true) := by
  cases hat with
  | emptyExpression rest he hblank => exact ⟨rfl, .inl ⟨_, rest, rfl, he, hblank⟩⟩
  | blockMark rest hmark => exact ⟨rfl, .inr ⟨_, rest, rfl, hmark⟩⟩
  | unexpectedClose rest =>
    -- More groups are closed than opened already in front of what follows.
    have hfront := hbalanced.neverCloses (a ++ ['\x7d'])
      ((List.prefix_append_right_inj _).mpr (List.cons_prefix_cons.mpr ⟨rfl, List.nil_prefix⟩))
    rw [List.count_append, List.count_append, ha.total] at hfront
    exact absurd hfront (by simp)
  | unclosedExpression hopen =>
    have hnever := hopen rest (List.prefix_refl rest)
    have htotal := hbalanced.total
    rw [List.count_append, List.count_append, List.count_cons_self,
      List.count_cons_of_ne (by decide), ha.total] at htotal
    omega

lemma isBlockMark_eq_false_iff (c : Char) :
    isBlockMark c = false ↔ c ∉ ['#', ':', '/', '@'] := by
  rw [← Bool.not_eq_true, not_iff_not]
  simp [isBlockMark, or_assoc]

/-- Markup is read as a template if and only if its braces have partners, no outermost group is
blank, and none starts with the mark of a block. For what is read, the literal text of the outline
is written with its marks escaped, and the expressions of the groups between the marks of an
expression, without white space at either end. In escaped text nothing ends the literal or starts an
expression, and it stands for the text that was escaped. -/
theorem template_written (markup : List Char) :
    ((∃ parts, parse markup = .ok parts) ↔ Balanced markup ∧
      (∀ a e b, markup = a ++ '\x7b' :: (e ++ '\x7d' :: b) → Balanced a → Balanced e →
        ∃ c ∈ e, isBlank c = false) ∧
      ∀ a c b, markup = a ++ '\x7b' :: c :: b → Balanced a → c ∉ ['#', ':', '/', '@']) ∧
    (∀ parts, parse markup = .ok parts → (∃ o : Outline, o.Valid ∧ markup = o.text) ∧
      ∀ o : Outline, o.Valid → markup = o.text → render parts = Text.trim o.written) ∧
    ∀ literal, unescape (escape literal) = literal ∧
      ∀ before c after, escape literal = before ++ c :: after →
        c = Char.ofNat 96 ∨ c = '$' → Escapes before := by
  refine ⟨⟨?_, ?_⟩, ?_, fun literal => ⟨unescape_escape literal, fun _ _ _ => escaped_mark _⟩⟩
  · rintro ⟨parts, h⟩
    refine ⟨?_, fun a e b htext ha he => (isExpression_of_group h htext ha he).shown,
      fun a c b htext ha => (isBlockMark_eq_false_iff c).mp (unmarked_of_parse h htext ha)⟩
    obtain ⟨o, ho, rfl, -⟩ := exists_outline_of_parse h
    exact ho.valid.balanced
  · rintro ⟨hbalanced, hshown, hunmarked⟩
    rcases parse_cases markup with ⟨o, -, -, hparse⟩ | ⟨fault, o, c, rest, rfl, ho, hat, -⟩
    · exact ⟨_, hparse⟩
    · exfalso
      have ha := ho.valid.balanced
      obtain ⟨rfl, ⟨e, b, rfl, he, hblank⟩ | ⟨d, b, rfl, hmark⟩⟩ := hat.group_or_mark ha hbalanced
      · obtain ⟨d, hd, hshows⟩ := hshown o.text e b rfl ha he
        rw [hblank d hd] at hshows
        cases hshows
      · rw [(isBlockMark_eq_false_iff d).mpr (hunmarked o.text d b rfl ha)] at hmark
        cases hmark
  · intro parts h
    obtain ⟨o, ho, htext, -⟩ := exists_outline_of_parse h
    refine ⟨⟨o, ho.valid, htext⟩, fun o ho htext => ?_⟩
    subst htext
    have hread : parse (o.text ++ []) = .ok parts := by rwa [List.append_nil]
    rw [parse_outline ⟨ho, isExpression_of_parse ho hread⟩] at h
    cases h
    exact render_outline o

/-- An ending mark between backslashes, a dollar sign in front of a group, braces inside of it and
a second group directly behind. -/
theorem template_written_nested :
    let markup := "\\\\".toList ++ Char.ofNat 96 :: "$\x7b \x7bx: 1\x7d.x \x7d\x7by\x7d".toList
    let written := "\\\\\\\\\\".toList ++ Char.ofNat 96 ::
      "\\$$\x7b__pg_escape(\x7bx: 1\x7d.x)\x7d$\x7b__pg_escape(y)\x7d".toList
    ∃ parts, parse markup = .ok parts ∧ render parts = written := by
  intro markup written
  let o : Outline := ⟨"\\\\".toList ++ [Char.ofNat 96, '$'],
    [(" \x7bx: 1\x7d.x ".toList, []), ("y".toList, [])]⟩
  have ho : o.Valid := by decide
  have htext : markup = o.text := by decide
  have hparse : parse markup = .ok o.parts := by rfl
  have hrender := ((template_written markup).2.1 o.parts hparse).2 o ho htext
  exact ⟨o.parts, hparse, hrender.trans (by decide)⟩

end LiveBundle.Component.Template
