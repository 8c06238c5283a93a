import LiveBundle.Component.Template
import Mathlib.Data.List.Count
import Mathlib.Data.List.Infix
import Mathlib.Tactic.Lemma

/-!
# Braces in markup

The outermost pairs of braces cut markup into literal text and groups. Any markup is such a sequence
up to the first brace that has no partner.

* `Balanced` says by counts that all braces of a text have their partners;
* `Outline` is a literal front with groups and the literals behind them, `Outline.Valid` says that
  the groups are outermost;
* `Outline.exists_of_markup`: where the outline of markup ends;
* `Outline.exists_of_balanced` and `Outline.Valid.balanced`: the texts that have an outline are the
  balanced ones.
-/

namespace LiveBundle.Component.Template

/-! ## Balanced texts -/

/-- No part in front of a text closes more braces than it opens, but for `depth` others. -/
def NeverCloses (depth : Nat) (s : List Char) : Prop :=
  ∀ front, front <+: s → front.count '\x7d' ≤ front.count '\x7b' + depth

/-- No part in front closes more braces than it opens, and none is left open. -/
structure Balanced (s : List Char) : Prop where
  neverCloses : NeverCloses 0 s
  total : s.count '\x7b' = s.count '\x7d'

/-- Text without braces. -/
def Literal (s : List Char) : Prop := '\x7b' ∉ s ∧ '\x7d' ∉ s

instance (depth : Nat) (s : List Char) : Decidable (NeverCloses depth s) :=
  decidable_of_iff (∀ front ∈ s.inits, front.count '\x7d' ≤ front.count '\x7b' + depth) <| by
    simp only [List.mem_inits, NeverCloses]

instance : DecidablePred Balanced := fun s =>
  decidable_of_iff (NeverCloses 0 s ∧ s.count '\x7b' = s.count '\x7d')
    ⟨fun h => ⟨h.1, h.2⟩, fun h => ⟨h.neverCloses, h.total⟩⟩

instance : DecidablePred Literal := fun s =>
  inferInstanceAs (Decidable ('\x7b' ∉ s ∧ '\x7d' ∉ s))

variable {s a b e front rest : List Char} {c : Char} {depth : Nat}

lemma Literal.nil : Literal [] := ⟨List.not_mem_nil, List.not_mem_nil⟩

lemma NeverCloses.nil : NeverCloses depth [] := by
  intro front hfront
  rw [List.prefix_nil.mp hfront]
  exact Nat.zero_le _

/-- Reading on after the first character. -/
lemma neverCloses_cons : NeverCloses depth (c :: s) ↔
    ∀ front, front <+: s →
      (c :: front).count '\x7d' ≤ (c :: front).count '\x7b' + depth := by
  constructor
  · exact fun h front hfront => h _ (List.cons_prefix_cons.mpr ⟨rfl, hfront⟩)
  · intro h front hfront
    rcases List.prefix_cons_iff.mp hfront with rfl | ⟨front, rfl, hrest⟩
    · exact Nat.zero_le _
    · exact h front hrest

lemma neverCloses_open : NeverCloses depth ('\x7b' :: s) ↔ NeverCloses (depth + 1) s := by
  rw [neverCloses_cons]
  refine forall₂_congr fun front _ => ?_
  rw [List.count_cons_self, List.count_cons_of_ne (by decide)]
  omega

lemma neverCloses_close : NeverCloses (depth + 1) ('\x7d' :: s) ↔ NeverCloses depth s := by
  rw [neverCloses_cons]
  refine forall₂_congr fun front _ => ?_
  rw [List.count_cons_self, List.count_cons_of_ne (by decide)]
  omega

lemma not_neverCloses_close : ¬NeverCloses 0 ('\x7d' :: s) := by
  intro h
  have hfirst := h ['\x7d'] (List.cons_prefix_cons.mpr ⟨rfl, List.nil_prefix⟩)
  exact absurd hfirst (by decide)

lemma neverCloses_other (hopen : c ≠ '\x7b') (hclose : c ≠ '\x7d') :
    NeverCloses depth (c :: s) ↔ NeverCloses depth s := by
  rw [neverCloses_cons]
  refine forall₂_congr fun front _ => ?_
  rw [List.count_cons_of_ne hopen, List.count_cons_of_ne hclose]

/-- A text in two parts: the second one may close what the first one leaves open. -/
lemma NeverCloses.append (ha : NeverCloses depth a) {depth' : Nat} (hb : NeverCloses depth' b)
    (h : depth' + a.count '\x7d' ≤ depth + a.count '\x7b') : NeverCloses depth (a ++ b) := by
  intro front hfront
  obtain ⟨back, hback⟩ := hfront
  rcases List.append_eq_append_iff.mp hback with ⟨more, rfl, -⟩ | ⟨more, rfl, hmore⟩
  · exact ha front (List.prefix_append _ _)
  · have hpart := hb more ⟨back, hmore.symm⟩
    rw [List.count_append, List.count_append]
    omega

namespace Balanced

lemma nil : Balanced [] := ⟨.nil, rfl⟩

lemma append (ha : Balanced a) (hb : Balanced b) : Balanced (a ++ b) := by
  refine ⟨ha.neverCloses.append hb.neverCloses ?_, ?_⟩
  · rw [ha.total]
  · rw [List.count_append, List.count_append, ha.total, hb.total]

/-- A group. -/
lemma group (h : Balanced e) : Balanced ('\x7b' :: e ++ ['\x7d']) := by
  refine ⟨?_, ?_⟩
  · rw [List.cons_append, neverCloses_open]
    have hopen : NeverCloses 1 e := fun front hfront =>
      (h.neverCloses front hfront).trans (Nat.le_add_right _ 1)
    have hclose : NeverCloses 1 ['\x7d'] := neverCloses_close.mpr .nil
    exact hopen.append hclose (by rw [h.total])
  · simp [h.total]

end Balanced

lemma Literal.balanced (h : Literal s) : Balanced s := by
  refine ⟨fun front hfront => ?_, ?_⟩
  · rw [List.count_eq_zero_of_not_mem fun hmem => h.2 (hfront.subset hmem)]
    exact Nat.zero_le _
  · rw [List.count_eq_zero_of_not_mem h.1, List.count_eq_zero_of_not_mem h.2]

/-- Behind an open group there is the brace that closes it, or nothing closes it. -/
lemma exists_close (depth : Nat) (s : List Char) : NeverCloses depth s ∨
    ∃ e rest, s = e ++ '\x7d' :: rest ∧ NeverCloses depth e ∧
      e.count '\x7d' = e.count '\x7b' + depth := by
  induction s generalizing depth with
  | nil => exact .inl .nil
  | cons c cs ih =>
    -- What is found behind the first character is found with it, at another depth.
    have hcons : ∀ depth', (∀ s, NeverCloses depth (c :: s) ↔ NeverCloses depth' s) →
        (∀ e : List Char, e.count '\x7d' = e.count '\x7b' + depth' →
          (c :: e).count '\x7d' = (c :: e).count '\x7b' + depth) →
        NeverCloses depth (c :: cs) ∨ ∃ e rest, c :: cs = e ++ '\x7d' :: rest ∧
          NeverCloses depth e ∧ e.count '\x7d' = e.count '\x7b' + depth := by
      intro depth' hnever hcount
      rcases ih depth' with h | ⟨e, rest, rfl, he, htotal⟩
      · exact .inl ((hnever cs).mpr h)
      · exact .inr ⟨c :: e, rest, rfl, (hnever e).mpr he, hcount e htotal⟩
    by_cases hopen : c = '\x7b'
    · subst hopen
      refine hcons (depth + 1) (fun _ => neverCloses_open) fun e he => ?_
      rw [List.count_cons_self, List.count_cons_of_ne (by decide), he]
      omega
    · by_cases hclose : c = '\x7d'
      · subst hclose
        cases depth with
        | zero => exact .inr ⟨[], cs, rfl, .nil, rfl⟩
        | succ depth =>
          refine hcons depth (fun _ => neverCloses_close) fun e he => ?_
          rw [List.count_cons_self, List.count_cons_of_ne (by decide), he]
          omega
      · refine hcons depth (fun _ => neverCloses_other hopen hclose) fun e he => ?_
        rw [List.count_cons_of_ne hopen, List.count_cons_of_ne hclose, he]

/-! ## Outlines -/

/-- Literal text with groups: the front, and each group with the literal text behind it. -/
structure Outline where
  front : List Char
  groups : List (List Char × List Char)

namespace Outline

/-- A group as it is written, with the literal text behind it. -/
def groupText (g : List Char × List Char) : List Char := '\x7b' :: (g.1 ++ '\x7d' :: g.2)

/-- The markup with an outline. -/
def text (o : Outline) : List Char := o.front ++ o.groups.flatMap groupText

/-- The groups are the outermost ones. -/
structure Valid (o : Outline) : Prop where
  front : Literal o.front
  groups : ∀ g ∈ o.groups, Balanced g.1 ∧ Literal g.2

instance : DecidablePred Valid := fun o =>
  decidable_of_iff (Literal o.front ∧ ∀ g ∈ o.groups, Balanced g.1 ∧ Literal g.2)
    ⟨fun h => ⟨h.1, h.2⟩, fun h => ⟨h.front, h.groups⟩⟩

/-- An outline with one more group at its end. -/
def snoc (o : Outline) (g : List Char × List Char) : Outline :=
  { o with groups := o.groups ++ [g] }

variable {o : Outline}

lemma text_snoc (o : Outline) (g : List Char × List Char) :
    (o.snoc g).text = o.text ++ groupText g := by
  simp [text, snoc]

lemma Valid.snoc (h : o.Valid) {g : List Char × List Char} (hg : Balanced g.1 ∧ Literal g.2) :
    (o.snoc g).Valid := by
  refine ⟨h.front, fun g' hg' => ?_⟩
  rcases List.mem_append.mp hg' with hg' | hg'
  · exact h.groups g' hg'
  · rw [List.mem_singleton.mp hg']
    exact hg

/-- Markup with an outline is balanced. -/
lemma Valid.balanced (h : o.Valid) : Balanced o.text := by
  obtain ⟨front, groups⟩ := o
  refine h.front.balanced.append ?_
  have hgroups := h.groups
  simp only at hgroups ⊢
  induction groups with
  | nil => exact .nil
  | cons g gs ih =>
    obtain ⟨hg, hgs⟩ := List.forall_mem_cons.mp hgroups
    have hrest := ih ⟨h.front, hgs⟩ hgs
    have hgroup : groupText g = '\x7b' :: g.1 ++ ['\x7d'] ++ g.2 := by simp [groupText]
    rw [List.flatMap_cons, hgroup]
    exact (hg.1.group.append hg.2.balanced).append hrest

/-- What follows the outline of markup: nothing, a brace that closes nothing, or one that is never
closed. -/
inductive Ends : List Char → Prop
  | nil : Ends []
  | close (rest : List Char) : Ends ('\x7d' :: rest)
  | unclosed {rest : List Char} (h : NeverCloses 0 rest) : Ends ('\x7b' :: rest)

/-- The literal text in front of markup and the first brace. -/
lemma exists_front (s : List Char) : ∃ front rest, s = front ++ rest ∧ Literal front ∧
    (rest = [] ∨ (∃ t, rest = '\x7b' :: t) ∨ ∃ t, rest = '\x7d' :: t) := by
  induction s with
  | nil => exact ⟨[], [], rfl, .nil, .inl rfl⟩
  | cons c cs ih =>
    by_cases hopen : c = '\x7b'
    · exact ⟨[], c :: cs, rfl, .nil, .inr (.inl ⟨cs, by rw [hopen]⟩)⟩
    · by_cases hclose : c = '\x7d'
      · exact ⟨[], c :: cs, rfl, .nil, .inr (.inr ⟨cs, by rw [hclose]⟩)⟩
      · obtain ⟨front, rest, rfl, hfront, hrest⟩ := ih
        exact ⟨c :: front, rest, rfl,
          ⟨List.not_mem_cons_of_ne_of_not_mem (Ne.symm hopen) hfront.1,
            List.not_mem_cons_of_ne_of_not_mem (Ne.symm hclose) hfront.2⟩, hrest⟩

/-- All markup has an outline up to a brace without a partner. -/
lemma exists_of_markup (s : List Char) :
    ∃ (o : Outline) (rest : List Char), o.Valid ∧ s = o.text ++ rest ∧ Ends rest := by
  -- The text behind a group is shorter.
  induction hn : s.length using Nat.strongRecOn generalizing s with
  | ind n ih =>
    obtain ⟨front, rest, rfl, hfront, hrest⟩ := exists_front s
    have hvalid : Valid ⟨front, []⟩ := ⟨hfront, fun _ h => absurd h List.not_mem_nil⟩
    have htext : text ⟨front, []⟩ = front := List.append_nil front
    rcases hrest with rfl | ⟨t, rfl⟩ | ⟨t, rfl⟩
    · exact ⟨⟨front, []⟩, [], hvalid, by rw [htext], .nil⟩
    · rcases exists_close 0 t with hopen | ⟨e, behind, rfl, he, htotal⟩
      · exact ⟨⟨front, []⟩, _, hvalid, by rw [htext], .unclosed hopen⟩
      · obtain ⟨o, tail, ho, hbehind, htail⟩ := ih behind.length
          (by rw [← hn]; simp only [List.length_append, List.length_cons]; omega) behind rfl
        refine ⟨⟨front, (e, o.front) :: o.groups⟩, tail, ⟨hfront, ?_⟩, ?_, htail⟩
        · exact List.forall_mem_cons.mpr ⟨⟨⟨he, htotal.symm⟩, ho.front⟩, ho.groups⟩
        · rw [hbehind]
          simp [text, groupText]
    · exact ⟨⟨front, []⟩, _, hvalid, by rw [htext], .close t⟩

/-- Balanced markup is the text of an outline. -/
lemma exists_of_balanced (h : Balanced s) : ∃ o : Outline, o.Valid ∧ s = o.text := by
  obtain ⟨o, rest, ho, rfl, hrest⟩ := exists_of_markup s
  have hlevel := ho.balanced.total
  cases hrest with
  | nil => exact ⟨o, ho, List.append_nil _⟩
  | close rest =>
    -- The part up to this brace closes too much.
    have hfront := h.neverCloses (o.text ++ ['\x7d'])
      ((List.prefix_append_right_inj _).mpr (List.cons_prefix_cons.mpr ⟨rfl, List.nil_prefix⟩))
    rw [List.count_append, List.count_append, hlevel] at hfront
    exact absurd hfront (by simp)
  | @unclosed rest hopen =>
    have hnever := hopen rest (List.prefix_refl rest)
    have htotal := h.total
    rw [List.count_append, List.count_append, List.count_cons_self,
      List.count_cons_of_ne (by decide)] at htotal
    omega

end Outline

end LiveBundle.Component.Template
