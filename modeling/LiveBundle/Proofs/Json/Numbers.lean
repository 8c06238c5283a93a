import LiveBundle.Json.Basic
import LiveBundle.Json.Reader
import Mathlib.Tactic.IntervalCases
import Mathlib.Tactic.Lemma

/-!
# The text of numbers

A number is written as a whole part without needless zeros, maybe a fraction, and maybe an exponent.

* `NumberText` is this form;
* `Reader.skipNumber_append`: a reader that passes over a number takes all of such a text;
* `Number.text_cases`: numbers are written in this form, unless they are not finite.
-/

namespace LiveBundle.Json

open Decimal (Binary64 Scientific tenTo twoTo)

/-! ## The form of a number -/

/-- Digits, at least one. -/
def IsDigits (cs : List Char) : Prop := cs ≠ [] ∧ ∀ c ∈ cs, c.isDigit = true

/-- Digits without a zero in front, or zero itself. -/
def IsWhole (cs : List Char) : Prop := cs = ['0'] ∨ (IsDigits cs ∧ cs.head? ≠ some '0')

/-- Nothing, or digits behind a point. -/
def IsFraction (cs : List Char) : Prop := cs = [] ∨ ∃ ds, cs = '.' :: ds ∧ IsDigits ds

/-- Nothing, or digits behind a letter and a sign. -/
def IsExponent (cs : List Char) : Prop :=
  cs = [] ∨ ∃ sign ds, cs = 'e' :: sign :: ds ∧ (sign = '+' ∨ sign = '-') ∧ IsDigits ds

/-- The text of a number without its sign. -/
def NumberText (cs : List Char) : Prop :=
  ∃ whole fraction exponent, cs = whole ++ (fraction ++ exponent) ∧
    IsWhole whole ∧ IsFraction fraction ∧ IsExponent exponent

/-- The text behind a number does not continue it. -/
def Stops (rest : List Char) : Prop :=
  ∀ c ∈ rest.head?, c.isDigit = false ∧ c ≠ '.' ∧ c ≠ 'e' ∧ c ≠ 'E'

/-! ## Passing over numbers -/

namespace Reader

variable {α β : Type} {rest : List Char}

lemma bind_of_done {r : Reader α} {f : α → Reader β} {s rest : List Char} {a : α}
    (h : r s = .done a rest) : (r >>= f) s = f a rest := by
  show bind r f s = _
  rw [bind, h]

lemma peek_cons (c : Char) (cs : List Char) : peek (c :: cs) = .done (some c) (c :: cs) := rfl

lemma advance_cons (c : Char) (cs : List Char) : advance (c :: cs) = .done () cs := rfl

lemma atDigit_eq (s : List Char) : atDigit s = .done (s.head?.any Char.isDigit) s := by
  cases s <;> rfl

lemma atExponent_eq (s : List Char) :
    atExponent s = .done (s.head?.any fun c => c == 'e' || c == 'E') s := by
  cases s <;> rfl

lemma digits_append {ds : List Char} (hds : ∀ c ∈ ds, c.isDigit = true)
    (hrest : ∀ c ∈ rest.head?, c.isDigit = false) : digits (ds ++ rest) = .done ds rest := by
  have hstop : rest.takeWhile Char.isDigit = [] ∧ rest.dropWhile Char.isDigit = rest := by
    cases rest with
    | nil => exact ⟨rfl, rfl⟩
    | cons c cs =>
      have hc : c.isDigit = false := hrest c rfl
      simp [hc]
  rw [digits, List.takeWhile_append_of_pos hds, List.dropWhile_append_of_pos hds, hstop.1, hstop.2,
    List.append_nil]

/-- An exponent is passed over, also where there is none. -/
lemma exponent_append {cs : List Char} (hcs : IsExponent cs) (hrest : Stops rest) :
    skipNumber.exponent (cs ++ rest) = .done () rest := by
  obtain rfl | ⟨sign, ds, rfl, hsign, hne, hds⟩ := hcs
  · have hnone : (rest.head?.any fun c => c == 'e' || c == 'E') = false := by
      cases rest with
      | nil => rfl
      | cons c cs =>
        obtain ⟨-, -, he, hE⟩ := hrest c rfl
        simp [he, hE]
    rw [List.nil_append, skipNumber.exponent, bind_of_done (atExponent_eq rest), hnone]
    rfl
  · obtain ⟨d, ds, rfl⟩ := List.exists_cons_of_ne_nil hne
    have hd : d.isDigit = true := hds d (by simp)
    have hsigned : exponentSign (sign :: (d :: ds ++ rest)) =
        .done (sign == '-') (d :: ds ++ rest) := by
      obtain rfl | rfl := hsign <;> rfl
    have hat : atDigit (d :: ds ++ rest) = .done true (d :: ds ++ rest) := by
      rw [atDigit_eq]
      simp [hd]
    rw [skipNumber.exponent, bind_of_done (atExponent_eq _)]
    show (advance >>= _) ('e' :: sign :: (d :: ds ++ rest)) = _
    rw [bind_of_done (advance_cons _ _), bind_of_done hsigned, bind_of_done hat]
    show (digits >>= _) (d :: ds ++ rest) = _
    rw [bind_of_done (digits_append hds fun c hc => (hrest c hc).1)]
    rfl

/-- What stands behind the digits in front of a fraction and an exponent is no digit. -/
lemma head_of_tail {fraction exponent : List Char} (hfraction : IsFraction fraction)
    (hexponent : IsExponent exponent) (hrest : Stops rest) :
    ∀ c ∈ (fraction ++ (exponent ++ rest)).head?, c.isDigit = false := by
  obtain rfl | ⟨ds, rfl, -⟩ := hfraction
  · obtain rfl | ⟨sign, ds, rfl, -⟩ := hexponent
    · exact fun c hc => (hrest c hc).1
    · rintro c ⟨⟩
      rfl
  · rintro c ⟨⟩
    rfl

/-- A fraction and an exponent are passed over, also where there are none. -/
lemma fraction_append {fraction exponent : List Char} (hfraction : IsFraction fraction)
    (hexponent : IsExponent exponent) (hrest : Stops rest) :
    skipNumber.fraction (fraction ++ (exponent ++ rest)) = .done () rest := by
  rw [skipNumber.fraction]
  obtain rfl | ⟨ds, rfl, hne, hds⟩ := hfraction
  · have hhead : (exponent ++ rest).head? ≠ some '.' := by
      obtain rfl | ⟨sign, ds, rfl, -⟩ := hexponent
      · exact fun h => (hrest '.' h).2.1 rfl
      · exact fun h => absurd (Option.some.inj h) (by decide)
    have hpeek : peek (exponent ++ rest) = .done (exponent ++ rest).head? (exponent ++ rest) := rfl
    rw [List.nil_append, bind_of_done hpeek, if_neg hhead]
    exact exponent_append hexponent hrest
  · have hbehind : ∀ c ∈ (exponent ++ rest).head?, c.isDigit = false :=
      head_of_tail (Or.inl rfl) hexponent hrest
    have hsome : ds.isEmpty = false := List.isEmpty_eq_false_iff.mpr hne
    rw [List.cons_append, bind_of_done (peek_cons _ _), if_pos rfl,
      bind_of_done (advance_cons _ _), bind_of_done (digits_append hds hbehind), hsome]
    exact exponent_append hexponent hrest

/-- The whole text of a number is passed over. -/
lemma skipNumber_append {cs : List Char} (hcs : NumberText cs) (hrest : Stops rest) :
    skipNumber (cs ++ rest) = .done () rest := by
  obtain ⟨whole, fraction, exponent, rfl, hwhole, hfraction, hexponent⟩ := hcs
  have hbehind : ∀ c ∈ (fraction ++ (exponent ++ rest)).head?, c.isDigit = false :=
    head_of_tail hfraction hexponent hrest
  rw [List.append_assoc, List.append_assoc, skipNumber]
  obtain rfl | ⟨⟨hne, hdigits⟩, hzero⟩ := hwhole
  · have hat : (fraction ++ (exponent ++ rest)).head?.any Char.isDigit = false := by
      rw [Option.any_eq_false]
      exact hbehind
    rw [List.singleton_append, bind_of_done (peek_cons _ _)]
    show (advance >>= _) _ = _
    rw [bind_of_done (advance_cons _ _), bind_of_done (atDigit_eq _), hat]
    exact fraction_append hfraction hexponent hrest
  · obtain ⟨d, ds, rfl⟩ := List.exists_cons_of_ne_nil hne
    have hd : d.isDigit = true := hdigits d (by simp)
    have hdzero : d ≠ '0' := fun h => hzero (by rw [h]; rfl)
    rw [List.cons_append, bind_of_done (peek_cons _ _)]
    simp only [if_neg hdzero, if_pos hd]
    rw [← List.cons_append, bind_of_done (digits_append hdigits hbehind)]
    exact fraction_append hfraction hexponent hrest

end Reader

/-! ## Writing numbers -/

lemma isDigits_toDigits (n : Nat) : IsDigits (Nat.toDigits 10 n) :=
  ⟨Nat.toDigits_ne_nil, fun _ h => Nat.isDigit_of_mem_toDigits (by decide) (by decide) h⟩

/-- The digits of a number do not start with a zero, unless the number is zero. -/
lemma head_toDigits {n : Nat} (hn : 0 < n) : (Nat.toDigits 10 n).head? ≠ some '0' := by
  induction n using Nat.strongRecOn with
  | ind n ih =>
    rw [Nat.toDigits_eq_if (by decide)]
    split
    · rename_i hlt
      interval_cases n <;> decide
    · rename_i hge
      obtain ⟨d, ds, hds⟩ :=
        List.exists_cons_of_ne_nil (Nat.toDigits_ne_nil (b := 10) (n := n / 10))
      have hhead := ih (n / 10) (by omega) (by omega)
      rw [hds] at hhead ⊢
      exact hhead

lemma isWhole_toDigits (n : Nat) : IsWhole (Nat.toDigits 10 n) := by
  rcases Nat.eq_zero_or_pos n with rfl | hn
  · exact Or.inl rfl
  · exact Or.inr ⟨isDigits_toDigits n, head_toDigits hn⟩

/-- A natural number is written as a whole part. -/
lemma numberText_nat (n : Nat) : NumberText (toString n).toList := by
  refine ⟨Nat.toDigits 10 n, [], [], ?_, isWhole_toDigits n, Or.inl rfl, Or.inl rfl⟩
  simp

/-- Digits in front of digits are digits. -/
lemma IsDigits.append {ds ds' : List Char} (h : IsDigits ds)
    (h' : ∀ c ∈ ds', c.isDigit = true) : IsDigits (ds ++ ds') :=
  ⟨List.append_ne_nil_of_left_ne_nil h.1 ds', List.forall_mem_append.mpr ⟨h.2, h'⟩⟩

lemma isDigit_of_mem_zeros {n : Nat} {c : Char} (h : c ∈ List.replicate n '0') :
    c.isDigit = true := by
  rw [List.eq_of_mem_replicate h]
  rfl

/-- A positive decimal is written in the form of a number. -/
lemma numberText_scientificText (format : FloatFormat) {s : Scientific} (hs : 0 < s.digits) :
    NumberText (scientificText format s).toList := by
  obtain ⟨d, ds, hds⟩ : ∃ d ds, Nat.toDigits 10 s.digits = d :: ds :=
    List.exists_cons_of_ne_nil Nat.toDigits_ne_nil
  have hall : IsDigits (d :: ds) := hds ▸ isDigits_toDigits s.digits
  have hzero : d ≠ '0' := fun h => head_toDigits hs (by rw [hds, h]; rfl)
  have htext : (toString s.digits).toList = d :: ds := by simpa using hds
  have hlength : (toString s.digits).length = ds.length + 1 := by
    rw [← String.length_toList, htext, List.length_cons]
  simp only [scientificText, htext, hlength]
  split
  · -- Zeros behind the digits, and a fraction for the sake of the form.
    refine ⟨d :: ds ++ List.replicate s.exponent.toNat '0', ['.', '0'], [], by simp [hds],
      Or.inr ⟨hall.append fun _ => isDigit_of_mem_zeros, ?_⟩,
      Or.inr ⟨['0'], rfl, isDigits_toDigits 0⟩, Or.inl rfl⟩
    simpa using hzero
  · rename_i hfits
    split
    · -- The point stands among the digits.
      rename_i hamong
      simp only [Bool.and_eq_true, decide_eq_true_eq, not_and, not_le] at hfits hamong
      obtain ⟨point, hpoint, hpos, hlt⟩ : ∃ point : Nat,
          ((ds.length + 1 : Nat) + s.exponent).toNat = point + 1 ∧ 0 < point + 1 ∧
            point < ds.length := by
        refine ⟨((ds.length + 1 : Nat) + s.exponent).toNat - 1, ?_⟩
        omega
      rw [hpoint]
      refine ⟨d :: ds.take point, '.' :: ds.drop point, [], by simp,
        Or.inr ⟨⟨by simp, fun c hc => hall.2 c ?_⟩, by simpa using hzero⟩,
        Or.inr ⟨_, rfl, ⟨by simpa using hlt, fun c hc => hall.2 c ?_⟩⟩, Or.inl rfl⟩
      · exact List.cons_subset_cons d (List.take_subset point ds) hc
      · exact List.mem_cons_of_mem d (List.drop_subset point ds hc)
    · split
      · -- Zeros between the point and the digits.
        refine ⟨['0'], '.' :: (List.replicate
            (-((ds.length + 1 : Nat) + s.exponent)).toNat '0' ++ d :: ds), [], by simp [hds],
          Or.inl rfl, Or.inr ⟨_, rfl, by simp, ?_⟩, Or.inl rfl⟩
        exact List.forall_mem_append.mpr ⟨fun _ => isDigit_of_mem_zeros, hall.2⟩
      · -- An exponent, behind a point if there are more digits than one.
        generalize ((ds.length + 1 : Nat) : Int) + s.exponent - 1 = e
        have hexponent :
            IsExponent ((if e < 0 then "e-" else "e+") ++ toString e.natAbs).toList := by
          refine Or.inr ⟨if e < 0 then '-' else '+', Nat.toDigits 10 e.natAbs, ?_, ?_,
            isDigits_toDigits _⟩
          · split <;> simp
          · split <;> simp
        have hwhole : IsWhole [d] :=
          Or.inr ⟨⟨by simp, by simpa using hall.2 d List.mem_cons_self⟩, by simpa using hzero⟩
        cases ds with
        | nil => exact ⟨[d], [], _, by simp, hwhole, Or.inl rfl, hexponent⟩
        | cons d' ds =>
          exact ⟨[d], '.' :: d' :: ds, _, by simp, hwhole,
            Or.inr ⟨_, rfl, by simp, fun c hc => hall.2 c (List.mem_cons_of_mem d hc)⟩, hexponent⟩

/-! ## Doubles -/

lemma digits_normalize {n : Nat} {s : Scientific} (hs : 0 < s.digits) :
    0 < (s.normalize n).digits := by
  induction n generalizing s with
  | zero => exact hs
  | succ n ih =>
    rw [Scientific.normalize]
    split
    · rename_i hten
      exact ih (by show 0 < s.digits / 10; omega)
    · exact hs

lemma tenTo_pos (n : Nat) : 0 < tenTo n := Nat.pow_pos (by decide)

/-- Zero does not round to a positive double. -/
lemma not_holds_zero {b : Binary64} (hb : 0 < b.significand) (e : Int) : b.holds 0 e = false := by
  have hlow : 0 < (4 * b.significand - if b.boundary then 1 else 2) *
      (twoTo (b.exponent - 2).toNat * tenTo (-e).toNat) :=
    Nat.mul_pos (by split <;> omega) (Nat.mul_pos (Nat.pow_pos (by decide)) (tenTo_pos _))
  unfold Binary64.holds
  simp only [Nat.zero_mul]
  split
  · simpa using hlow.ne'
  · simp

lemma digits_onGrid {b : Binary64} (hb : 0 < b.significand) {e : Int} {s : Scientific}
    (h : b.onGrid e = some s) : 0 < s.digits := by
  have hfloor : b.holds (b.floorAt e) e = true → 0 < b.floorAt e := by
    intro hholds
    refine Nat.pos_of_ne_zero fun hzero => ?_
    rw [hzero, not_holds_zero hb] at hholds
    cases hholds
  rw [Binary64.onGrid] at h
  cases hlower : b.holds (b.floorAt e) e <;> cases hupper : b.holds (b.floorAt e + 1) e <;>
    simp only [hlower, hupper, Option.some.injEq, reduceCtorEq] at h
  · exact h ▸ Nat.succ_pos _
  · exact h ▸ hfloor hlower
  · subst h
    show 0 < if _ then _ else _
    split
    · exact hfloor hlower
    · exact Nat.succ_pos _

lemma length_toString (n : Nat) : (toString n).length = (Nat.toDigits 10 n).length := by
  rw [← String.length_toList]
  simp

lemma lt_tenTo_length (n : Nat) : n < tenTo (toString n).length := by
  rw [length_toString]
  exact (Nat.length_toDigits_le_iff (by decide) Nat.length_toDigits_pos).mp le_rfl

lemma tenTo_length_le {n : Nat} (hn : 0 < n) : tenTo ((toString n).length - 1) ≤ n := by
  rw [length_toString]
  rcases Nat.eq_zero_or_pos ((Nat.toDigits 10 n).length - 1) with hone | hmore
  · rw [hone]
    exact hn
  · refine Nat.le_of_not_lt fun hlt => ?_
    have hlength := (Nat.length_toDigits_le_iff (by decide) hmore).mpr hlt
    omega

lemma tenTo_le_tenTo {m n : Nat} (h : m ≤ n) : tenTo m ≤ tenTo n :=
  Nat.pow_le_pow_right (by decide) h

/-- Seventeen places behind the first digit there is something left of a positive double. -/
lemma floorAt_pos {b : Binary64} (hb : 0 < b.significand) : 0 < b.floorAt (b.magnitude - 17) := by
  obtain ⟨num, den, hquotient, hnum, hden⟩ :
      ∃ num den, b.quotient = (num, den) ∧ 0 < num ∧ 0 < den := by
    rw [Binary64.quotient]
    split
    · exact ⟨_, _, rfl, Nat.mul_pos hb (Nat.pow_pos (by decide)), Nat.one_pos⟩
    · exact ⟨_, _, rfl, hb, Nat.pow_pos (by decide)⟩
  rw [Binary64.floorAt, Binary64.magnitude, hquotient]
  simp only
  refine Nat.div_pos ?_ (Nat.mul_pos hden (tenTo_pos _))
  split
  · rename_i hle
    generalize hlength : (toString (num / den)).length = length
    have hwhole : tenTo (length - 1) ≤ num / den :=
      hlength ▸ tenTo_length_le (Nat.div_pos hle hden)
    calc den * tenTo ((length : Int) - 17).toNat
        ≤ den * tenTo (length - 1) := Nat.mul_le_mul_left _ (tenTo_le_tenTo (by omega))
      _ ≤ den * (num / den) := Nat.mul_le_mul_left _ hwhole
      _ ≤ num := Nat.mul_div_le num den
      _ ≤ num * tenTo (-((length : Int) - 17)).toNat := Nat.le_mul_of_pos_right _ (tenTo_pos _)
  · generalize hlength : (toString ((den - 1) / num)).length = length
    have hbelow : (den - 1) / num < tenTo length := hlength ▸ lt_tenTo_length _
    have hpower : (1 - (length : Int) - 17).toNat = 0 := by omega
    calc den * tenTo (1 - (length : Int) - 17).toNat
        = den := by rw [hpower]; exact Nat.mul_one den
      _ ≤ num * tenTo length := by
        have := (Nat.div_lt_iff_lt_mul hnum).mp hbelow
        rw [Nat.mul_comm]
        omega
      _ ≤ num * tenTo (-(1 - (length : Int) - 17)).toNat :=
        Nat.mul_le_mul_left _ (tenTo_le_tenTo (by omega))

/-- The decimal of a positive double has a digit other than zero. -/
lemma digits_shortest {b : Binary64} (hb : 0 < b.significand) : 0 < b.shortest.digits := by
  rw [Binary64.shortest]
  split
  · rename_i s hfound
    obtain ⟨e, -, he⟩ := List.exists_of_findSome?_eq_some hfound
    exact digits_normalize (digits_onGrid hb he)
  · exact floorAt_pos hb

/-- A number is written as a number or, if it is not finite, as the word for no value. -/
lemma Number.text_cases (n : Number) :
    n.text = "null" ∨
      ∃ cs, NumberText cs ∧ (n.text.toList = cs ∨ n.text.toList = '-' :: cs) := by
  cases n with
  | nat n => exact Or.inr ⟨_, numberText_nat n, Or.inl rfl⟩
  | negative n => exact Or.inr ⟨_, numberText_nat n, Or.inr (by simp [Number.text])⟩
  | float x =>
    rw [Number.text, floatText]
    split
    · exact Or.inl rfl
    · right
      have hsign : ∀ negative : Bool, ∀ text : String,
          ((if negative then "-" else "") ++ text).toList = text.toList ∨
            ((if negative then "-" else "") ++ text).toList = '-' :: text.toList := by
        intro negative text
        cases negative <;> simp
      simp only
      split
      · exact ⟨"0.0".toList, ⟨['0'], ['.', '0'], [], rfl, Or.inl rfl,
          Or.inr ⟨['0'], rfl, isDigits_toDigits 0⟩, Or.inl rfl⟩, hsign _ _⟩
      · rename_i hsignificand
        exact ⟨_, numberText_scientificText _ (digits_shortest (Nat.pos_of_ne_zero hsignificand)),
          hsign _ _⟩

end LiveBundle.Json
