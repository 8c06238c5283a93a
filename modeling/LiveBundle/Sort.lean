/-!
# Stable sorting

* `sortBy` puts the elements of a list in order. Of two elements that neither comes before the other
  the one that stood first stays first.
* `sortBy_perm` says that sorting changes nothing but the order, `sortBy_pairwise` that the elements
  are in order afterwards.
-/

namespace LiveBundle

variable {α : Type} {before : α → α → Bool}

/-- Puts an element behind all that do not come after it. -/
def insertBy (before : α → α → Bool) (x : α) : List α → List α
  | [] => [x]
  | y :: ys => if before x y then x :: y :: ys else y :: insertBy before x ys

/-- The elements in order. -/
def sortBy (before : α → α → Bool) (xs : List α) : List α :=
  xs.foldl (fun acc x => insertBy before x acc) []

/-! ## Elements -/

/-- An insertion adds the element, and nothing else changes. -/
theorem insertBy_perm (x : α) (ys : List α) : (insertBy before x ys).Perm (x :: ys) := by
  induction ys with
  | nil => exact .refl _
  | cons y ys ih =>
    unfold insertBy
    split
    · exact .refl _
    · exact (ih.cons y).trans (.swap x y ys)

/-- Sorting keeps each element as often as it was there. -/
theorem sortBy_perm (xs : List α) : (sortBy before xs).Perm xs := by
  have hfold (acc : List α) :
      (xs.foldl (fun acc x => insertBy before x acc) acc).Perm (xs ++ acc) := by
    induction xs generalizing acc with
    | nil => exact .refl _
    | cons x xs ih =>
      refine (ih _).trans (((insertBy_perm x acc).append_left xs).trans ?_)
      exact List.perm_middle
  have h := hfold []
  rwa [List.append_nil] at h

/-- A sorted list has the same elements. -/
theorem mem_sortBy {x : α} {xs : List α} : x ∈ sortBy before xs ↔ x ∈ xs :=
  (sortBy_perm xs).mem_iff

/-! ## Order -/

/-- A test for coming first decides between two elements, and says it of an order. -/
structure Decides (before : α → α → Bool) (leads : α → α → Prop) : Prop where
  of_before : ∀ ⦃a b⦄, before a b = true → leads a b
  of_not_before : ∀ ⦃a b⦄, before a b = false → leads b a
  trans : ∀ ⦃a b c⦄, leads a b → leads b c → leads a c

variable {leads : α → α → Prop}

/-- An insertion keeps a list in order. -/
theorem insertBy_pairwise (hleads : Decides before leads) {x : α} {ys : List α}
    (h : ys.Pairwise leads) : (insertBy before x ys).Pairwise leads := by
  induction ys with
  | nil => exact List.pairwise_singleton _ _
  | cons y ys ih =>
    obtain ⟨hy, hys⟩ := List.pairwise_cons.mp h
    unfold insertBy
    split
    · rename_i hbefore
      have hlead := hleads.of_before hbefore
      refine .cons (fun z hz => ?_) h
      rcases List.mem_cons.mp hz with rfl | hz
      · exact hlead
      · exact hleads.trans hlead (hy z hz)
    · rename_i hbefore
      rw [Bool.not_eq_true] at hbefore
      refine .cons (fun z hz => ?_) (ih hys)
      rcases List.mem_cons.mp ((insertBy_perm x ys).mem_iff.mp hz) with rfl | hz
      · exact hleads.of_not_before hbefore
      · exact hy z hz

/-- A sorted list is in order. -/
theorem sortBy_pairwise (hleads : Decides before leads) (xs : List α) :
    (sortBy before xs).Pairwise leads := by
  have hfold (acc : List α) (hacc : acc.Pairwise leads) :
      (xs.foldl (fun acc x => insertBy before x acc) acc).Pairwise leads := by
    induction xs generalizing acc with
    | nil => exact hacc
    | cons x xs ih => exact ih _ (insertBy_pairwise hleads hacc)
  exact hfold [] .nil

end LiveBundle
