import LiveBundle.Bundle.Graph
import Mathlib.Data.List.Nodup

/-!
# Module graphs through their lists of modules

What the operations on a module graph do to the list of its modules and to the list of their ids:

* `mem_keys` ties the keys of a dictionary to its look-up;
* `modules_add`, `modules_resolve` and their images under `ids` are the effects of the two changes;
* `indexOf?_eq_some_iff`: an id has the position at which it stands.
-/

namespace LiveBundle

/-! ## Keys of dictionaries -/

namespace Dict

variable {α : Type}

lemma mem_map_fst_iff_lookup (key : String) (l : List (String × α)) :
    key ∈ l.map (·.1) ↔ (lookup key l).isSome := by
  induction l with
  | nil => simp [lookup]
  | cons e rest ih =>
    obtain ⟨k, v⟩ := e
    rw [List.map_cons, List.mem_cons, lookup]
    by_cases hk : k = key
    · simp [hk]
    · rw [if_neg hk, ← ih]
      exact ⟨fun h => h.resolve_left (Ne.symm hk), Or.inr⟩

/-- The keys are what look-up knows. -/
lemma mem_keys (d : Dict α) (key : String) : key ∈ d.keys ↔ (d.get? key).isSome :=
  mem_map_fst_iff_lookup key d.entries

lemma mem_keys_insert (d : Dict α) (key key' : String) (value : α) :
    key' ∈ (d.insert key value).keys ↔ key' = key ∨ key' ∈ d.keys := by
  rw [mem_keys, mem_keys, get?_insert]
  by_cases h : key = key'
  · simp [h]
  · simp [h, Ne.symm h]

lemma not_mem_keys_empty (key : String) : key ∉ (empty : Dict α).keys := by
  simp [mem_keys]

end Dict

/-! ## Modules and ids -/

namespace ModuleGraph

variable {g : ModuleGraph} {m : Module} {front back : List Module}

@[simp] lemma modules_empty : empty.modules = [] := rfl

lemma ids_nodup (g : ModuleGraph) : g.ids.Nodup := g.distinct

@[simp] lemma contains_iff (g : ModuleGraph) (id : String) : g.contains id = true ↔ id ∈ g.ids := by
  simp [contains, ids]

lemma mem_ids_iff {id : String} : id ∈ g.ids ↔ ∃ m ∈ g.modules, m.id = id := List.mem_map

/-- A module with a new id comes behind all others. -/
lemma modules_add (h : m.id ∉ g.ids) : (g.add m).modules = g.modules ++ [m] := by
  simp only [add]
  exact congrArg modules (dif_neg h)

/-- Ids of later modules differ from the one in front of them. -/
lemma id_ne_of_split (front : List Module) (hg : g.modules = front ++ m :: back) :
    ∀ x ∈ front ++ back, x.id ≠ m.id := by
  have hnodup : (front ++ m :: back).map (·.id) |>.Nodup := hg ▸ g.distinct
  rw [List.map_append, List.map_cons, List.nodup_middle, List.nodup_cons,
    ← List.map_append] at hnodup
  intro x hx heq
  exact hnodup.1 (heq ▸ List.mem_map_of_mem hx)

/-- Noting the target of a specifier changes the module that has the id, and no other. -/
lemma modules_resolve (hg : g.modules = front ++ m :: back) (specifier target : String) :
    (g.resolve m.id specifier target).modules = front ++ m.note specifier target :: back := by
  have hne := id_ne_of_split front hg
  -- Neither side of the module is touched.
  have hkeep : ∀ l : List Module, (∀ x ∈ l, x.id ≠ m.id) →
      (l.map fun x => if x.id = m.id then x.note specifier target else x) = l := by
    intro l hl
    conv_rhs => rw [← List.map_id l]
    exact List.map_congr_left fun x hx => if_neg (hl x hx)
  have hmap : (g.resolve m.id specifier target).modules =
      g.modules.map fun x => if x.id = m.id then x.note specifier target else x := rfl
  rw [hmap, hg, List.map_append, List.map_cons, if_pos rfl,
    hkeep front fun x hx => hne x (List.mem_append_left _ hx),
    hkeep back fun x hx => hne x (List.mem_append_right _ hx)]

/-- Noting a target keeps the ids. -/
lemma ids_resolve (g : ModuleGraph) (id specifier target : String) :
    (g.resolve id specifier target).ids = g.ids := by
  rw [ids, ids, resolve, List.map_map]
  refine List.map_congr_left fun m _ => ?_
  simp only [Function.comp]
  split <;> rfl

/-- A module that is added has its id in the graph. -/
lemma ids_add (h : m.id ∉ g.ids) : (g.add m).ids = g.ids ++ [m.id] := by
  rw [ids, modules_add h, List.map_append]
  rfl

/-- The position of an id is where it stands. -/
lemma indexOf?_eq_some_iff (g : ModuleGraph) (id : String) (i : Nat) :
    g.indexOf? id = some i ↔ g.ids[i]? = some id := by
  rw [indexOf?, List.findIdx?_eq_some_iff_getElem, ids, List.getElem?_map]
  constructor
  · rintro ⟨hi, hid, -⟩
    rw [List.getElem?_eq_getElem hi]
    simpa using hid
  · intro h
    obtain ⟨m, hm, rfl⟩ := Option.map_eq_some_iff.mp h
    obtain ⟨hi, rfl⟩ := List.getElem?_eq_some_iff.mp hm
    refine ⟨hi, by simp, fun j hj => ?_⟩
    -- An earlier module with the id would have it twice.
    have hinj := (List.nodup_iff_injective_getElem.mp g.distinct)
    have hj' : j < g.modules.length := Nat.lt_trans hj hi
    intro heq
    have := @hinj ⟨j, by simpa using hj'⟩ ⟨i, by simpa using hi⟩ (by simpa using heq)
    simp only [Fin.mk.injEq] at this
    omega

end ModuleGraph

end LiveBundle
