import LiveBundle.Bundle.ModuleSyntax
import LiveBundle.Dict

/-!
# The module graph

The modules of a pass in the order in which they were discovered. A module keeps the ids that its
specifiers were resolved to. Ids are distinct: a module is added only if its id is new.
-/

namespace LiveBundle

/-- A module of the graph. -/
structure Module where
  id : String
  /-- The text after loading and transformation. -/
  code : String
  syntax_ : ModuleSyntax
  isEntry : Bool
  /-- The ids that specifiers were resolved to. -/
  resolved : Dict String

/-- Notes what a specifier of a module was resolved to. -/
def Module.note (m : Module) (specifier target : String) : Module :=
  { m with resolved := m.resolved.insert specifier target }

/-- The modules in the order of their discovery. -/
structure ModuleGraph where
  modules : List Module
  distinct : (modules.map (·.id)).Nodup

namespace ModuleGraph

/-- The graph without modules. -/
def empty : ModuleGraph := ⟨[], List.nodup_nil⟩

/-- The position of an id. -/
def indexOf? (g : ModuleGraph) (id : String) : Option Nat := g.modules.findIdx? (·.id == id)

/-- The module with an id. -/
def get? (g : ModuleGraph) (id : String) : Option Module := g.modules.find? (·.id == id)

/-- Whether an id belongs to a module. -/
def contains (g : ModuleGraph) (id : String) : Bool := g.modules.any (·.id == id)

/-- Adds a module, unless its id is known. -/
def add (g : ModuleGraph) (m : Module) : ModuleGraph :=
  if h : m.id ∈ g.modules.map (·.id) then g
  else ⟨g.modules ++ [m], by
    rw [List.map_append, List.nodup_append]
    refine ⟨g.distinct, by simp, fun a ha b hb => ?_⟩
    simp only [List.map_cons, List.map_nil, List.mem_singleton] at hb
    rintro rfl
    exact h (hb ▸ ha)⟩

/-- Notes what a specifier of the module `id` was resolved to. -/
def resolve (g : ModuleGraph) (id specifier target : String) : ModuleGraph :=
  ⟨g.modules.map fun m => if m.id = id then m.note specifier target else m, by
    have h : (g.modules.map fun m => if m.id = id then m.note specifier target else m).map (·.id) =
        g.modules.map (·.id) := by
      rw [List.map_map]
      refine List.map_congr_left fun m _ => ?_
      simp only [Function.comp]
      split <;> rfl
    rw [h]
    exact g.distinct⟩

/-- The entry module. -/
def entry? (g : ModuleGraph) : Option Module := g.modules.find? (·.isEntry)

/-- The ids in order. -/
def ids (g : ModuleGraph) : List String := g.modules.map (·.id)

/-- The number of modules. -/
def size (g : ModuleGraph) : Nat := g.modules.length

/-- Whether there is no module. -/
def isEmpty (g : ModuleGraph) : Bool := g.modules.isEmpty

end ModuleGraph

end LiveBundle
