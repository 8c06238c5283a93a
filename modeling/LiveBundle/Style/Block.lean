import LiveBundle.Style.Family

/-!
# Blocks of declarations

The declarations of a rule, those marked as important apart. Of several declarations for one thing
only the last counts, as far as every target browser understands it; the rest is gathered into the
shortest declarations.

* `Gathering` collects declarations one by one.
* `Block.gathered` gathers a block, `Block.lines` writes it.
-/

namespace LiveBundle.Style

/-- Declarations, the important ones apart. -/
structure Block where
  normal : List Declaration
  important : List Declaration
deriving Inhabited

/-- What is collected of a block. -/
structure Gathering where
  /-- The slots of the families, in their order. -/
  pending : List Slots
  /-- The declarations that have their place. -/
  done : List Declaration
  /-- The direction of text, which nothing else sets. -/
  direction : Option Declaration
  /-- How text of other directions is embedded, which nothing else sets. -/
  embedding : Option Declaration

namespace Gathering

/-- Nothing is collected. -/
def empty : Gathering := ⟨families.map fun _ => [], [], none, none⟩

/-- Puts a declaration behind the others. -/
def push (g : Gathering) (d : Declaration) : Gathering := { g with done := g.done ++ [d] }

/-- Writes what is pending in a family. -/
def flush (g : Gathering) (index : Nat) : Gathering :=
  match families[index]?, g.pending[index]? with
  | some family, some slots =>
    { g with done := g.done ++ family.write slots, pending := g.pending.set index [] }
  | _, _ => g

/-! ## Families -/

/-- The values for the slots that a property fills. -/
def filling (family : Family) (base : String) (parts : List Value) : List (String × Value) :=
  if family.longhands.contains base then [(base, Value.ofItems parts)]
  else (family.targets base).filterMap fun (name, i) => parts[i]?.map (name, ·)

/-- Whether the pending slots have to be written before others are filled: where the old value would
be lost for browsers that need it, where prefixes differ with the value, and where sides by the page
and sides by the direction of text meet. -/
def conflicts (family : Family) (slots : Slots) (base : String) (vendors : List Vendor)
    (filled : List (String × Value)) : Bool :=
  filled.any (fun (name, value) =>
    match slots.slot? name with
    | some old =>
      !value.isCommon || (old.value != value && !old.vendors.any vendors.contains)
    | none => false) ||
  (!family.resets.contains base && slots.any fun s => filled.any fun (name, _) =>
    family.flowRelative.contains s.name != family.flowRelative.contains name)

/-- Fills slots of a family. -/
def fill (g : Gathering) (index : Nat) (family : Family) (p : Property) (parts : List Value) :
    Gathering :=
  let filled := filling family p.base parts
  let g := if conflicts family ((g.pending[index]?).getD []) p.base p.vendors filled then
    g.flush index else g
  let old := (g.pending[index]?).getD []
  let slots := if family.resets.contains p.base then
    old.filter fun s => filled.any (·.1 == s.name) else old
  let slots := filled.foldl (fun slots (name, value) => Slots.put slots name value p.vendors) slots
  { g with pending := g.pending.set index slots }

/-! ## Other properties -/

/-- The properties of which the last declaration stands in the place of the first. -/
def settled : List String := [
  "color", "text-shadow", "filter", "backdrop-filter", "fill", "stroke", "caret-color", "caret",
  "transform-origin", "transform-style", "backface-visibility", "perspective",
  "perspective-origin", "box-sizing", "tab-size", "hyphens", "text-align-last",
  "text-decoration-skip-ink", "text-overflow", "user-select", "appearance", "clip-path",
  "box-decoration-break", "text-size-adjust", "print-color-adjust"]

/-- The property of a declaration, if it is a known one. -/
def propertyOf? : Declaration → Option Property
  | .known p _ => some p
  | .kept p _ => some p
  | .custom .. => none

/-- The declaration under other prefixes. -/
def withVendors (vendors : List Vendor) : Declaration → Declaration
  | .known p parts => .known { p with vendors := vendors } parts
  | .kept p value => .kept { p with vendors := vendors } value
  | d => d

/-- Replaces the last of some declarations that may be updated. -/
def updateLast (update : Declaration → Option Declaration) :
    List Declaration → Option (List Declaration)
  | [] => none
  | d :: ds =>
    match updateLast update ds with
    | some ds => some (d :: ds)
    | none => (update d).map (· :: ds)

/-- Declares a property of which one declaration is kept: a new one takes the place of an old one
that has the same prefix or the same value. -/
def settle (g : Gathering) (p : Property) (d : Declaration) : Gathering :=
  let vendors := Property.written p.base p.vendors
  let update (old : Declaration) : Option Declaration :=
    match propertyOf? old with
    | some q =>
      if q.base = p.base ∧
          (q.vendors.any p.vendors.contains || old.valueText 0 == d.valueText 0) = true then
        some (withVendors (Vendor.union q.vendors vendors) d)
      else none
    | none => none
  match updateLast update g.done with
  | some done => { g with done := done }
  | none => g.push (withVendors vendors d)

/-- Declares a property that an author has defined; there is one declaration of each. -/
def define (g : Gathering) (name : String) (d : Declaration) : Gathering :=
  let update : Declaration → Option Declaration
    | .custom name' _ => if name' = name then some d else none
    | _ => none
  match updateLast update g.done with
  | some done => { g with done := done }
  | none => g.push d

/-- Resets all properties but the direction of text and those that authors have defined. -/
def reset (g : Gathering) (d : Declaration) : Gathering :=
  { empty with
    done := (g.done.filter fun
      | .custom name _ => Text.hasPrefix "--" name
      | _ => false) ++ [d]
    direction := g.direction
    embedding := g.embedding }

/-- The place of the family of sizes. Values that are kept as they are do not pass it. -/
def sizeIndex : Nat := (families.findIdx? (·.owns "width")).getD 0

/-- Adds a declaration. -/
def add (g : Gathering) (d : Declaration) : Gathering :=
  match d with
  | .custom name _ => if Text.hasPrefix "--" name then g.define name d else g.push d
  | .known p parts =>
    if p.base = "all" then g.reset d
    else if p.base = "direction" then { g with direction := some d }
    else if p.base = "unicode-bidi" then { g with embedding := some d }
    else
      match families.findIdx? (·.owns p.base) with
      | some index =>
        match families[index]? with
        | some family => g.fill index family p parts
        | none => g.push d
      | none => if settled.contains p.base then g.settle p d else g.push d
  | .kept p _ =>
    let index? := families.findIdx? (·.owns p.base)
    let g := match index? with
      | some index => if index < sizeIndex then g else g.flush sizeIndex
      | none => g.flush sizeIndex
    match index? with
    | some index => (g.flush index).push (withVendors (Property.written p.base p.vendors) d)
    | none =>
      if settled.contains p.base then g.settle p d
      else g.push (withVendors (Property.written p.base p.vendors) d)

/-- The declarations of all that is collected. -/
def finish (g : Gathering) : List Declaration :=
  let g := { g with done := g.done ++ g.direction.toList ++ g.embedding.toList }
  ((List.range families.length).foldl flush g).done

/-- Gathers declarations. -/
def ofDeclarations (ds : List Declaration) : List Declaration := (ds.foldl add empty).finish

end Gathering

namespace Block

/-- No declarations. -/
def empty : Block := ⟨[], []⟩

/-- Whether there are no declarations. -/
def isEmpty (b : Block) : Bool := b.normal.isEmpty && b.important.isEmpty

/-- A block with one more declaration. -/
def add (b : Block) (d : Declaration) (important : Bool) : Block :=
  if important then { b with important := b.important ++ [d] }
  else { b with normal := b.normal ++ [d] }

/-- The declarations of two blocks. -/
def append (a b : Block) : Block := ⟨a.normal ++ b.normal, a.important ++ b.important⟩

/-- The block in its shortest form. -/
def gathered (b : Block) : Block :=
  ⟨Gathering.ofDeclarations b.normal, Gathering.ofDeclarations b.important⟩

/-- The lines of a block, without the semicolons at their ends. -/
def lines (indent : Nat) (b : Block) : List String :=
  b.normal.flatMap (·.lines indent false) ++ b.important.flatMap (·.lines indent true)

/-- Whether two blocks are written in the same way. -/
def same (a b : Block) : Bool := a.lines 0 == b.lines 0

instance : BEq Block := ⟨same⟩

end Block

end LiveBundle.Style
