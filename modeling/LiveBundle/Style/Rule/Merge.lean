import LiveBundle.Style.Rule.Basic

/-!
# Merging rules

Makes a list of rules shorter without changing what it says. Neighbours with the same selectors or
the same declarations become one rule, a rule hides an earlier one that declares the same for the
same elements, groups under one condition and layers of one name are joined, and what is empty
vanishes. A list of selectors of which some browser refuses one is taken apart, as the whole list
would be lost there.

* `Rule.merged` merges the rules of a sheet.
-/

namespace LiveBundle.Style

namespace Rule

/-! ## Style rules -/

/-- Whether every target browser knows all selectors. -/
def areSupported (selectors : List Selector) : Bool := selectors.all Selector.isSupported

/-- Two neighbouring rules as one: those for the same elements take all declarations, those with
the same declarations take all selectors. -/
def fuse? : Rule → Rule → Option Rule
  | .style ss a [], .style ts b [] =>
    if areSupported ss && areSupported ts then
      if ss == ts then some (.style ss (a.append b).gathered [])
      else if a == b then some (.style (ss ++ ts) a [])
      else none
    else none
  | _, _ => none

/-- What a rule is about: its selectors and the names that it declares. -/
structure Subject where
  selectors : List Selector
  names : List (List String × Bool)

namespace Subject

/-- Whether two rules are about the same. -/
def same (a b : Subject) : Bool := a.selectors == b.selectors && a.names == b.names

instance : BEq Subject := ⟨same⟩

/-- What a rule without inner rules is about. -/
def of? : Rule → Option Subject
  | .style selectors block [] =>
    some ⟨selectors, block.normal.map (fun d => (d.names, false)) ++
      block.important.map (fun d => (d.names, true))⟩
  | _ => none

end Subject

/-- The rules for a list of selectors: the rule itself, and rules of their own for selectors that
some browser refuses. Where all selectors weigh the same, one forgiving list is enough. -/
def split (selectors : List Selector) : List Selector × List Selector :=
  if selectors.length ≤ 1 || areSupported selectors then (selectors, [])
  else if !selectors.any Selector.hasPart &&
      ((selectors.map specificityOf).eraseDups.length == 1) then
    ([[.choice .matching selectors]], [])
  else (selectors.filter Selector.isSupported, selectors.filter (!Selector.isSupported ·))

/-! ## Merging -/

/-- What has been merged so far. -/
structure Merging where
  /-- The rules, the last one first; nothing stands for a rule that a later one hides. -/
  kept : List (Option Rule)
  /-- What some rules are about, with their places. -/
  subjects : List (Subject × Nat)
  /-- The places of rules with a name that only one rule has. -/
  named : List (String × Nat)
  /-- The places of layers. -/
  layerPlaces : List (String × Nat)

namespace Merging

/-- Nothing is merged. -/
def empty : Merging := ⟨[], [], [], []⟩

/-- The place of the next rule. -/
def next (m : Merging) : Nat := m.kept.length

/-- Puts a rule at the end. -/
def push (m : Merging) (r : Rule) : Merging := { m with kept := some r :: m.kept }

/-- The rule at a place. -/
def at? (m : Merging) (place : Nat) : Option Rule :=
  if place < m.kept.length then (m.kept[m.kept.length - 1 - place]?).join else none

/-- Changes the rule at a place. -/
def setAt (m : Merging) (place : Nat) (r : Option Rule) : Merging :=
  { m with kept := m.kept.set (m.kept.length - 1 - place) r }

/-- Fuses a rule with those at the end as long as that is possible. -/
def absorb (r : Rule) : List (Option Rule) → List (Option Rule)
  | some last :: rest =>
    match fuse? last r with
    | some fused => absorb fused rest
    | none => some r :: some last :: rest
  | kept => some r :: kept

/-- Puts a style rule at the end. A rule about the same that has not changed since is hidden. -/
def pushStyle (m : Merging) (r : Rule) : Merging :=
  match Subject.of? r with
  | none => m.push r
  | some subject =>
    let place := m.next
    let m := m.push r
    let hidden := m.subjects.find? fun (s, i) =>
      s == subject && (((m.at? i).bind Subject.of?).map (· == subject)).getD false
    let m := match hidden with
      | some (_, i) => m.setAt i none
      | none => m
    { m with subjects := (subject, place) :: m.subjects.filter fun (s, _) => !(s == subject) }

/-- Adds a style rule of which the declarations are gathered and the inner rules merged. -/
def addStyle (m : Merging) (selectors : List Selector) (block : Block) (inner : List Rule) :
    Merging :=
  let (main, apart) := split selectors
  let splitsInner := !inner.isEmpty && !main.isEmpty && !apart.isEmpty
  let r : Rule := .style main block (if splitsInner then [] else inner)
  let isEmpty := main.isEmpty || (block.isEmpty && (inner.isEmpty || splitsInner))
  let fused? := match m.kept with
    | some last :: rest => (fuse? last r).map fun fused => absorb fused rest
    | _ => none
  let m := match fused? with
    | some kept => { m with kept }
    | none => if isEmpty then m else m.pushStyle r
  let m := apart.foldl (fun m s =>
    if block.isEmpty && inner.isEmpty then m else m.push (.style [s] block inner)) m
  if splitsInner then m.push (.style main Block.empty inner) else m

/-- Adds a group. One under the condition of the group at the end is joined with it. -/
def addGroup (m : Merging) (merge : List Rule → List Rule) (header : String)
    (rules : List Rule) : Merging :=
  let joined? := match m.kept with
    | some (.group .condition header' before) :: rest =>
      if header' = header then
        some (some (.group .condition header (merge (before ++ rules))) :: rest)
      else none
    | _ => none
  match joined? with
  | some kept => { m with kept }
  | none =>
    let rules := merge rules
    if rules.isEmpty then m else m.push (.group .condition header rules)

/-- Adds rules to a layer; all rules of a layer stand where it is named first. -/
def addLayer (m : Merging) (name : String) (rules : List Rule) : Merging :=
  match m.layerPlaces.lookup name with
  | some place =>
    match m.at? place with
    | some (.group kind header before) =>
      m.setAt place (some (.group kind header (before ++ rules)))
    | _ => m
  | none =>
    let m := { m with layerPlaces := (name, m.next) :: m.layerPlaces }
    m.push (.group (.layer (some name)) ("@layer " ++ name) rules)

/-- Whether two animations have the same frames. -/
def sameFrames (a b : List (String × Block)) : Bool := a == b

/-- Adds an animation. It replaces one of the same name and prefix, and takes the prefix of one with
the same frames. -/
def addKeyframes (m : Merging) (vendors : List Vendor) (name : String)
    (frames : List (String × Block)) : Merging :=
  let key := "@keyframes " ++ name
  let add (m : Merging) : Merging :=
    { m.push (.keyframes vendors name frames) with named := (key, m.next) :: m.named }
  match m.named.lookup key with
  | some place =>
    match m.at? place with
    | some (.keyframes vendors' _ frames') =>
      if vendors' = vendors then m.setAt place (some (.keyframes vendors name frames))
      else if sameFrames frames' frames then
        let all := Vendor.union vendors' vendors
        m.setAt place (some (.keyframes (if all.contains .nobody then [.nobody] else all) name
          frames))
      else add m
    | _ => add m
  | none => add m

/-- Adds a definition of which the last one counts. -/
def addUnique (m : Merging) (header : String) (r : Rule) : Merging :=
  match m.named.lookup header with
  | some place => m.setAt place (some r)
  | none => { m.push r with named := (header, m.next) :: m.named }

/-- Adds a rule. `merge` merges inner rules. -/
def add (merge : List Rule → List Rule) (m : Merging) : Rule → Merging
  | .style selectors block inner => m.addStyle selectors block.gathered (merge inner)
  | .bare block => m.push (.bare block.gathered)
  | .group .never _ _ => m
  | .group .condition header rules => m.addGroup merge header rules
  | .group (.layer (some name)) _ rules => m.addLayer name rules
  | .group (.layer none) header rules => m.push (.group (.layer none) header rules)
  | .group .other header rules =>
    let rules := merge rules
    if rules.isEmpty && header == "@starting-style" then m
    else m.push (.group .other header rules)
  | .keyframes vendors name frames =>
    m.addKeyframes vendors name (frames.map fun (points, block) => (points, block.gathered))
  | .definition header unique lines =>
    if unique then m.addUnique header (.definition header unique lines)
    else m.push (.definition header unique lines)
  | .imported text layer => { m.push (.imported text layer) with layerPlaces := [] }
  | .layers names =>
    names.foldl (fun m name =>
      if (m.layerPlaces.lookup name).isSome then m else m.addLayer name []) m
  | r => m.push r

end Merging

/-! ## Layers -/

/-- What is known of the layers so far. -/
structure LayerOrder where
  /-- The rules, the last one first. -/
  kept : List Rule
  /-- The empty layers that have been named. -/
  declared : List String
  /-- Whether an order of layers may take further names, and how many rules stand behind it. -/
  open? : Option Nat

namespace LayerOrder

/-- Puts a rule at the end. -/
def push (o : LayerOrder) (r : Rule) : LayerOrder :=
  { o with kept := r :: o.kept, open? := o.open?.map (· + 1) }

/-- Names an empty layer: in the last order of layers if it may take names, else in a new one. -/
def declare (o : LayerOrder) (name : String) : LayerOrder :=
  if o.declared.contains name then o
  else
    let o := { o with declared := name :: o.declared }
    match o.open? with
    | some i =>
      match o.kept[i]? with
      | some (.layers names) => { o with kept := o.kept.set i (.layers (names ++ [name])) }
      | _ => o
    | none => { o with kept := .layers [name] :: o.kept, open? := some 0 }

/-- Adds a rule. An empty layer is only named; where it would change the order of layers, the names
behind it go into an order of their own. -/
def add (merge : List Rule → List Rule) (o : LayerOrder) : Rule → LayerOrder
  | .group (.layer name) header rules =>
    let rules := merge rules
    if rules.isEmpty then
      match name with
      | some name => o.declare name
      | none => o
    else { o.push (.group (.layer name) header rules) with open? := none }
  | .imported text layer =>
    let o := o.push (.imported text layer)
    match layer with
    | some name => { o with declared := name :: o.declared, open? := none }
    | none => o
  | r => o.push r

end LayerOrder

/-! ## All rules -/

/-- The rules in their shortest form. The first argument bounds the depth of rules in rules. -/
def mergedTo : Nat → List Rule → List Rule
  | 0, rules => rules
  | depth + 1, rules =>
    let merge := mergedTo depth
    let kept := (rules.foldl (Merging.add merge) .empty).kept.reverse.filterMap id
    (kept.foldl (LayerOrder.add merge) ⟨[], [], none⟩).kept.reverse

mutual

/-- The depth of rules in a rule. -/
def depth : Rule → Nat
  | .style _ _ inner => depthOf inner + 1
  | .group _ _ inner => depthOf inner + 1
  | _ => 1

/-- The depth of rules in some rules. -/
def depthOf : List Rule → Nat
  | [] => 0
  | r :: rs => max (depth r) (depthOf rs)

end

/-- The rules in their shortest form. -/
def merged (rules : List Rule) : List Rule := mergedTo (depthOf rules) rules

end Rule

end LiveBundle.Style
