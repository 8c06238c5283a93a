import LiveBundle.Style.Block
import LiveBundle.Style.Selector.Basic

/-!
# Rules

A style sheet is a list of rules. Style rules give declarations to selected elements and may hold
rules that are relative to them; groups put rules under a condition or into a layer; the others
define things that declarations refer to.
-/

namespace LiveBundle.Style

/-- What a group of rules depends on. -/
inductive Group where
  /-- A medium, a browser or a surrounding box. -/
  | condition
  /-- A medium that does not exist. -/
  | never
  /-- A layer, which may have a name. -/
  | layer (name : Option String)
  /-- Anything else. -/
  | other
deriving DecidableEq, Repr

/-- A rule. -/
inductive Rule where
  | style (selectors : List Selector) (block : Block) (inner : List Rule)
  /-- Declarations for the elements of the rule around. -/
  | bare (block : Block)
  | group (kind : Group) (header : String) (inner : List Rule)
  | keyframes (vendors : List Vendor) (name : String) (frames : List (String × Block))
  /-- A page, with the boxes in its margins. -/
  | page (header : String) (block : Block) (margins : List (String × Block))
  /-- A definition; of those that are `unique` by their header, the last one counts. -/
  | definition (header : String) (unique : Bool) (lines : List String)
  | imported (text : String) (layer : Option String)
  | namespaced (text : String)
  /-- The order of some layers. -/
  | layers (names : List String)
  /-- A rule that is kept as it stands. -/
  | verbatim (header : String) (block : Option String)
deriving Inhabited

namespace Rule

/-- Whether it is a rule that stands in a single line among others of its kind. -/
def isStatement : Rule → Bool
  | imported .. => true
  | namespaced _ => true
  | layers _ => true
  | _ => false

end Rule

end LiveBundle.Style
