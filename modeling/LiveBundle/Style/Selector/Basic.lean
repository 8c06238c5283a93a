/-!
# Selectors

A selector is a row of components: tests of one element, and between them the combinators that lead
from one element to the next. Lists of selectors occur again inside some tests.

* `Specificity` ranks selectors.
* `Component.isSupported` says whether every target browser knows a component; selectors of which
  all components are known may share a rule.
-/

namespace LiveBundle.Style

/-- How to get from one element to the next. -/
inductive Combinator where
  | descendant
  | child
  | nextSibling
  | laterSibling
deriving DecidableEq, Repr

/-- How the value of an attribute is compared with letters of the other case. -/
inductive CaseRule where
  | default
  | insensitive
  | sensitive
deriving DecidableEq, Repr

/-- The tests of an element's place among its siblings. -/
inductive Place where
  | child
  | lastChild
  | ofType
  | lastOfType
deriving DecidableEq, Repr

/-- The tests that hold a list of selectors. -/
inductive Choice where
  | matching
  | whereMatching
  | excluding
  | having
  | host
  | slotted
  | cue
  | cueRegion
  /-- An older form of `matching`, with its prefix. -/
  | any (vendor : String)
deriving DecidableEq, Repr

/-- A component of a selector. -/
inductive Component where
  | combinator (c : Combinator)
  /-- The namespace of the type that follows: empty, a name, or `*`. -/
  | inNamespace (name : String)
  | type (name : String)
  | universal
  | id (name : String)
  | className (name : String)
  /-- The element that the surrounding rule selects. -/
  | nesting
  | hasAttribute (name : String)
  | testAttribute (name : String) (operator : String) (value : String) (caseRule : CaseRule)
  /-- The places `a · n + b`, counted among the elements that one of the selectors matches. -/
  | nth (place : Place) (a b : Int) (among : List (List Component))
  /-- A state or place with a name. -/
  | state (name : String)
  /-- A state with arguments, as written. -/
  | stateCall (name : String) (arguments : List String)
  | choice (kind : Choice) (selectors : List (List Component))
  /-- A part of the element that is no element itself. -/
  | part (name : String)
  | partCall (name : String) (arguments : String)
deriving Repr, Inhabited

/-- A selector. -/
abbrev Selector := List Component

namespace Component

mutual

/-- Equality. -/
def same : Component → Component → Bool
  | combinator a, combinator b => a == b
  | inNamespace a, inNamespace b => a == b
  | type a, type b => a == b
  | universal, universal => true
  | id a, id b => a == b
  | className a, className b => a == b
  | nesting, nesting => true
  | hasAttribute a, hasAttribute b => a == b
  | testAttribute n o v c, testAttribute n' o' v' c' => n == n' && o == o' && v == v' && c == c'
  | nth p a b among, nth p' a' b' among' =>
    p == p' && a == a' && b == b' && sameLists among among'
  | state a, state b => a == b
  | stateCall n a, stateCall n' a' => n == n' && a == a'
  | choice k ss, choice k' ss' => k == k' && sameLists ss ss'
  | part a, part b => a == b
  | partCall n a, partCall n' a' => n == n' && a == a'
  | _, _ => false

/-- Equality of selectors. -/
def sameList : List Component → List Component → Bool
  | [], [] => true
  | a :: as, b :: bs => same a b && sameList as bs
  | _, _ => false

/-- Equality of lists of selectors. -/
def sameLists : List (List Component) → List (List Component) → Bool
  | [], [] => true
  | a :: as, b :: bs => sameList a b && sameLists as bs
  | _, _ => false

end

instance : BEq Component := ⟨same⟩

/-- Whether it leads to another element. -/
def isCombinator : Component → Bool
  | combinator _ => true
  | _ => false

/-- The parts that are known; they end the selector they stand in. -/
def knownParts : List String := [
  "before", "after", "first-line", "first-letter", "cue", "cue-region", "selection",
  "-moz-selection", "placeholder", "-webkit-input-placeholder", "-moz-placeholder",
  "-ms-input-placeholder", "marker", "backdrop", "-webkit-backdrop", "file-selector-button",
  "-webkit-file-upload-button", "-ms-browse", "grammar-error", "spelling-error", "target-text",
  "search-text", "details-content", "-webkit-scrollbar", "-webkit-scrollbar-button",
  "-webkit-scrollbar-track", "-webkit-scrollbar-track-piece", "-webkit-scrollbar-thumb",
  "-webkit-scrollbar-corner", "-webkit-resizer", "view-transition", "picker-icon", "checkmark"]

/-- Whether it is a part of a known kind. -/
def isKnownPart : Component → Bool
  | part name => knownParts.contains name
  | partCall .. => true
  | choice .slotted _ => true
  | choice .cue _ => true
  | choice .cueRegion _ => true
  | _ => false

/-- Whether it is a part of an element. -/
def isPart : Component → Bool
  | part _ => true
  | c => c.isKnownPart

/-- Whether it names the type of an element. -/
def isType : Component → Bool
  | type _ => true
  | universal => true
  | _ => false

end Component

namespace Selector

/-- Whether the selector starts with the type of an element. -/
def startsWithType : Selector → Bool
  | .inNamespace _ :: c :: _ => c.isType
  | c :: _ => c.isType
  | [] => false

/-- Whether the selector tests one element only. -/
def isCompound (s : Selector) : Bool :=
  s.all fun c => !c.isCombinator && !c.isKnownPart

/-- Whether the selector selects a part of an element. -/
def hasPart (s : Selector) : Bool := s.any Component.isPart

end Selector

/-! ## Specificity -/

/-- The rank of a selector: identifiers first, then classes, then types. -/
structure Specificity where
  ids : Nat
  classes : Nat
  types : Nat
deriving DecidableEq, Repr

namespace Specificity

/-- The ranks of two parts of a selector together. -/
def add (a b : Specificity) : Specificity :=
  ⟨a.ids + b.ids, a.classes + b.classes, a.types + b.types⟩

/-- The rank of nothing. -/
def none : Specificity := ⟨0, 0, 0⟩

/-- Whether the first rank is lower. -/
def less (a b : Specificity) : Bool :=
  a.ids < b.ids || (a.ids == b.ids && (a.classes < b.classes ||
    (a.classes == b.classes && a.types < b.types)))

/-- The higher rank. -/
def max (a b : Specificity) : Specificity := if less a b then b else a

end Specificity

mutual

/-- The rank of a component. -/
def Component.specificity : Component → Specificity
  | .id _ => ⟨1, 0, 0⟩
  | .className _ => ⟨0, 1, 0⟩
  | .hasAttribute _ => ⟨0, 1, 0⟩
  | .testAttribute .. => ⟨0, 1, 0⟩
  | .state _ => ⟨0, 1, 0⟩
  | .stateCall .. => ⟨0, 1, 0⟩
  | .nth _ _ _ among => (Specificity.mk 0 1 0).add (highestOf among)
  | .type _ => ⟨0, 0, 1⟩
  | .part _ => ⟨0, 0, 1⟩
  | .partCall .. => ⟨0, 0, 1⟩
  | .choice kind selectors =>
    match kind with
    | .whereMatching => .none
    | .slotted => (Specificity.mk 0 0 1).add (highestOf selectors)
    | .cue => ⟨0, 0, 1⟩
    | .cueRegion => ⟨0, 0, 1⟩
    | .host => (Specificity.mk 0 1 0).add (highestOf selectors)
    | _ => highestOf selectors
  | _ => .none

/-- The rank of a selector. -/
def specificityOf : List Component → Specificity
  | [] => .none
  | c :: cs => c.specificity.add (specificityOf cs)

/-- The highest rank of some selectors. -/
def highestOf : List (List Component) → Specificity
  | [] => .none
  | s :: ss => (specificityOf s).max (highestOf ss)

end

/-! ## Support -/

namespace Component

/-- The states that every target browser knows. -/
def supportedStates : List String := [
  "link", "visited", "active", "hover", "focus", "checked", "disabled", "enabled", "target",
  "any-link", "indeterminate", "focus-within", "default", "optional", "placeholder-shown",
  "read-only", "read-write", "valid", "invalid", "required", "in-range", "out-of-range",
  "first-child", "last-child", "only-child", "first-of-type", "last-of-type", "only-of-type",
  "root", "empty", "scope", "host"]

/-- The parts that every target browser knows. -/
def supportedParts : List String := [
  "after", "before", "first-line", "first-letter", "selection", "placeholder", "marker", "cue"]

mutual

/-- Whether every target browser knows the component. A list that skips what is unknown needs no
further look, unless its only selector is written without it. -/
def isSupported : Component → Bool
  | state name => supportedStates.contains name
  | stateCall name _ => name == "lang"
  | nth _ _ _ among => among.isEmpty
  | choice kind selectors =>
    match kind with
    | .matching => true
    | .whereMatching => true
    | .excluding => areAllSupported selectors
    | .host => true
    | .slotted => true
    | _ => false
  | part name => supportedParts.contains name
  | partCall name _ => name == "part"
  | _ => true

/-- Whether every target browser knows all components. -/
def areSupported : List Component → Bool
  | [] => true
  | c :: cs => c.isSupported && areSupported cs

/-- Whether every target browser knows all components of some selectors. -/
def areAllSupported : List (List Component) → Bool
  | [] => true
  | s :: ss => areSupported s && areAllSupported ss

end

end Component

/-- Whether every target browser knows the selector. -/
def Selector.isSupported (s : Selector) : Bool := Component.areSupported s

end LiveBundle.Style
