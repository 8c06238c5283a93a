import LiveBundle.Style.Grammar.Box
import LiveBundle.Style.Grammar.Effects
import LiveBundle.Style.Grammar.Layout
import LiveBundle.Style.Grammar.Motion
import LiveBundle.Style.Grammar.Text

/-!
# Properties

A property has a name and the prefixes of the vendors under which it is declared. Where a target
browser knows a property only with a prefix, the declaration without one stands for both.

* `Property.ofName?` finds the known property with a name.
* `Property.form?` is its form, `Property.names` are the names under which it is written.
-/

namespace LiveBundle.Style

/-- Whose name stands in front of a property. -/
inductive Vendor where
  | webkit
  | moz
  | ms
  | o
  /-- Nobody's. -/
  | nobody
deriving DecidableEq, Repr

namespace Vendor

/-- What is written in front of the name. -/
def mark : Vendor → String
  | webkit => "-webkit-"
  | moz => "-moz-"
  | ms => "-ms-"
  | o => "-o-"
  | nobody => ""

/-- All of them, in the order in which they are written. -/
def all : List Vendor := [webkit, moz, ms, o, nobody]

/-- The union of two sets. -/
def union (a b : List Vendor) : List Vendor := all.filter fun v => a.contains v || b.contains v

end Vendor

/-- A known property. -/
structure Property where
  /-- The name without prefix, in lower case. -/
  base : String
  /-- The prefixes under which it is declared. -/
  vendors : List Vendor
deriving DecidableEq, Repr

namespace Property

/-- The forms of all properties that have one. -/
def forms : Form.Table :=
  Grammar.boxForms ++ Grammar.textForms ++ Grammar.layoutForms ++ Grammar.motionForms ++
    Grammar.effectForms ++ Grammar.maskForms ++
    [("all", .ofKeywords ["initial", "inherit", "unset", "revert", "revert-layer"])]

/-- The properties whose values are kept as they are. -/
def formless : List String := [
  "grid", "grid-template", "text-emphasis", "text-emphasis-style", "text-emphasis-position",
  "caret", "composes", "mask-type", "mask-border", "mask-border-source", "mask-border-mode",
  "mask-border-slice", "mask-border-width", "mask-border-outset", "mask-border-repeat",
  "animation-composition", "animation-timeline", "animation-range", "animation-range-start",
  "animation-range-end", "view-transition-name", "view-transition-class",
  "view-transition-group"]

/-- The properties that may be declared with each prefix. -/
def prefixed : Vendor → List String
  | .webkit => [
    "box-shadow", "box-sizing", "background-clip", "border-radius", "border-top-left-radius",
    "border-top-right-radius", "border-bottom-left-radius", "border-bottom-right-radius",
    "border-image", "flex-direction", "flex-wrap", "flex-flow", "flex-grow", "flex-shrink",
    "flex-basis", "flex", "order", "align-content", "justify-content", "align-self",
    "align-items", "transition-property", "transition-duration", "transition-delay",
    "transition-timing-function", "transition", "animation-name", "animation-duration",
    "animation-timing-function", "animation-iteration-count", "animation-direction",
    "animation-play-state", "animation-delay", "animation-fill-mode", "animation", "transform",
    "transform-origin", "transform-style", "backface-visibility", "perspective",
    "perspective-origin", "hyphens", "text-decoration", "text-decoration-line",
    "text-decoration-style", "text-decoration-color", "text-decoration-skip-ink",
    "text-emphasis", "text-emphasis-style", "text-emphasis-color", "text-emphasis-position",
    "text-size-adjust", "box-decoration-break", "user-select", "appearance", "clip-path",
    "mask", "mask-image", "mask-repeat", "mask-position", "mask-clip", "mask-origin",
    "mask-size", "filter", "backdrop-filter", "print-color-adjust"]
  | .moz => [
    "box-shadow", "box-sizing", "background-clip", "border-radius", "border-top-left-radius",
    "border-top-right-radius", "border-bottom-left-radius", "border-bottom-right-radius",
    "border-image", "transition-property", "transition-duration", "transition-delay",
    "transition-timing-function", "transition", "animation-name", "animation-duration",
    "animation-timing-function", "animation-iteration-count", "animation-direction",
    "animation-play-state", "animation-delay", "animation-fill-mode", "animation", "transform",
    "transform-origin", "transform-style", "backface-visibility", "perspective",
    "perspective-origin", "tab-size", "hyphens", "text-align-last", "text-decoration",
    "text-decoration-line", "text-decoration-style", "text-decoration-color",
    "text-size-adjust", "user-select", "appearance"]
  | .ms => [
    "flex-direction", "flex-wrap", "flex-flow", "flex", "transition-property",
    "transition-duration", "transition-delay", "transition-timing-function", "transition",
    "transform", "transform-origin", "hyphens", "text-size-adjust", "user-select",
    "appearance"]
  | .o => [
    "border-image", "animation-name", "animation-duration", "animation-timing-function",
    "animation-iteration-count", "animation-direction", "animation-play-state",
    "animation-delay", "animation-fill-mode", "animation", "transform", "transform-origin",
    "tab-size", "text-overflow"]
  | .nobody => forms.map (·.1) ++ formless

/-- The properties that some target browser knows with the prefix `-webkit-` only. -/
def webkitOnly : List String := [
  "user-select", "appearance", "backdrop-filter", "hyphens", "box-decoration-break", "mask",
  "mask-image", "mask-repeat", "mask-position", "mask-clip", "mask-origin", "mask-size",
  "print-color-adjust", "text-decoration-line", "text-decoration-style",
  "text-decoration-color"]

/-- The prefixes that are needed for a declaration without one. -/
def neededFor (base : String) : List Vendor :=
  if webkitOnly.contains base then [.webkit, .nobody] else [.nobody]

/-- The prefixes to write for those declared. -/
def written (base : String) (vendors : List Vendor) : List Vendor :=
  if vendors.contains .nobody then neededFor base else vendors

/-- The known property with this name. -/
def ofName? (name : String) : Option Property :=
  let lower := Text.asciiLower name
  Vendor.all.findSome? fun v =>
    if Text.hasPrefix v.mark lower then
      let base := String.ofList (lower.toList.drop v.mark.length)
      if (prefixed v).contains base then some ⟨base, [v]⟩ else none
    else none

/-- How its values are read and written. -/
def form? (p : Property) : Option Form := forms.lookup p.base

/-- The names under which it is written. -/
def names (p : Property) : List String := p.vendors.map fun v => v.mark ++ p.base

end Property

end LiveBundle.Style
