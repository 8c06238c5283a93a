import LiveBundle.Style.Rule.Basic
import LiveBundle.Style.Selector.Write

/-!
# Writing rules

Writes a sheet line by line: two spaces for each block around, a blank line between rules. Not every
target browser knows rules inside style rules; they are written behind the rule around them, with
its selectors in theirs. States that some browser knows by a prefixed name only make a rule be
written twice.

* `Rule.sheetText` writes a sheet.
-/

namespace LiveBundle.Style

namespace Selector

/-- The states that some target browser knows by another name only. -/
def olderState? : String → Option String
  | "fullscreen" => some "-webkit-full-screen"
  | "autofill" => some "-webkit-autofill"
  | _ => none

mutual

/-- A component with the other names of states. -/
def olderComponent : Component → Component
  | .state name => .state ((olderState? name).getD name)
  | .choice kind selectors => .choice kind (olderLists selectors)
  | .nth place a b among => .nth place a b (olderLists among)
  | .combinator c => .combinator c
  | .inNamespace name => .inNamespace name
  | .type name => .type name
  | .universal => .universal
  | .id name => .id name
  | .className name => .className name
  | .nesting => .nesting
  | .hasAttribute name => .hasAttribute name
  | .testAttribute name operator value caseRule => .testAttribute name operator value caseRule
  | .stateCall name arguments => .stateCall name arguments
  | .part name => .part name
  | .partCall name arguments => .partCall name arguments

/-- Components with the other names of states. -/
def olderList : List Component → List Component
  | [] => []
  | c :: cs => olderComponent c :: olderList cs

/-- Selectors with the other names of states. -/
def olderLists : List (List Component) → List (List Component)
  | [] => []
  | s :: ss => olderList s :: olderLists ss

end

/-- The selectors of the rules to write for one rule. -/
def versions (selectors : List Selector) : List (List Selector) :=
  let older := selectors.map olderList
  if older == selectors then [selectors] else [older, selectors]

end Selector

namespace Rule

/-- A line behind some spaces. -/
def line (indent : Nat) (text : String) : String := Text.spaces indent ++ text

/-- A header with the lines of its block. -/
def blockLines (indent : Nat) (header : String) (inner : List String) : List String :=
  line indent (header ++ " \x7b") :: (inner ++ [line indent "\x7d"])

/-- The lines of declarations. -/
def declarationLines (indent : Nat) (block : Block) : List String :=
  (block.lines indent).map fun text => line indent (text ++ ";")

/-- A header with a block of declarations. -/
def declarationBlock (indent : Nat) (header : String) (block : Block) : List String :=
  blockLines indent header (declarationLines (indent + 2) block)

/-- Groups of lines with blank lines between them. -/
def spaced : List (List String) → List String
  | [] => []
  | [lines] => lines
  | lines :: more => lines ++ "" :: spaced more

/-- The frames of an animation, under one prefix. -/
def keyframeLines (indent : Nat) (name : String) (frames : List (String × Block))
    (vendor : Vendor) : List String :=
  blockLines indent ("@" ++ vendor.mark ++ "keyframes " ++ name)
    (spaced (frames.map fun (points, block) => declarationBlock (indent + 2) points block))

/-- The lines of a page. -/
def pageLines (indent : Nat) (header : String) (block : Block)
    (margins : List (String × Block)) : List String :=
  let declarations := declarationLines (indent + 2) block
  let boxes := spaced (margins.map fun (box, block) => declarationBlock (indent + 2) box block)
  blockLines indent header
    (declarations ++ (if declarations.isEmpty || boxes.isEmpty then [] else [""]) ++ boxes)

/-- The selectors around a rule: for the selectors in it, and as the header of a block. -/
structure Around where
  surroundings : Surroundings
  header : String

/-- Lines in the rule around them, if there is one. -/
def inSurroundings (indent : Nat) (around : Option Around) (inner : Nat → List String) :
    List String :=
  match around with
  | some a => blockLines indent a.header (inner (indent + 2))
  | none => inner indent

/-- Selectors as surroundings of other rules. -/
def Around.of (outer : Option Around) (selectors : List Selector) : Around :=
  let outer := outer.map (·.surroundings)
  ⟨Surroundings.of outer selectors, selectorListText outer selectors⟩

mutual

/-- The lines of a rule. -/
def lines (indent : Nat) (around : Option Around) : Rule → List String
  | .style selectors block inner =>
    spaced ((Selector.versions selectors).map fun version =>
      let a := Around.of around version
      let own := if block.isEmpty && !inner.isEmpty then []
        else declarationBlock indent a.header block
      let nested := listLines indent (some a) inner
      own ++ (if own.isEmpty || nested.isEmpty then [] else [""]) ++ nested)
  | .bare block =>
    match around with
    | some a => declarationBlock indent a.header block
    | none => declarationLines indent block
  | .group _ header inner => blockLines indent header (listLines (indent + 2) around inner)
  | .keyframes vendors name frames => spaced (vendors.map (keyframeLines indent name frames))
  | .page header block margins => pageLines indent header block margins
  | .definition header _ texts =>
    blockLines indent header (texts.map fun text => line (indent + 2) (text ++ ";"))
  | .imported text _ => [line indent (text ++ ";")]
  | .namespaced text => [line indent (text ++ ";")]
  | .layers names => [line indent ("@layer " ++ Text.joinWith ", " names ++ ";")]
  | .verbatim header block =>
    inSurroundings indent around fun indent =>
      match block with
      | some text => blockLines indent header [line (indent + 2) text]
      | none => [line indent (header ++ ";")]

/-- The lines of some rules, with blank lines between those that are no statements. -/
def listLines (indent : Nat) (around : Option Around) : List Rule → List String
  | [] => []
  | r :: rs =>
    let separator := match rs with
      | [] => []
      | s :: _ => if r.isStatement && s.isStatement then [] else [""]
    lines indent around r ++ separator ++ listLines indent around rs

end

/-- A sheet as text. -/
def sheetText (rules : List Rule) : String :=
  Text.concat ((listLines 0 none rules).map (· ++ "\n")) ++ if rules.isEmpty then "\n" else ""

end Rule

end LiveBundle.Style
