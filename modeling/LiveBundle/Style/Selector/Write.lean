import LiveBundle.Style.Selector.Basic
import LiveBundle.Style.Written
import LiveBundle.Text.Basic

/-!
# Writing selectors

Selectors of nested rules are written with the surrounding selector in the place of `&`: directly if
there is one and it may stand there, else in `:is()`. A type has to come first in a compound, so
`&div` is written with the type in front.

* `Surroundings` are the selectors of the rule around, as written.
* `selectorText` writes one selector, `selectorListText` a list.
-/

namespace LiveBundle.Style

/-- The selectors of the rule around, each with its text. -/
structure Surroundings where
  selectors : List (Selector × String)

namespace Surroundings

/-- The surrounding element as text. `leading` says whether it starts its compound. -/
def text (s : Surroundings) (leading : Bool) : String :=
  match s.selectors with
  | [(selector, text)] =>
    if leading || (!selector.startsWithType && selector.isCompound) then text
    else ":is(" ++ text ++ ")"
  | all => ":is(" ++ Text.joinWith ", " (all.map (·.2)) ++ ")"

end Surroundings

/-- The surrounding element as text; at the top level that is the root of the scope. -/
def nestingText (around : Option Surroundings) (leading : Bool) : String :=
  match around with
  | some s => s.text leading
  | none => ":scope"

/-- A combinator with its blanks. -/
def Combinator.text : Combinator → String
  | .descendant => " "
  | .child => " > "
  | .nextSibling => " + "
  | .laterSibling => " ~ "

/-- The places `a · n + b`. -/
def placesText (a b : Int) : String :=
  let sign := if 0 ≤ b then "+" ++ toString b else toString b
  if b = 0 then
    if a = 0 then "0" else if a = 1 then "n" else if a = -1 then "-n" else toString a ++ "n"
  else if a = 2 ∧ b = 1 then "odd"
  else if a = 0 then toString b
  else if a = 1 then "n" ++ sign
  else if a = -1 then "-n" ++ sign
  else toString a ++ "n" ++ sign

/-- The name of a test of places. -/
def Place.text : Place → String
  | .child => ":nth-child"
  | .lastChild => ":nth-last-child"
  | .ofType => ":nth-of-type"
  | .lastOfType => ":nth-last-of-type"

/-- The name of a test with a list of selectors. -/
def Choice.text : Choice → String
  | .matching => ":is"
  | .whereMatching => ":where"
  | .excluding => ":not"
  | .having => ":has"
  | .host => ":host"
  | .slotted => "::slotted"
  | .cue => "::cue"
  | .cueRegion => "::cue-region"
  | .any vendor => ":" ++ vendor ++ "any"

/-- The end of an attribute test that sets the comparison of letters. -/
def CaseRule.text : CaseRule → String
  | .default => ""
  | .insensitive => " i"
  | .sensitive => " s"

/-- The parts that are written with one colon. -/
def oneColonParts : List String := ["before", "after", "first-line", "first-letter"]

/-- Whether a list of selectors is written without the test around it. -/
def unwraps : List Selector → Bool
  | [s] => !s.startsWithType && s.isCompound
  | _ => false

/-- Whether nothing more of the compound follows. -/
def endsCompound : List Component → Bool
  | [] => true
  | c :: _ => c.isCombinator

/-- A namespace in front of a type. -/
def namespaceText (name : String) : String :=
  (if name = "*" then "*" else identText name) ++ "|"

/-- The languages that are written from the right to the left. -/
def rightToLeft : List String := [
  "ae", "ar", "arc", "bcc", "bqi", "ckb", "dv", "fa", "glk", "he", "ku", "mzn", "nqo", "pnb",
  "ps", "sd", "ug", "ur", "yi"]

/-- Tests for one language each. -/
def languageTests (languages : List String) : String :=
  Text.joinWith ", " (languages.map fun l => ":lang(" ++ l ++ ")")

/-- A state with arguments. Not every target browser knows the direction of text as a state, nor
several languages in one test. -/
def stateCallText (name : String) (arguments : List String) : String :=
  match name, arguments with
  | "dir", ["ltr"] => ":not(" ++ languageTests rightToLeft ++ ")"
  | "dir", _ => ":is(" ++ languageTests rightToLeft ++ ")"
  | "lang", _ :: _ :: _ => ":is(" ++ languageTests arguments ++ ")"
  | name, arguments => ":" ++ name ++ "(" ++ Text.joinWith ", " arguments ++ ")"

mutual

/-- One component as text. -/
def componentText (around : Option Surroundings) : Component → String
  | .combinator c => c.text
  | .inNamespace name => namespaceText name
  | .type name => identText name
  | .universal => "*"
  | .id name => "#" ++ identText name
  | .className name => "." ++ identText name
  | .nesting => nestingText around false
  | .hasAttribute name => "[" ++ name ++ "]"
  | .testAttribute name operator value caseRule =>
    "[" ++ name ++ operator ++ quoted value ++ caseRule.text ++ "]"
  | .nth place a b among =>
    place.text ++ "(" ++ placesText a b ++
      (if among.isEmpty then "" else " of " ++ selectorsText around among) ++ ")"
  | .state name => ":" ++ name
  | .stateCall name arguments => stateCallText name arguments
  | .choice kind selectors =>
    if kind = .matching ∧ unwraps selectors = true then selectorsText around selectors
    else kind.text ++ "(" ++ selectorsText around selectors ++ ")"
  | .part name => (if oneColonParts.contains name then ":" else "::") ++ name
  | .partCall name arguments => "::" ++ name ++ "(" ++ arguments ++ ")"

/-- The components from the first compound on; there may be a combinator in front of it. -/
def firstText (around : Option Surroundings) : List Component → String
  | [] => ""
  | .combinator c :: cs => c.text ++ firstText around cs
  | .nesting :: .inNamespace ns :: t :: cs =>
    let type := namespaceText ns ++ componentText around t
    (if t.isType then type ++ nestingText around false else nestingText around true ++ type) ++
      componentsText around cs
  | .nesting :: .type name :: cs =>
    identText name ++ nestingText around false ++ componentsText around cs
  | .nesting :: .universal :: cs =>
    (if endsCompound cs then "*" ++ nestingText around false
      else nestingText around true) ++ componentsText around cs
  | .nesting :: cs => nestingText around true ++ componentsText around cs
  | .universal :: cs =>
    (if endsCompound cs then "*" else "") ++ componentsText around cs
  | c :: cs => componentText around c ++ componentsText around cs

/-- The components from a later compound on. -/
def laterText (around : Option Surroundings) : List Component → String
  | [] => ""
  | .universal :: cs =>
    (if endsCompound cs then "*" else "") ++ componentsText around cs
  | c :: cs => componentText around c ++ componentsText around cs

/-- The components from a place inside a compound on. -/
def componentsText (around : Option Surroundings) : List Component → String
  | [] => ""
  | .combinator c :: cs => c.text ++ laterText around cs
  | c :: cs => componentText around c ++ componentsText around cs

/-- Selectors with commas between them. -/
def selectorsText (around : Option Surroundings) : List (List Component) → String
  | [] => ""
  | [s] => firstText around s
  | s :: ss => firstText around s ++ ", " ++ selectorsText around ss

end

/-- A selector as text. -/
def selectorText (around : Option Surroundings) (s : Selector) : String := firstText around s

/-- A list of selectors as text. -/
def selectorListText (around : Option Surroundings) (ss : List Selector) : String :=
  Text.joinWith ", " (ss.map (selectorText around))

/-- The selectors of a rule as surroundings of the rules in it. -/
def Surroundings.of (around : Option Surroundings) (ss : List Selector) : Surroundings :=
  ⟨ss.map fun s => (s, selectorText around s)⟩

end LiveBundle.Style
