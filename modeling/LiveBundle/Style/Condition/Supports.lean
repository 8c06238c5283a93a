import LiveBundle.Style.Condition.Basic
import LiveBundle.Style.Property
import LiveBundle.Style.Verbatim

/-!
# Conditions on the browser

What a style sheet asks of the browser: whether it understands a declaration or a selector. A
declaration that needs a prefix somewhere is asked for with and without it.

* `Condition.ofSupport` reads a condition, `Condition.ofDeclaration` one without its brackets.
-/

namespace LiveBundle.Style

namespace Condition

/-- A declaration to ask for. -/
def ofDeclaration : Reader Condition := fun ps =>
  match skipBlank ps with
  | .token (.ident name) _ :: rest =>
    match skipBlank rest with
    | .token .colon _ :: value =>
      if areSound value then
        let text := sourceOf (skipBlank value)
        let (names, vendors) := match Property.ofName? name with
          | some p =>
            let vendors := Property.written p.base p.vendors
            ((Property.mk p.base vendors).names, vendors)
          | none => ([identText name], [.nobody])
        let tests := Text.joinWith ") or (" (names.map (· ++ ": " ++ text))
        some (verbatim ("(" ++ bracketed (vendors != [Vendor.nobody]) tests ++ ")"), [])
      else none
    | _ => none
  | _ => none

/-- The leaves of conditions on the browser. What has no known meaning is kept as it stands. -/
def supportLeaves : Leaves where
  leaf
    | .block .paren inner =>
      (Reader.whole ofDeclaration inner).or
        (if areSound inner then some (verbatim ("(" ++ sourceOf inner ++ ")")) else none)
    | .function name source inner =>
      if areSound inner then
        if Text.asciiLower name = "selector" then
          some (verbatim ("selector(" ++ sourceOf inner ++ ")"))
        else some (verbatim (source ++ sourceOf inner ++ ")"))
      else none
    | _ => none
  simplifies := false

/-- A condition on the browser. -/
def ofSupport : Reader Condition := read supportLeaves true

end Condition

end LiveBundle.Style
