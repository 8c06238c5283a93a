import LiveBundle.Style.Property
import LiveBundle.Style.Verbatim

/-!
# Declarations

A declaration gives a value to a property. The value of a known property is read into its parts; if
it does not have the form that is known, it is kept as it is, and so are the values of all other
properties. Only `all` has no other values than those of its form.

* `Declaration.read?` reads what stands behind the colon.
* `Declaration.lines` are the written declarations, one for each prefix.
-/

namespace LiveBundle.Style

/-- A declaration. -/
inductive Declaration where
  /-- A known property with the parts of its value. -/
  | known (property : Property) (parts : List Value)
  /-- A known property with another value. -/
  | kept (property : Property) (value : List Piece)
  /-- A property that an author or somebody else has defined. -/
  | custom (name : String) (value : List Piece)
deriving Repr, Inhabited

namespace Declaration

/-! ## Reading -/

/-- The pieces in front of the first one that ends a value. A block in curly brackets does so if
`stopsAtBlock` holds. -/
def splitAtEnd (stopsAtBlock : Bool) : List Piece → List Piece × List Piece
  | [] => ([], [])
  | p :: ps =>
    let ends := match p with
      | .token (.delim '!') _ => true
      | .block .curly _ => stopsAtBlock
      | _ => false
    if ends then ([], p :: ps)
    else
      let (value, rest) := splitAtEnd stopsAtBlock ps
      (p :: value, rest)

/-- The declaration of a property with a value. -/
def ofValue? (name : String) (value : List Piece) : Option Declaration :=
  match Property.ofName? name with
  | some property =>
    match property.form?.bind fun form => Reader.whole form.read value with
    | some parts => some (known property parts)
    | none => if property.base = "all" then none else (verbatim? value).map (kept property)
  | none => (verbatim? value).map (custom name)

/-- The mark of a declaration that wins over others. -/
def importantMark : Reader Unit := do
  Reader.delim '!'
  Reader.word "important"

/-- Reads what stands behind the colon; tells also whether the declaration is marked as important.
-/
def read? (name : String) (ps : List Piece) : Option (Declaration × Bool) :=
  let (value, rest) := splitAtEnd (!Text.hasPrefix "--" name) ps
  match ofValue? name value with
  | none => none
  | some d =>
    if (skipBlank rest).isEmpty then some (d, false)
    else (Reader.whole importantMark rest).map fun _ => (d, true)

/-! ## Writing -/

/-- The names under which it is written. -/
def names : Declaration → List String
  | known p _ => p.names
  | kept p _ => p.names
  | custom name _ => [identText name]

/-- The named areas of a grid, one row to a line; all lines start below the first one. -/
def areasText (indent : Nat) (rows : List Value) : String :=
  Text.joinWith ("\n" ++ Text.spaces (indent + "grid-template-areas: ".length))
    (rows.map Value.text)

/-- The value as text. -/
def valueText (indent : Nat) : Declaration → String
  | known p parts =>
    if p.base = "grid-template-areas" then areasText indent parts
    else
      match p.form? with
      | some form => (form.write parts).text
      | none => ""
  | kept _ value => verbatimText value
  | custom _ value => verbatimText value

/-- The written declarations. -/
def lines (indent : Nat) (important : Bool) (d : Declaration) : List String :=
  d.names.map fun name =>
    name ++ ": " ++ d.valueText indent ++ (if important then " !important" else "")

/-- Whether two declarations are written in the same way. -/
def same (a b : Declaration) : Bool := a.lines 0 false == b.lines 0 false

instance : BEq Declaration := ⟨same⟩

end Declaration

end LiveBundle.Style
