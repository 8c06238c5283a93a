import LiveBundle.Text.Search

/-!
# Props

A script declares a prop of its component by an exported `let` at the start of a line. Such
declarations lose the word that exports them, and their names are collected.
-/

namespace LiveBundle.Component

/-- The declaration of a prop: the blanks in front of it and the name. -/
structure PropDeclaration where
  indent : List Char
  name : List Char
deriving DecidableEq, Repr

namespace PropDeclaration

/-- The characters that start the name of a prop. -/
def isNameStart (c : Char) : Bool := c.isAlpha || c == '_' || c == '$'

/-- The characters that continue the name of a prop. -/
def isNamePart (c : Char) : Bool := Text.isWord c || c == '$'

/-- Finds declarations of props. -/
def pattern : Text.Pattern PropDeclaration := fun lineStart s =>
  if !lineStart then none
  else
    let indent := s.takeWhile Text.isSpaceOrTab
    match Text.wordAndBlanks? "export".toList (s.dropWhile Text.isSpaceOrTab) with
    | none => none
    | some rest =>
      match Text.wordAndBlanks? "let".toList rest with
      | some (c :: cs) =>
        if isNameStart c then
          some (⟨indent, c :: cs.takeWhile isNamePart⟩, cs.dropWhile isNamePart)
        else none
      | _ => none

/-- A declaration that is not exported. -/
def asLocal (d : PropDeclaration) : List Char := d.indent ++ "let ".toList ++ d.name

end PropDeclaration

/-- The script without exported `let` declarations. -/
def withoutPropExports (script : List Char) : List Char :=
  Text.replaceAll PropDeclaration.pattern PropDeclaration.asLocal script

/-- The names of the props of a script, in order. -/
def propNames (script : List Char) : List String :=
  (Text.hits PropDeclaration.pattern script).map fun d => String.ofList d.name

end LiveBundle.Component
