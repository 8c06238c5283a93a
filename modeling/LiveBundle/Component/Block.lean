import LiveBundle.Text.Search

/-!
# Blocks of a component

A component holds scripts and styles in blocks: an opening tag, a body that runs up to the first
closing tag of its kind, and that closing tag. Names of tags are read up to case.

* `Block.openTag?`, `Block.closeTag?` read a tag at the front of a text.
* `untilClose` splits a text at its first closing tag.
* `Block.pattern` finds closed blocks, for `Text.pieces` and `Text.replaceAll`.
-/

namespace LiveBundle.Component

open Text (isBlank wordUpToCase?)

/-- A block with the text of its parts as it was written. -/
structure Block where
  name : List Char
  /-- What stands between the name and the end of the opening tag. -/
  attributes : List Char
  body : List Char
  /-- The closing tag. -/
  closing : List Char
deriving DecidableEq

namespace Block

/-- The name of script blocks. -/
def scriptName : List Char := ['s', 'c', 'r', 'i', 'p', 't']

/-- The name of style blocks. -/
def styleName : List Char := ['s', 't', 'y', 'l', 'e']

/-- An opening tag with these parts. -/
def openText (name attributes : List Char) : List Char := '<' :: name ++ attributes ++ ['>']

/-- A block as it was written. -/
def text (b : Block) : List Char := openText b.name b.attributes ++ b.body ++ b.closing

/-- Whether a written name means a script. Only ASCII capitals count as forms of the letters, so a
name with other forms of them means a style. -/
def namesScript (name : List Char) : Bool := name.map Char.toLower == scriptName

/-- The name in the tag that closes a block. -/
def closingName (name : List Char) : List Char :=
  if namesScript name then scriptName else styleName

/-- The attributes of a tag and the text behind it. Attributes start with white space. -/
def attributes? : List Char → Option (List Char × List Char)
  | [] => none
  | c :: cs =>
    if c = '>' then some ([], cs)
    else if isBlank c then
      (Text.splitAt? '>' cs).map fun (attributes, rest) => (c :: attributes, rest)
    else none

/-- The name and attributes of an opening tag in front, and the text behind it. -/
def openTag? (names : List (List Char)) : List Char → Option (List Char × List Char × List Char)
  | '<' :: cs =>
    match names.findSome? (wordUpToCase? · cs) with
    | some (name, rest) => (attributes? rest).map fun (attributes, rest) => (name, attributes, rest)
    | none => none
  | _ => none

/-- A closing tag in front, and the text behind it. -/
def closeTag? (name : List Char) : List Char → Option (List Char × List Char)
  | '<' :: '/' :: cs =>
    match wordUpToCase? name cs with
    | some (written, rest) =>
      match rest.dropWhile isBlank with
      | '>' :: behind => some ('<' :: '/' :: written ++ rest.takeWhile isBlank ++ ['>'], behind)
      | _ => none
    | none => none
  | _ => none

/-- The text before the first closing tag, the tag, and the text behind it. -/
def untilClose (name : List Char) : List Char → Option (List Char × List Char × List Char)
  | [] => none
  | c :: cs =>
    match closeTag? name (c :: cs) with
    | some (closing, rest) => some ([], closing, rest)
    | none => (untilClose name cs).map fun (body, closing, rest) => (c :: body, closing, rest)

/-- Finds closed blocks with one of the names. -/
def pattern (names : List (List Char)) : Text.Pattern Block := fun _ s =>
  match openTag? names s with
  | none => none
  | some (name, attributes, rest) =>
    (untilClose (closingName name) rest).map fun (body, closing, rest) =>
      (⟨name, attributes, body, closing⟩, rest)

end Block

end LiveBundle.Component
