import LiveBundle.Dict
import LiveBundle.Style.Compiler
import LiveBundle.Text.Search

/-!
# Variables

A style text may declare variables, one per line: `$name: value;`. All declarations are collected
first, in order, each value with the variables known so far put in; a later declaration replaces an
earlier one, also when it is marked `!default`. Then the declarations are cut out and the remaining
text gets the final values.

* `declaration` and `reference` recognize the two forms.
* `expandVariables` carries the expansion out.
-/

namespace LiveBundle.Style

open Text (isSpaceOrTab)

/-- Characters of variable names. -/
def isNameChar (c : Char) : Bool := Text.isWord c || c == '-'

/-- A name and the text behind it. -/
def takeName? (s : List Char) : Option (List Char × List Char) :=
  match s.takeWhile isNameChar with
  | [] => none
  | name => some (name, s.dropWhile isNameChar)

/-- A use of a variable; the value is its name. -/
def reference : Text.Pattern (List Char) := fun _ s =>
  match s with
  | '$' :: rest => takeName? rest
  | _ => none

/-- Whether a text is what may stand between a value and its semicolon. -/
def isValueEnd (s : List Char) : Bool :=
  match s.dropWhile isSpaceOrTab with
  | [] => true
  | rest =>
    match "!default".toList.isPrefixOf? rest with
    | some rest => rest.all isSpaceOrTab
    | none => false

/-- The shortest start of a text, after `taken`, that leaves only the end of a value. -/
def shortestValue (taken : List Char) : List Char → List Char
  | [] => taken.reverse
  | c :: cs =>
    if isValueEnd cs then (c :: taken).reverse else shortestValue (c :: taken) cs

/-- The value in the text between the colon and the semicolon. It is not empty: of blanks alone the
last one is the value. -/
def valueOf? (s : List Char) : Option (List Char) :=
  match s.dropWhile isSpaceOrTab with
  | [] => s.getLast?.map ([·])
  | value => some (shortestValue [] value)

/-- The text behind the blanks and the line break at the end of a declaration. -/
def skipLineEnd (s : List Char) : List Char :=
  match s.dropWhile isSpaceOrTab with
  | '\r' :: '\n' :: rest => rest
  | '\r' :: rest => rest
  | '\n' :: rest => rest
  | rest => rest

/-- A declaration; it starts with its line. The value is the name and the value declared. -/
def declaration : Text.Pattern (List Char × List Char) := fun lineStart s =>
  if !lineStart then none
  else
    match s.dropWhile isSpaceOrTab with
    | '$' :: rest =>
      match takeName? rest with
      | none => none
      | some (name, rest) =>
        match rest.dropWhile isSpaceOrTab with
        | ':' :: rest =>
          match Text.splitAt? ';' rest with
          | none => none
          | some (body, rest) =>
            (valueOf? body).map fun value => ((name, value), skipLineEnd rest)
        | _ => none
    | _ => none

/-- The values of the variables, by name. -/
abbrev Variables := Dict (List Char)

/-- A text with the values of its variables put in. -/
def substitute (known : Variables) (s : List Char) : Except Failure (List Char) := do
  let parts ← (Text.pieces reference s).mapM fun
    | .inl c => .ok [c]
    | .inr name =>
      match known.get? (String.ofList name) with
      | some value => .ok value
      | none => .error (.undefinedVariable (String.ofList name))
  return parts.flatten

/-- The variables after a list of declarations. -/
def declareAll : Variables → List (List Char × List Char) → Except Failure Variables
  | known, [] => .ok known
  | known, (name, value) :: rest => do
    declareAll (known.insert (String.ofList name) (← substitute known value)) rest

/-- A text without its declarations and with the values of its variables put in. -/
def expandVariables (s : List Char) : Except Failure (List Char) := do
  substitute (← declareAll Dict.empty (Text.hits declaration s))
    (Text.replaceAll declaration (fun _ => []) s)

end LiveBundle.Style
