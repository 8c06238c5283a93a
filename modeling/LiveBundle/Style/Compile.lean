import LiveBundle.Style.Compiler
import LiveBundle.Style.Rule.Merge
import LiveBundle.Style.Rule.Read
import LiveBundle.Style.Rule.Write
import LiveBundle.Style.Variables
import LiveBundle.Text.Lines

/-!
# Compiling style texts

A style text may have line comments, variables and rules inside rules. It becomes a plain sheet:
comments are removed and variables expanded in the text, then the rules are read, merged and
written.

* `stripLineComments` removes the line comments of a text, and the white space in front of them.
* `compile` is the style compiler for use.
-/

namespace LiveBundle.Style

/-! ## Line comments

Comments from `//` to the end of the line are found line by line: a quote opened in a line hides
what follows it, up to the same quote without a backslash in front, and is forgotten at the end of
the line. Two slashes directly behind a colon belong to an address. -/

/-- What stands before the first comment of a line, if there is one. `seen` holds the characters
already passed, the latest first, and `quote` the quote that is open. -/
def beforeComment? (quote : Option Char) (seen : List Char) : List Char → Option (List Char)
  | [] => none
  | c :: cs =>
    match quote with
    | some q =>
      beforeComment? (if c = q ∧ seen.head? ≠ some '\\' then none else some q) (c :: seen) cs
    | none =>
      if c = '"' ∨ c = '\'' then beforeComment? (some c) (c :: seen) cs
      else
        match c, seen with
        | '/', '/' :: ':' :: _ => beforeComment? none (c :: seen) cs
        | '/', '/' :: before => some before.reverse
        | _, _ => beforeComment? none (c :: seen) cs

/-- A line, given with its line feed, without its comment. -/
def stripLine (line : List Char) : List Char :=
  match beforeComment? none [] line with
  | none => line
  | some kept => Text.trimEnd kept ++ (if line.getLast? = some '\n' then ['\n'] else [])

/-- A text without line comments. -/
def stripLineComments (s : List Char) : List Char :=
  (Text.linesKeepingEnds s).flatMap stripLine

/-! ## Sheets -/

/-- A sheet in its shortest form. -/
def normalize (s : List Char) : Except Failure String :=
  match Rule.sheet? (piecesOf s) with
  | some rules => .ok (Rule.sheetText (Rule.merged rules))
  | none => .error .parse

/-- Compiles a style text. -/
def compile : Compiler := fun text => do
  normalize (← expandVariables (stripLineComments text.toList))

end LiveBundle.Style
