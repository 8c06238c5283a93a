import LiveBundle.Text.Basic

/-!
# Lines and positions

A line ends at a line feed, and a carriage return directly before that line feed belongs to the
ending. A carriage return elsewhere is part of its line, and the text after the last line feed is a
line only if it is not empty.

A position is a byte offset on the inside and a 1-based line and column in messages. Columns count
characters. `frame` shows a line with the two lines before it and a caret under a column.
-/

namespace LiveBundle.Text

/-- The lines of a text, each with its line feed. -/
def linesKeepingEnds : List Char → List (List Char)
  | [] => []
  | c :: cs =>
    if c = '\n' then ['\n'] :: linesKeepingEnds cs
    else
      match linesKeepingEnds cs with
      | [] => [[c]]
      | line :: rest => (c :: line) :: rest

/-- A line without its ending. -/
def dropLineEnd (line : List Char) : List Char :=
  match line.reverse with
  | '\n' :: '\r' :: rest => rest.reverse
  | '\n' :: rest => rest.reverse
  | _ => line

/-- The lines of a text, without their endings. -/
def lines (s : List Char) : List (List Char) := (linesKeepingEnds s).map dropLineEnd

/-- The lines of a string, without their endings. -/
def linesOf (s : String) : List String := (lines s.toList).map String.ofList

/-- The first `n` lines, joined by line feeds. -/
def firstLines (s : String) (n : Nat) : String := joinWith "\n" ((linesOf s).take n)

/-! ## Positions -/

/-- The characters after the last line feed. -/
def lastLine (s : List Char) : List Char := (s.reverse.takeWhile (· ≠ '\n')).reverse

/-- The 1-based line and column of a byte offset; an offset past the end means the end. -/
def lineColumn (source : String) (offset : Nat) : Nat × Nat :=
  let before := bytesTake offset source.toList
  (before.count '\n' + 1, (lastLine before).length + 1)

/-- `number` in decimal, padded with spaces on the left to `width` characters. -/
def padLeft (width : Nat) (text : String) : String := spaces (width - text.length) ++ text

/-- One numbered line of a frame, with a caret line below it when it is the line of interest. -/
def frameLine (width line column number : Nat) (text : String) : String :=
  padLeft width (toString number) ++ ": " ++ text ++ "\n" ++
    (if number = line then spaces width ++ "  " ++ spaces (column - 1) ++ "^\n" else "")

/-- Up to two lines of context and the line itself, with a caret under `column`. -/
def frame (source : String) (line column : Nat) : String :=
  let all := linesOf source
  let first := max (line - 2) 1
  let last := min line (max all.length 1)
  let width := (toString last).length
  let shown := (List.range' first (last + 1 - first)).map fun number =>
    frameLine width line column number (all.getD (number - 1) "")
  String.ofList (trimEnd (concat shown).toList)

end LiveBundle.Text
