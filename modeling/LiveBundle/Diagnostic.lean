import LiveBundle.Text.Lines

/-!
# Diagnostics

A failure to compile a component, a script or a data file: a message, and where it is known the
place as a stack line and as a frame of the source.
-/

namespace LiveBundle

/-- A compilation failure. -/
structure Diagnostic where
  message : String
  /-- Lines that tell the place, innermost first. -/
  stack : Option String := none
  /-- An excerpt of the source with a caret. -/
  frame : Option String := none
deriving DecidableEq, Repr

/-- A failure at a byte offset of a source. -/
def Diagnostic.at (message filename source : String) (offset : Nat) : Diagnostic :=
  let (line, column) := Text.lineColumn source offset
  { message
    stack := some ("    at " ++ filename ++ ":" ++ toString line ++ ":" ++ toString column)
    frame := some (Text.frame source line column) }

end LiveBundle
