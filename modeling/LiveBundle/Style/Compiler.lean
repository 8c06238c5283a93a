/-!
# Style compilers

A style compiler turns the text of a style block into a plain stylesheet, or says why it cannot.
Components are compiled with any such function; `LiveBundle.Style.Compile` has the one for use.
-/

namespace LiveBundle.Style

/-- Why a style text was not compiled. -/
inductive Failure where
  /-- The text is no stylesheet. -/
  | parse
  /-- The stylesheet has no printed form for the target browsers. -/
  | print
  /-- A variable is used that was not declared. -/
  | undefinedVariable (name : String)
deriving DecidableEq, Repr

/-- The wording of an undefined variable. -/
def undefinedVariableText (name : String) : String := "Undefined variable: $" ++ name

/-- A compiler of style texts. -/
abbrev Compiler := String → Except Failure String

end LiveBundle.Style
