import LiveBundle.Component.Compile
import LiveBundle.Component.Preprocess
import LiveBundle.Provider.Basic
import LiveBundle.Session

/-!
# The provider of components

Compiles the modules whose ids have the extension of components, and collects their styles in the
session. The id of a stub carries the specifier that it stands for, so stubs are told apart by the
null character in front.
-/

namespace LiveBundle

/-- Whether a module is a component. -/
def isComponentId (id : String) : Bool :=
  Text.hasSuffix Specifier.componentExtension id && !Text.hasPrefix "\x00" id

/-- Compiles a component and collects its styles. -/
def compileComponent (code id : String) : Action String := do
  let env ← Action.environment
  let prepared := Component.preprocess env.styleCompiler env.config.styles.languages code
  match Component.compile env.styleCompiler prepared id with
  | .error d => Action.fail (.compile d)
  | .ok compiled => do
    match compiled.css with
    | some css => Action.modify (·.appendStyles css)
    | none => pure ()
    pure compiled.code

/-- The provider of components. -/
def componentProvider : Provider Action :=
  { Provider.idle "component" with
    transform := fun code id =>
      if isComponentId id then do pure (some (← compileComponent code id))
      else pure none }

end LiveBundle
