import LiveBundle.Component.Sections
import LiveBundle.Component.Template
import LiveBundle.Component.Props
import LiveBundle.Digest.Sha256
import LiveBundle.Path
import LiveBundle.Style.Compiler
import LiveBundle.Text.Escaped

/-!
# Compiling components

A component becomes a script module. Its default export is a function that renders the markup into a
host element and puts that into a target; its styles are nested below an attribute of the host, so
that they reach nothing else. The attribute and the function are named after a digest of the source.

* `compile` is the compiler, `mountEntry` the module that shows a component in a page.
-/

namespace LiveBundle.Component

/-- A compiled component. -/
structure Compiled where
  /-- The module that mounts the component. -/
  code : String
  /-- The styles of the component, if it has any. -/
  css : Option String
deriving DecidableEq, Repr

/-- The attribute that the host of a component bears. -/
def scopeAttribute (digest : String) : String := "data-pg-" ++ digest

/-- The function that makes a value safe in markup. -/
def escapeFunction : String :=
  "const __pg_escape = (value) => String(value ?? '').replace(/[&<>\"']/g, (c) => " ++
    String.ofList [Char.ofNat 96] ++ "&#$\x7bc.charCodeAt(0)\x7d;" ++
    String.ofList [Char.ofNat 96] ++ ");"

/-- The line that takes a prop from the options. -/
def propLine (name : String) : String :=
  let key := Text.Escaped.quoted name
  "  if (" ++ key ++ " in props) " ++ name ++ " = props[" ++ key ++ "];"

/-- The lines of the function that mounts the component. -/
def mountLines (digest template : String) (props : List String) : List String :=
  ["export default function Component_" ++ digest ++ "(options = \x7b\x7d) \x7b",
    "  const target = options.target;",
    "  const props = options.props || \x7b\x7d;"] ++
  props.map propLine ++
  ["  const host = document.createElement('div');",
    "  host.setAttribute('" ++ scopeAttribute digest ++ "', '');",
    "  host.style.display = 'contents';",
    "  host.innerHTML = " ++ String.ofList [Char.ofNat 96] ++ template ++
      String.ofList [Char.ofNat 96] ++ ";",
    "  if (target) target.appendChild(host);",
    "  return \x7b",
    "    element: host,",
    "    destroy() \x7b",
    "      host.remove();",
    "    \x7d,",
    "  \x7d;",
    "\x7d"]

/-- The module of a component. -/
def moduleText (digest template : String) (script : List Char) (props : List String) : String :=
  let script := Text.trim script
  let front := if script = [] then "" else String.ofList script ++ "\n\n"
  front ++ escapeFunction ++ "\n\n" ++
    Text.concat ((mountLines digest template props).map (· ++ "\n"))

/-- Styles nested below the host of a component. -/
def scopedText (digest : String) (styles : List Char) : String :=
  "[" ++ scopeAttribute digest ++ "] \x7b\n" ++ String.ofList styles ++ "\n\x7d\n"

/-- The styles of a component, compiled below its host. Styles that do not compile stay as they
are. -/
def scopeStyles (styleCompiler : Style.Compiler) (digest : String) (styles : List Char) :
    Option String :=
  let styles := Text.trim styles
  if styles = [] then none
  else match styleCompiler (scopedText digest styles) with
    | .ok css => some css
    | .error _ => some (String.ofList styles)

/-- Compiles a component. Messages name the file by its last segment. -/
def compile (styleCompiler : Style.Compiler) (source filename : String) :
    Except Diagnostic Compiled := do
  let file := Path.fileName filename
  let digest := Digest.Sha256.fingerprint source
  let sections ← Sections.split source file
  match Template.parse sections.markup with
  | .error (fault, offset) => .error (Diagnostic.at fault.message file source offset)
  | .ok parts =>
    let script := withoutPropExports sections.script
    .ok {
      code := moduleText digest (String.ofList (Template.render parts)) script
        (propNames sections.script)
      css := scopeStyles styleCompiler digest sections.styles }

/-- The module that shows the component at `specifier` in the body of a page. -/
def mountEntry (specifier : String) : String :=
  "import Component from '" ++ specifier ++
    "';\n\nconst app = Component(\x7b target: document.body \x7d);\n\nexport default app;\n"

/-- Whether a source is a component and not a script: its first mark opens a tag. -/
def isComponent (source : String) : Bool := (Text.trimStart source.toList).head? == some '<'

end LiveBundle.Component
