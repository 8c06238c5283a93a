import LiveBundle.Bundle.Graph
import LiveBundle.Json.Basic
import LiveBundle.Specifier
import LiveBundle.Text.Escaped

/-!
# Linking

A bundle is one script. It starts with a small runtime and keeps a factory for every module; a
factory is the text of the module with its imports turned into calls of `require` and its exports
into getters, which a header registers.

* `Splice.body` puts the renderings of the edits into the text of a module.
* `link` writes the bundle of a graph.
-/

namespace LiveBundle

/-- The lines of the runtime. -/
def runtimeLines : List String := [
  "  var __pg_modules = \x7b\x7d;",
  "  var __pg_cache = \x7b\x7d;",
  "",
  "  function __pg_require(id) \x7b",
  "    if (__pg_cache[id]) return __pg_cache[id].exports;",
  "    var factory = __pg_modules[id];",
  "    if (!factory) throw new Error(\"Module not found: \" + id);",
  "    var module = \x7b exports: \x7b\x7d \x7d;",
  "    __pg_cache[id] = module;",
  "    factory.call(module.exports, module, module.exports, __pg_require);",
  "    return module.exports;",
  "  \x7d",
  "",
  "  function __pg_default(m) \x7b",
  "    return m && m.__esModule ? m.default : m;",
  "  \x7d",
  "",
  "  function __pg_mark(exports) \x7b",
  "    if (!exports.__esModule) Object.defineProperty(exports, \"__esModule\", \x7b value: true \x7d);",
  "  \x7d",
  "",
  "  function __pg_export(exports, getters) \x7b",
  "    __pg_mark(exports);",
  "    for (var key in getters) \x7b",
  "      Object.defineProperty(exports, key, \x7b enumerable: true, get: getters[key] \x7d);",
  "    \x7d",
  "  \x7d",
  "",
  "  function __pg_reexport(exports, source) \x7b",
  "    __pg_mark(exports);",
  "    Object.keys(source).forEach(function (key) \x7b",
  "      if (key === \"default\" || Object.prototype.hasOwnProperty.call(exports, key)) return;",
  "      Object.defineProperty(exports, key, \x7b enumerable: true, get: function () \x7b return source[key]; \x7d \x7d);",
  "    \x7d);",
  "  \x7d"]

/-- The runtime in front of the factories. -/
def runtime : String := Text.concat (runtimeLines.map (· ++ "\n"))

/-- What rendering collects: the names that are exported with the expressions that give them, and
the number of variables for required modules. -/
structure Splice where
  getters : List (String × String) := []
  temporaries : Nat := 0

namespace Splice

/-- A name for the next required module. -/
def temporary (s : Splice) : String × Splice :=
  ("__pg_m" ++ toString s.temporaries, { s with temporaries := s.temporaries + 1 })

/-- Adds an exported name, unless it is there. -/
def getter (s : Splice) (exported expression : String) : Splice :=
  if s.getters.any (·.1 == exported) then s
  else { s with getters := s.getters ++ [(exported, expression)] }

/-- Adds exported names in order. -/
def addGetters (s : Splice) (names : List (String × String)) : Splice :=
  names.foldl (fun s (exported, expression) => s.getter exported expression) s

end Splice

/-- The id that a specifier was resolved to; an unknown specifier stands for itself. -/
def targetOf (resolved : Dict String) (specifier : String) : String :=
  (resolved.get? specifier).getD specifier

/-- The call that gives a module. -/
def requireCall (resolved : Dict String) (specifier : String) : String :=
  "require(" ++ Json.quote (targetOf resolved specifier) ++ ")"

/-- A property of an object. -/
def memberOf (object name : String) : String :=
  if Specifier.isIdentifier name then object ++ "." ++ name
  else object ++ "[" ++ Json.quote name ++ "]"

/-- An element of a destructuring pattern. -/
def patternEntry (imported localName : String) : String :=
  if imported = localName then localName
  else if Specifier.isIdentifier imported then imported ++ ": " ++ localName
  else Json.quote imported ++ ": " ++ localName

/-- The expression for a name of a required module. -/
def importedValue (temporary imported : String) : String :=
  if imported = "default" then "__pg_default(" ++ temporary ++ ")"
  else memberOf temporary imported

/-- The declaration of a required module. -/
def declareRequired (resolved : Dict String) (temporary specifier : String) : String :=
  "const " ++ temporary ++ " = " ++ requireCall resolved specifier ++ ";"

/-- The statements of an import. -/
def renderImport (resolved : Dict String) (s : Splice) (specifier : String)
    (bindings : ImportBindings) : String × Splice :=
  if bindings.isEmpty then (requireCall resolved specifier ++ ";", s)
  else
    let (temporary, s) := s.temporary
    let default := bindings.default.toList.map fun name =>
      "const " ++ name ++ " = __pg_default(" ++ temporary ++ ");"
    let namespace_ := bindings.namespace_.toList.map fun name =>
      "const " ++ name ++ " = " ++ temporary ++ ";"
    let named := if bindings.named.isEmpty then [] else
      ["const \x7b " ++ Text.joinWith ", " (bindings.named.map fun (i, l) => patternEntry i l) ++
        " \x7d = " ++ temporary ++ ";"]
    (Text.joinWith " "
      (declareRequired resolved temporary specifier :: default ++ namespace_ ++ named), s)

/-- The name of the variable for a default expression. -/
def defaultVariable : String := "__default__"

/-- What stands in place of a range. -/
def renderReplacement (resolved : Dict String) (s : Splice) : Replacement → String × Splice
  | .remove => ("", s)
  | .importing specifier bindings => renderImport resolved s specifier bindings
  | .reexportAll specifier =>
    ("__pg_reexport(exports, " ++ requireCall resolved specifier ++ ");", s)
  | .reexportNamespace specifier exported =>
    let (temporary, s) := s.temporary
    (declareRequired resolved temporary specifier, s.getter exported temporary)
  | .reexportNamed specifier names =>
    let (temporary, s) := s.temporary
    (declareRequired resolved temporary specifier,
      s.addGetters (names.map fun (imported, exported) =>
        (exported, importedValue temporary imported)))
  | .exportList names => ("", s.addGetters (names.map fun (l, exported) => (exported, l)))
  | .exportDeclaration names => ("", s.addGetters (names.map fun name => (name, name)))
  | .defaultDeclaration name => ("", s.getter "default" name)
  | .defaultExpression =>
    ("const " ++ defaultVariable ++ " = ", s.getter "default" defaultVariable)
  | .terminate => (";", s)
  | .dynamicImport specifier =>
    ("Promise.resolve().then(function () \x7b return " ++ requireCall resolved specifier ++
      "; \x7d)", s)
  | .requireArgument specifier => (Json.quote (targetOf resolved specifier), s)

/-- The edits that are applied from byte `position` on: an edit inside the range of an earlier one
is left out. -/
def keptEdits (size : Nat) : Nat → List Edit → List Edit
  | _, [] => []
  | position, e :: es =>
    if e.start < position ∨ size < e.stop then keptEdits size position es
    else e :: keptEdits size e.stop es

/-- The text from byte `position` on with edits put in, and what they collect. -/
def spliceFrom (resolved : Dict String) :
    Nat → List Char → Splice → List Edit → List Char × Splice
  | _, rest, s, [] => (rest, s)
  | position, rest, s, e :: es =>
    let (rendered, s) := renderReplacement resolved s e.replacement
    let (tail, s) := spliceFrom resolved e.stop (Text.bytesDrop (e.stop - position) rest) s es
    (Text.bytesTake (e.start - position) rest ++ rendered.toList ++ tail, s)

/-- The line that registers the exported names. -/
def exportHeader (getters : List (String × String)) : String :=
  if getters.isEmpty then ""
  else
    let entries := getters.map fun (name, expression) =>
      Json.quote name ++ ": function () \x7b return " ++ expression ++ "; \x7d"
    "__pg_export(exports, \x7b " ++ Text.joinWith ", " entries ++ " \x7d);\n"

/-- The text of a module as the body of its factory. -/
def Module.body (m : Module) : String :=
  let size := Text.byteSize m.code.toList
  let (code, s) :=
    spliceFrom m.resolved 0 m.code.toList {} (keptEdits size 0 m.syntax_.edits)
  exportHeader s.getters ++ String.ofList code

/-- A text with a line feed at its end, unless it is empty. -/
def endLine (text : String) : String :=
  if text = "" ∨ Text.hasSuffix "\n" text then text else text ++ "\n"

/-- The factory of a module, with a comment that tells its id. -/
def Module.factory (m : Module) : String :=
  "\n  // " ++ Text.Escaped.escape m.id ++ "\n  __pg_modules[" ++ Json.quote m.id ++
    "] = function (module, exports, require) \x7b\n" ++ endLine m.body ++ "  \x7d;\n"

/-- The bundle of a graph, assigned to the variable `name`. -/
def link (graph : ModuleGraph) (name : String) : String :=
  let entry := match graph.entry? with
    | some m => "\n  return __pg_require(" ++ Json.quote m.id ++ ");\n"
    | none => ""
  "var " ++ name ++ " = (function () \x7b\n" ++ runtime ++
    Text.concat (graph.modules.map Module.factory) ++ entry ++ "\x7d)();\n"

end LiveBundle
