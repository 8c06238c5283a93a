import LiveBundle.Text.Basic

/-!
# The module syntax of a script

What linking needs to know of a script: the statements of its top level that import or export, and
the places in expressions where another module is asked for. All places are spans of the text,
between two of its characters.

* `Span text` is a range of bytes of `text` that starts and ends between characters.
* `Pattern` is the left side of a declaration, with the names that it binds.
* `Item text` is a statement of the top level, `Site text` a place that asks for a module.
-/

namespace LiveBundle.Script

/-- Whether byte `n` of a text lies between two of its characters, or at one of its ends. -/
def IsBoundary (text : List Char) (n : Nat) : Prop :=
  ∃ before after, text = before ++ after ∧ Text.byteSize before = n

/-- A range of bytes of a text. -/
structure Span (text : List Char) where
  start : Nat
  stop : Nat
  ordered : start ≤ stop
  start_boundary : IsBoundary text start
  stop_boundary : IsBoundary text stop

/-- The left side of a declaration. -/
inductive Pattern where
  | name (text : String)
  /-- An object pattern: the patterns of its properties, and the one behind `...`. -/
  | object (properties : List Pattern) (rest : Option Pattern)
  /-- An array pattern, with its holes. -/
  | array (elements : List (Option Pattern)) (rest : Option Pattern)
  /-- A pattern with a default value. -/
  | withDefault (target : Pattern)

mutual

/-- The names that a pattern binds, from left to right. -/
def Pattern.names : Pattern → List String
  | .name text => [text]
  | .object properties rest => namesOfList properties ++ namesOfRest rest
  | .array elements rest => namesOfElements elements ++ namesOfRest rest
  | .withDefault target => target.names

/-- The names bound by patterns. -/
def Pattern.namesOfList : List Pattern → List String
  | [] => []
  | p :: ps => p.names ++ namesOfList ps

/-- The names bound by the elements of an array pattern. -/
def Pattern.namesOfElements : List (Option Pattern) → List String
  | [] => []
  | none :: ps => namesOfElements ps
  | some p :: ps => p.names ++ namesOfElements ps

/-- The names bound behind `...`. -/
def Pattern.namesOfRest : Option Pattern → List String
  | none => []
  | some p => p.names

end

/-- A declaration that can be exported. -/
inductive Declaration where
  | variables (patterns : List Pattern)
  | function (name : String)
  | class (name : String)
  /-- A declaration that the runtime does not know: types, enumerations, namespaces. -/
  | erased

/-- The names that a declaration binds; nothing for one that is erased. -/
def Declaration.names? : Declaration → Option (List String)
  | .variables patterns => some (Pattern.namesOfList patterns)
  | .function name => some [name]
  | .class name => some [name]
  | .erased => none

/-- A name in the braces of an import: what is imported, how it is called here, and whether only a
type is meant. -/
structure ImportName where
  imported : String
  localName : String
  typeOnly : Bool
deriving DecidableEq

/-- A name in the braces of an export. -/
structure ExportName where
  localName : String
  exported : String
  typeOnly : Bool
deriving DecidableEq

/-- What an import binds. -/
structure ImportClause where
  default : Option String
  namespace_ : Option String
  named : List ImportName

/-- A statement of the top level. -/
inductive Item (text : List Char) where
  /-- `import … from "x"` or `import "x"`. -/
  | importing (span : Span text) (specifier : String) (clause : ImportClause)
  /-- An import or export of types. -/
  | typeOnly (span : Span text)
  /-- `export * from "x"`, maybe `as` a name. -/
  | exportAll (span : Span text) (specifier : String) (alias_ : Option String)
  /-- `export { … } from "x"`. -/
  | exportFrom (span : Span text) (specifier : String) (names : List ExportName)
  /-- `export { … }`. -/
  | exportList (span : Span text) (names : List ExportName)
  /-- `export` before a declaration; `head` ends where the declaration starts. -/
  | exportDeclaration (span head : Span text) (declaration : Declaration)
  /-- `export default` before a named function or class. -/
  | exportDefaultNamed (head : Span text) (name : String)
  /-- `export default` before a function or class without a name, with the place behind it. -/
  | exportDefaultAnonymous (head tail : Span text)
  /-- `export default` before an expression. -/
  | exportDefaultExpression (head : Span text)
  /-- `export default` before an interface. -/
  | exportDefaultErased (span : Span text)
  /-- A module statement that has no counterpart in a bundle. -/
  | unsupported (span : Span text)
  /-- Any other statement. -/
  | other

/-- The names that a statement exports, other than those of `export *`. -/
def Item.exportedNames {text : List Char} : Item text → List String
  | .exportAll _ _ (some name) => [name]
  | .exportFrom _ _ names | .exportList _ names => names.map (·.exported)
  | .exportDeclaration _ _ declaration => declaration.names?.getD []
  | .exportDefaultNamed .. | .exportDefaultAnonymous .. | .exportDefaultExpression .. =>
    ["default"]
  | _ => []

/-- An expression that asks for a module by a string literal. -/
inductive Site (text : List Char) where
  /-- `import("x")`, with the span of the whole expression. -/
  | dynamicImport (span : Span text) (specifier : String)
  /-- `require("x")`, with the span of the argument. -/
  | requireArgument (span : Span text) (specifier : String)

/-- A script that was read: its statements in order, and its sites in the order in which they were
found. -/
structure Program (text : List Char) where
  items : List (Item text)
  sites : List (Site text)

end LiveBundle.Script
