import LiveBundle.Script.Program
import LiveBundle.Diagnostic
import LiveBundle.Sort
import LiveBundle.Text.Basic

/-!
# What linking does to a module

The scan of a module gives the specifiers that it depends on and the edits that turn it into the
body of a factory. Each import, export and asked-for module is a range of bytes and what replaces
it.

* `ModuleSyntax.ofProgram` collects dependencies and edits, both in the order of the text.
* `ModuleSyntax.parse` reads a module; a `.ts` module may have types.
-/

namespace LiveBundle

open Script (Item Site Span ImportClause ExportName Program)

/-- The names that an import binds, as pairs of the imported and the local name where they have
one. -/
structure ImportBindings where
  default : Option String := none
  namespace_ : Option String := none
  named : List (String × String) := []
deriving DecidableEq, Repr

/-- Whether nothing is bound. -/
def ImportBindings.isEmpty (b : ImportBindings) : Bool :=
  b.default.isNone && b.namespace_.isNone && b.named.isEmpty

/-- What becomes of a range of a module's text. -/
inductive Replacement where
  /-- It is dropped. -/
  | remove
  /-- An import becomes a call of `require` and declarations. -/
  | importing (specifier : String) (bindings : ImportBindings)
  | reexportAll (specifier : String)
  | reexportNamespace (specifier exported : String)
  /-- Names of another module are exported, as pairs of the imported and the exported name. -/
  | reexportNamed (specifier : String) (names : List (String × String))
  /-- Own names are exported, as pairs of the local and the exported name. -/
  | exportList (names : List (String × String))
  /-- The word in front of a declaration that binds the names is dropped. -/
  | exportDeclaration (names : List String)
  /-- The words in front of a named default declaration are dropped. -/
  | defaultDeclaration (name : String)
  /-- The words in front of a default expression become a declaration. -/
  | defaultExpression
  /-- A statement is ended. -/
  | terminate
  | dynamicImport (specifier : String)
  | requireArgument (specifier : String)
deriving DecidableEq, Repr

/-- A replacement of the bytes from `start` to `stop`. -/
structure Edit where
  start : Nat
  stop : Nat
  replacement : Replacement
deriving DecidableEq, Repr

/-- What linking needs to know of a module. -/
structure ModuleSyntax where
  /-- The specifiers that the module depends on, each once. -/
  dependencies : List String
  /-- The edits in the order of the text. -/
  edits : List Edit
deriving DecidableEq, Repr

namespace ModuleSyntax

variable {text : List Char}

/-- The edit of a span. -/
def editOf (span : Span text) (replacement : Replacement) : Edit :=
  ⟨span.start, span.stop, replacement⟩

/-- The names that an import binds, those of types left out. The first name that imports `default`
is the default name if there is none before it. -/
def bindings (clause : ImportClause) : ImportBindings :=
  (clause.named.filter (!·.typeOnly)).foldl (fun b n =>
    if n.imported == "default" && b.default.isNone then { b with default := some n.localName }
    else { b with named := b.named ++ [(n.imported, n.localName)] })
    { default := clause.default, namespace_ := clause.namespace_ }

/-- The pairs of names in an export, those of types left out. -/
def pairs (names : List ExportName) : List (String × String) :=
  (names.filter (!·.typeOnly)).map fun n => (n.localName, n.exported)

/-- The edits of a statement. -/
def itemEdits : Item text → List Edit
  | .importing span specifier clause => [editOf span (.importing specifier (bindings clause))]
  | .typeOnly span => [editOf span .remove]
  | .exportAll span specifier none => [editOf span (.reexportAll specifier)]
  | .exportAll span specifier (some name) => [editOf span (.reexportNamespace specifier name)]
  | .exportFrom span specifier names => [editOf span (.reexportNamed specifier (pairs names))]
  | .exportList span names => [editOf span (.exportList (pairs names))]
  | .exportDeclaration span head declaration =>
    match declaration.names? with
    | some names => [editOf head (.exportDeclaration names)]
    | none => [editOf span .remove]
  | .exportDefaultNamed head name => [editOf head (.defaultDeclaration name)]
  | .exportDefaultAnonymous head tail =>
    [editOf head .defaultExpression, editOf tail .terminate]
  | .exportDefaultExpression head => [editOf head .defaultExpression]
  | .exportDefaultErased span => [editOf span .remove]
  | .unsupported _ | .other => []

/-- The edit of a site. -/
def siteEdit : Site text → Edit
  | .dynamicImport span specifier => editOf span (.dynamicImport specifier)
  | .requireArgument span specifier => editOf span (.requireArgument specifier)

/-- What a statement asks for, with the offset at which it starts. -/
def itemRequests : Item text → List (Nat × String)
  | .importing span specifier _ | .exportAll span specifier _ | .exportFrom span specifier _ =>
    [(span.start, specifier)]
  | _ => []

/-- What a site asks for, with the offset at which it starts. -/
def siteRequest : Site text → Nat × String
  | .dynamicImport span specifier | .requireArgument span specifier => (span.start, specifier)

/-- Whether an edit comes before another one: by its start, and then by its end. -/
def Edit.before (a b : Edit) : Bool :=
  a.start < b.start || (a.start == b.start && a.stop < b.stop)

/-- Edits in the order of the text; edits of one range keep their order. -/
def sortEdits (edits : List Edit) : List Edit := sortBy Edit.before edits

/-- The elements of a list, each where it comes first. -/
def firsts (xs : List String) : List String :=
  xs.foldl (fun acc x => if acc.contains x then acc else acc ++ [x]) []

/-- All edits of a script in the order of the text. -/
def editsOf (program : Program text) : List Edit :=
  sortEdits (program.items.flatMap itemEdits ++ program.sites.map siteEdit)

/-- All that a script asks for, in the order of the offsets. -/
def requestsOf (program : Program text) : List (Nat × String) :=
  sortBy (fun a b => a.1 < b.1)
    (program.items.flatMap itemRequests ++ program.sites.map siteRequest)

/-- The dependencies and edits of a script. -/
def ofProgram (program : Program text) : ModuleSyntax :=
  ⟨firsts ((requestsOf program).map (·.2)), editsOf program⟩

/-- The start of the first statement that has no counterpart in a bundle. -/
def unsupported? (items : List (Item text)) : Option Nat :=
  items.findSome? fun
    | .unsupported span => some span.start
    | _ => none

/-- Whether the id of a module says that it may have types. -/
def isTyped (id : String) : Bool := Text.hasSuffix ".ts" id

/-- The word that stands for the place and kind of a syntax error. -/
def syntaxError : String := "<syntax>"

/-- Reads the module syntax of `code`, the content of module `id`.

There is one reading. What fails as a module could only be tried again as source of the default
kind, and that kind is the one of modules: the same grammar would fail again. So code that is
nothing but a classic script, such as one that assigns to `await`, is refused. -/
def parse (id code : String) : Except Diagnostic ModuleSyntax :=
  match Program.parse (isTyped id) code.toList with
  | none => .error { message := "Failed to parse " ++ id ++ ": " ++ syntaxError }
  | some program =>
    match unsupported? program.items with
    | some offset => .error (Diagnostic.at "Unsupported module syntax" id code offset)
    | none => .ok (ofProgram program)

end ModuleSyntax

end LiveBundle
