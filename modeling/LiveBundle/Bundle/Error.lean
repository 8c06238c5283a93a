import LiveBundle.Diagnostic
import LiveBundle.Text.Escaped

/-!
# Failures of a bundling pass

A pass fails for one cause. On its way out the failure collects the ids of the modules that were
being processed, innermost first. The report shown to a reader is made of the cause and this trail.

* `BundleError.root` and `BundleError.trail` separate the cause from the modules around it.
* `BundleError.text` words the cause, `BundleError.report` is the whole report.
-/

namespace LiveBundle

/-- Why a bundling pass failed. -/
inductive BundleError where
  /-- The entry point of a package could not be found out. -/
  | resolve (specifier cause : String)
  /-- The network answered with a status that is no success. -/
  | httpStatus (url : String) (status : Nat) (reason : String)
  /-- The network gave no answer. -/
  | fetch (url cause : String)
  /-- Nobody claimed an import. -/
  | unresolved (specifier importer : String)
  /-- Nobody had the content of a module. -/
  | unloaded (id : String)
  /-- A component, script or data file did not compile. -/
  | compile (diagnostic : Diagnostic)
  /-- A failure while processing the module `id`. -/
  | inModule (id : String) (inner : BundleError)
deriving DecidableEq, Repr

/-- The class of a failure. -/
inductive BundleError.Kind where
  | resolve
  | load
  | compile
deriving DecidableEq, Repr

/-- The word for a class of failures. -/
def BundleError.Kind.label : BundleError.Kind → String
  | .resolve => "ResolveError"
  | .load => "LoadError"
  | .compile => "CompileError"

namespace BundleError

/-- The cause, without the modules around it. -/
def root : BundleError → BundleError
  | .inModule _ inner => inner.root
  | e => e

/-- The modules around the cause, innermost first. -/
def trail : BundleError → List String
  | .inModule id inner => inner.trail ++ [id]
  | _ => []

/-- The class of the cause. -/
def kind : BundleError → Kind
  | .resolve .. | .unresolved .. => .resolve
  | .httpStatus .. | .fetch .. | .unloaded .. => .load
  | .compile .. => .compile
  | .inModule _ inner => inner.kind

/-- The cause in words. -/
def text : BundleError → String
  | .resolve specifier cause => "Failed to resolve package " ++ specifier ++ ": " ++ cause
  | .httpStatus url status reason =>
    "Failed to fetch " ++ url ++ ": " ++ toString status ++ " " ++ reason
  | .fetch url cause => "Failed to load module " ++ url ++ ": " ++ cause
  | .unresolved specifier importer =>
    "Could not resolve '" ++ specifier ++ "' from '" ++ importer ++ "'"
  | .unloaded id => "Could not load '" ++ id ++ "'"
  | .compile diagnostic => diagnostic.message
  | .inModule _ inner => inner.text

/-- The diagnostic of a compilation failure. -/
def diagnostic? : BundleError → Option Diagnostic
  | .compile diagnostic => some diagnostic
  | .inModule _ inner => inner.diagnostic?
  | _ => none

/-- The number of lines that a report keeps of the stack. -/
def stackLines : Nat := 5

/-- The lines of the stack: the cause, its place, and the modules around it. -/
def stack (e : BundleError) : List String :=
  let place := match e.diagnostic? with
    | some { stack := some excerpt, .. } => Text.linesOf excerpt
    | _ => []
  (e.kind.label ++ ": " ++ e.text) :: place ++
    e.trail.map fun id => "    at " ++ Text.Escaped.escape id

/-- The report of a failure: the cause, the first lines of the stack, and the frame if there is
one. -/
def report (e : BundleError) : String :=
  let frame := match e.diagnostic? with
    | some { frame := some frame, .. } => "\n\nFrame: " ++ frame
    | _ => ""
  "Error: " ++ e.text ++ "\n\nStack trace:\n" ++
    Text.firstLines (Text.joinWith "\n" e.stack) stackLines ++ frame

end BundleError

end LiveBundle
