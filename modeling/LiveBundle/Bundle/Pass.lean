import LiveBundle.Bundle.Link
import LiveBundle.Provider.Component
import LiveBundle.Provider.Library
import LiveBundle.Provider.Remote
import LiveBundle.Provider.Basic

/-!
# Bundling passes

A pass takes a pasted source. A script is the entry module itself; a component gets an entry module
that shows it. From the entry on, each module is loaded, changed and read, and its imports are
followed in their order before the next one; then the graph is linked.

* `providers` is the chain of a pass.
* `Pass.visit` adds a module and what it imports to a graph.
* `bundle` runs a pass, `compile` gives its outcome as it is reported.
-/

namespace LiveBundle

/-- The path of the entry module. -/
def entryPath : String := "__entry__.js"

/-- The id of the entry module. -/
def entryId : String := Specifier.fileId entryPath

/-- The path of a pasted component. -/
def componentPath : String := "__component__.svelte"

/-- The providers of a pass, in the order in which they are asked. -/
def providers (config : Config) (registry : Registry) : List (Provider Action) :=
  [styleStubProvider, libraryProvider config.facade registry, componentProvider, remoteProvider,
    catchAllProvider]

namespace Pass

/-- Loads, changes and reads a module. -/
def prepare (chain : List (Provider Action)) (id : String) : Action (String × ModuleSyntax) := do
  match ← Chain.load chain id with
  | none => Action.fail (.unloaded id)
  | some source => do
    let code ← Chain.transform chain source id
    match ModuleSyntax.parse id code with
    | .error d => Action.fail (.compile d)
    | .ok syntax_ => pure (code, syntax_)

/-- The id that a specifier means in a module. -/
def resolveImport (chain : List (Provider Action)) (id specifier : String) : Action String := do
  match ← Chain.resolve chain specifier (some id) with
  | some target => pure target
  | none => Action.fail (.unresolved specifier id)

/-- Follows the imports of a module one after the other; `visit` adds a module and what it
imports. -/
def followImports (chain : List (Provider Action))
    (visit : String → ModuleGraph → Action ModuleGraph) (id : String) :
    List String → ModuleGraph → Action ModuleGraph
  | [], g => pure g
  | specifier :: rest, g => do
    let target ← resolveImport chain id specifier
    let g ← visit target g
    followImports chain visit id rest (g.resolve id specifier target)

/-- Adds a module and what it imports to a graph, unless it is there. -/
def visit (chain : List (Provider Action)) :
    Nat → Bool → String → ModuleGraph → Action ModuleGraph
  | 0, _, id, g => if g.contains id then pure g else Action.halt .importDepthExceeded
  | depth + 1, isEntry, id, g =>
    if g.contains id then pure g
    else Action.inModule id do
      let (code, syntax_) ← prepare chain id
      followImports chain (visit chain depth false) id syntax_.dependencies
        (g.add ⟨id, code, syntax_, isEntry, Dict.empty⟩)

end Pass

/-- The entries that a pass lays over the registry: the entry module, and a pasted component with
its style blocks preprocessed. -/
def overlayEntries (env : Environment) (source : String) : List FileEntry :=
  if Component.isComponent source then
    [FileEntry.ofPath componentPath
        (Component.preprocess env.styleCompiler env.config.styles.languages source),
      FileEntry.ofPath entryPath (Component.mountEntry ("./" ++ componentPath))]
  else [FileEntry.ofPath entryPath source]

/-- The graph of a pasted source in which at most `depth` modules import each other in a row. -/
def buildGraphWithin (depth : Nat) (source : String) : Action ModuleGraph := do
  Action.modify (·.resetStyles)
  let env ← Action.environment
  let registry := (← Action.session).registry.overlay (overlayEntries env source)
  Pass.visit (providers env.config registry) depth true entryId ModuleGraph.empty

/-- The graph of a pasted source. -/
def buildGraph (source : String) : Action ModuleGraph := do
  buildGraphWithin (← Action.environment).importDepth source

/-- The bundle of a pasted source. -/
def bundle (source : String) : Action String := do
  let graph ← buildGraph source
  pure (link graph (← Action.environment).config.output.name)

/-- The outcome of a pass. -/
inductive Compilation where
  | success (code styles : String)
  | failure (report : String)
deriving DecidableEq, Repr

/-- Runs a pass. A pass that succeeds confirms the registry. -/
def compile (env : Environment) (source : String) (s : Session) : Compilation × Session :=
  match bundle source env s with
  | (.ok code, s) => (.success code s.styles, s.markRefreshed)
  | (.error h, s) => (.failure h.report, s)

end LiveBundle
