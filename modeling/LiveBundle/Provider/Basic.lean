import LiveBundle.Specifier

/-!
# Providers

A provider takes part in bundling with three hooks: it may name the module that a specifier means,
give the content of a module, and change that content. Each hook may also leave the matter to
others. Providers stand in a chain; for names and contents the first answer counts, while changes
are made one after the other.

Two providers stand for imports that have nothing to give. Stylesheets become empty modules, since
styles reach a page only through components; and what nobody else claims becomes one, too. The id
of a stub starts with a null character, which no other id does.

* `Provider` is generic in the effects of its hooks.
* `Chain.resolve`, `Chain.load`, `Chain.transform` run a chain.
* `styleStubProvider`, `catchAllProvider` are the providers of stubs.
-/

namespace LiveBundle

/-- A provider with effects in `m`. -/
structure Provider (m : Type → Type) where
  name : String
  /-- The id of the module that a specifier means, seen from the module that imports it. -/
  resolve : String → Option String → m (Option String)
  /-- The content of the module with an id. -/
  load : String → m (Option String)
  /-- The changed content of the module with an id. -/
  transform : String → String → m (Option String)

/-- The provider that leaves everything to others. -/
def Provider.idle {m : Type → Type} [Pure m] (name : String) : Provider m where
  name := name
  resolve := fun _ _ => pure none
  load := fun _ => pure none
  transform := fun _ _ => pure none

namespace Chain

variable {m : Type → Type} [Monad m]

/-- The first id that a provider gives for a specifier. -/
def resolve : List (Provider m) → String → Option String → m (Option String)
  | [], _, _ => pure none
  | p :: ps, specifier, importer => do
    match ← p.resolve specifier importer with
    | some id => pure (some id)
    | none => resolve ps specifier importer

/-- The first content that a provider gives for a module. -/
def load : List (Provider m) → String → m (Option String)
  | [], _ => pure none
  | p :: ps, id => do
    match ← p.load id with
    | some content => pure (some content)
    | none => load ps id

/-- The content after all changes. -/
def transform : List (Provider m) → String → String → m String
  | [], code, _ => pure code
  | p :: ps, code, id => do
    match ← p.transform code id with
    | some changed => transform ps changed id
    | none => transform ps code id

end Chain

/-! ## Stubs -/

/-- The prefix of ids of stubbed stylesheets. -/
def styleStubPrefix : String := "\x00empty-style:"

/-- The prefix of ids of other stubs. -/
def stubPrefix : String := "\x00empty:"

variable {m : Type → Type} [Pure m]

/-- Turns imports of stylesheets into stubs. -/
def styleStubProvider : Provider m :=
  { Provider.idle "empty-style" with
    resolve := fun specifier _ => pure <|
      if Specifier.isStylesheet specifier then some (styleStubPrefix ++ specifier) else none
    load := fun id => pure <|
      if Text.hasPrefix styleStubPrefix id then
        some "export default \x7b\x7d; // Empty style module"
      else none }

/-- Whether an import is not turned into a stub: it says itself where it is to be found. -/
def isAddressed (specifier : String) : Bool :=
  Text.hasPrefix "https://" specifier || Text.hasPrefix "virtual:" specifier ||
    Specifier.isRelative specifier

/-- Turns imports that nobody else claims into stubs. -/
def catchAllProvider : Provider m :=
  { Provider.idle "catch-all" with
    resolve := fun specifier _ => pure <|
      if isAddressed specifier then none else some (stubPrefix ++ specifier)
    load := fun id => pure <|
      if Text.hasPrefix stubPrefix id then some "export default \x7b\x7d; // Empty module"
      else none }

end LiveBundle
