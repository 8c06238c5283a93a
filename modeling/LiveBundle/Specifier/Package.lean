import LiveBundle.Text.Basic

/-!
# Package specifiers

A bare import such as `lodash-es@4/debounce.js` names a package, maybe with a scope, a version
after `@` and a path inside the package after `/`.
-/

namespace LiveBundle

/-- A package import. -/
structure Package where
  /-- The package's name, with its scope. -/
  name : String
  version : String
  /-- The path inside the package; never empty. -/
  subpath : Option String
deriving DecidableEq, Repr

namespace Package

/-- The version that stands for an absent one. -/
def defaultVersion : String := "latest"

/-- The scope, if the specifier starts with `@`, and what follows the scope. A scope without a `/`
behind it names no package. -/
def splitScope (specifier : List Char) : Option (Option (List Char) × List Char) :=
  match specifier with
  | '@' :: rest => (Text.splitAt? '/' rest).map fun (scope, rest) => (some scope, rest)
  | _ => some (none, specifier)

/-- Reads a package specifier; it fails on an empty name or scope. -/
def parse (specifier : String) : Option Package := do
  let (scope, rest) ← splitScope specifier.toList
  let (nameVersion, subpath) := match Text.splitAt? '/' rest with
    | some (front, subpath) => (front, subpath)
    | none => (rest, [])
  let (name, version) := (Text.splitAt? '@' nameVersion).getD (nameVersion, [])
  if name = [] ∨ scope = some [] then none
  else some {
    name := String.ofList (match scope with
      | some scope => '@' :: scope ++ '/' :: name
      | none => name)
    version := if version = [] then defaultVersion else String.ofList version
    subpath := if subpath = [] then none else some (String.ofList subpath) }

/-- Name and version, the key under which an entry point is remembered. -/
def cacheKey (p : Package) : String := p.name ++ "@" ++ p.version

/-- The root of the package on a content delivery network. -/
def baseUrl (p : Package) (cdn : String) : String := cdn ++ "/" ++ p.cacheKey

end Package

end LiveBundle
