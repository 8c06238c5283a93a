import LiveBundle.Path

/-!
# Paths of the file system

A path of the file system is a list of components: the root, the current directory in front, the
parent directory, or a name. Empty segments and later `.` segments name nothing. `relativeTo` walks
from one directory to another by components and never looks at the file system.
-/

namespace LiveBundle.Path

/-- One step of a path of the file system. -/
inductive Component where
  | root
  | current
  | parent
  | name (text : List Char)
deriving DecidableEq

/-- The components of a path. -/
def components (path : String) : List Component :=
  let rooted := path.toList.head? = some '/'
  let parts := segments path.toList
  let front := if rooted then [.root] else if parts.head? = some ['.'] then [.current] else []
  front ++ parts.filterMap fun part =>
    if part = [] ∨ part = ['.'] then none
    else if part = ['.', '.'] then some .parent
    else some (.name part)

/-- Whether a path starts at the root. -/
def isAbsolute (path : String) : Bool := path.toList.head? == some '/'

/-- The text of a component below the first. -/
def Component.segment : Component → List Char
  | .root => []
  | .current => ['.']
  | .parent => ['.', '.']
  | .name text => text

/-- Components written with `/` between them. -/
def ofComponents : List Component → String
  | .root :: rest => String.ofList ('/' :: Text.join ['/'] (rest.map Component.segment))
  | all => String.ofList (Text.join ['/'] (all.map Component.segment))

/-- The components that lead from the base to the path once the components they share in front are
gone. A parent step of the base cannot be undone by name; a current-directory step needs none. -/
def walk : Bool → List Component → List Component → Option (List Component)
  | _, [], base => some (base.map fun _ => .parent)
  | _, path, [] => some path
  | started, p :: path, b :: base =>
    if !started && p = b then walk false path base
    else if b = .current then (walk true path base).map (p :: ·)
    else if b = .parent then none
    else some (.parent :: base.map (fun _ => .parent) ++ p :: path)

/-- Backslashes as slashes. -/
def forwardSlashes (path : String) : String :=
  String.ofList (path.toList.map fun c => if c = '\\' then '/' else c)

/-- The path from the directory `base` to `path`, with forward slashes. A rooted path is its own
answer under a base that is not rooted; the other way round there is none. -/
def relativeTo (base path : String) : Option String :=
  if isAbsolute path = isAbsolute base then
    (walk false (components path) (components base)).map fun steps =>
      forwardSlashes (ofComponents steps)
  else if isAbsolute path then some (forwardSlashes path)
  else none

/-- Joins a path to a directory; a rooted path stays as it is. -/
def below (dir path : String) : String :=
  if isAbsolute path then path
  else if dir = "" then path
  else if Text.hasSuffix "/" dir then dir ++ path
  else dir ++ "/" ++ path

end LiveBundle.Path
