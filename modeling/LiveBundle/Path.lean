import LiveBundle.Text.Basic

/-!
# Paths of the file library

Files of the library are named by paths with `/` between the segments, relative to the library's
root. A path is in normal form when no segment is empty, `.` or `..`.

* `clean` brings a path into normal form, or fails when `..` would leave the root.
* `parent` and `fileName` are the parts before and after the last `/`.
* `resolve` follows a relative path from the directory of a file.
-/

namespace LiveBundle.Path

/-- The segments of a path. -/
def segments (path : List Char) : List (List Char) := Text.fields '/' path

/-- One segment applied to the segments collected so far, innermost first. -/
def step (stack : List (List Char)) (segment : List Char) : Option (List (List Char)) :=
  if segment = [] ∨ segment = ['.'] then some stack
  else if segment = ['.', '.'] then
    match stack with
    | [] => none
    | _ :: rest => some rest
  else some (segment :: stack)

/-- The segments of the normal form, innermost first, after those on the stack. -/
def collapse : List (List Char) → List (List Char) → Option (List (List Char))
  | stack, [] => some stack
  | stack, segment :: rest =>
    match step stack segment with
    | none => none
    | some stack' => collapse stack' rest

/-- The normal form of a path; nothing if `..` climbs above the root. -/
def clean (path : String) : Option String :=
  (collapse [] (segments path.toList)).map fun stack =>
    String.ofList (Text.join ['/'] stack.reverse)

/-- The directory of a path, empty at the root. -/
def parent (path : String) : String :=
  match Text.splitAtLast? '/' path.toList with
  | some (dir, _) => String.ofList dir
  | none => ""

/-- The last segment of a path. -/
def fileName (path : String) : String :=
  match Text.splitAtLast? '/' path.toList with
  | some (_, name) => String.ofList name
  | none => path

/-- `relative` seen from the directory of the file `importer`, in normal form. -/
def resolve (importer relative : String) : Option String :=
  clean (parent importer ++ "/" ++ relative)

end LiveBundle.Path
