import LiveBundle.Dict
import LiveBundle.Specifier

/-!
# The registry of library files

The registry maps paths to the files of the component library. `FileEntry.ofPath` derives the
fields of an entry from its path; entries that are read from a file may disagree with it.

* `Registry.find?` looks a path up, and then the path without its first segments.
* `Registry.overlay` lays further files on top of a registry.
-/

namespace LiveBundle

/-- A file of the library. -/
structure FileEntry where
  /-- The file name without its extension. -/
  name : String
  /-- The path below the root of the library. -/
  path : String
  source : String
  /-- The extension with its dot, or nothing. -/
  extension : String
  isComponent : Bool
  isBinary : Bool
  /-- The directory below the root, `.` for the root. -/
  directory : String
deriving DecidableEq, Repr

/-- A file name without its extension, and the extension from the last dot on. A dot in front does
not start an extension. -/
def FileEntry.splitName (fileName : String) : String × String :=
  match Text.splitAtLast? '.' fileName.toList with
  | some (c :: stem, extension) =>
    (String.ofList (c :: stem), String.ofList ('.' :: extension))
  | _ => (fileName, "")

/-- The entry of a path and a content. -/
def FileEntry.ofPath (path source : String) : FileEntry :=
  let path := Text.trimDotSlash path
  let (name, extension) := splitName (Path.fileName path)
  { name, path, source, extension
    isComponent := extension == Specifier.componentExtension
    isBinary := extension == Specifier.vectorExtension
    directory := match Text.splitAtLast? '/' path.toList with
      | some (directory, _) => String.ofList directory
      | none => "." }

/-- The files of a library, by path. -/
structure Registry where
  files : Dict FileEntry

namespace Registry

/-- The registry without files. -/
def empty : Registry := ⟨Dict.empty⟩

instance : Inhabited Registry := ⟨empty⟩

/-- Puts an entry under its path. -/
def insert (r : Registry) (entry : FileEntry) : Registry := ⟨r.files.insert entry.path entry⟩

/-- Puts entries into a registry one after the other. -/
def overlay (r : Registry) (entries : List FileEntry) : Registry := entries.foldl insert r

/-- The registry of some entries; the last of several with one path stays. -/
def ofEntries (entries : List FileEntry) : Registry := empty.overlay entries

/-- The entry stored under a path. -/
def get? (r : Registry) (path : String) : Option FileEntry := r.files.get? path

/-- The suffixes of a path that start behind a `/`, longest first. -/
def suffixes : List Char → List (List Char)
  | [] => []
  | c :: cs => if c = '/' then cs :: suffixes cs else suffixes cs

/-- The entry of a path, or of its longest suffix behind a `/` that has one. -/
def find? (r : Registry) (path : String) : Option FileEntry :=
  (path.toList :: suffixes path.toList).findSome? fun p => r.get? (String.ofList p)

/-- The components in path order. -/
def components (r : Registry) : List FileEntry := r.files.values.filter (·.isComponent)

/-- The number of files. -/
def size (r : Registry) : Nat := r.files.size

/-- Whether there is no file. -/
def isEmpty (r : Registry) : Bool := r.files.isEmpty

/-- The paths in order. -/
def paths (r : Registry) : List String := r.files.keys

end Registry

end LiveBundle
