import LiveBundle.Path.Glob
import LiveBundle.Path.Relative
import LiveBundle.Registry.Basic
import LiveBundle.Sort
import LiveBundle.Text.Utf8

/-!
# Scanning a library

A scan collects the files of a directory tree in a registry. It looks at files with the extensions
of a library, passes over hidden directories and installed packages, and leaves out paths that match
a pattern.

* `scanLibrary` scans a tree.
-/

namespace LiveBundle

/-- A tree of directories and files. -/
inductive FileTree where
  /-- A file with its bytes. -/
  | file (bytes : List Nat)
  | directory (entries : List (String × FileTree))

instance : Inhabited FileTree := ⟨.directory []⟩

/-- Why a scan failed. -/
inductive ScanFault where
  | invalidPattern (pattern : String) (fault : Glob.Fault)
  /-- There is nothing at the root. -/
  | missingRoot (root : String)
  /-- A file is not text. -/
  | notText (path : String)
deriving DecidableEq, Repr

/-- The wording of a failure. -/
def ScanFault.message : ScanFault → String
  | .invalidPattern pattern _ => "Invalid ignore pattern: " ++ pattern
  | .missingRoot root => "Failed to scan " ++ root
  | .notText path => "Failed to read " ++ path

namespace Scan

/-- The extensions of files that a scan looks at. -/
def extensions : List String := [".svelte", ".js", ".ts", ".json", ".css", ".scss", ".svg"]

/-- Whether a file name has one of the extensions. -/
def isScanned (name : String) : Bool := extensions.any (Text.hasSuffix · name)

/-- Whether a directory below the root is passed over. -/
def isSkipped (name : String) : Bool := Text.hasPrefix "." name || name == "node_modules"

/-- Whether a tree is a directory. -/
def isDirectory : FileTree → Bool
  | .directory _ => true
  | .file _ => false

/-- Items in the order of their names. -/
def sortByName {α : Type} (items : List (String × α)) : List (String × α) :=
  sortBy (fun a b => a.1 < b.1) items

mutual

/-- The files of a tree in the order of their names, each with the names on the way to it behind
those given. -/
def files (path : List String) : FileTree → List (List String × List Nat)
  | .file bytes => [(path, bytes)]
  | .directory entries => (sortByName (entryFiles path entries)).flatMap (·.2)

/-- The names of the entries of a directory that are not passed over, each with its files. -/
def entryFiles (path : List String) :
    List (String × FileTree) → List (String × List (List String × List Nat))
  | [] => []
  | (name, tree) :: rest =>
    if isDirectory tree && isSkipped name then entryFiles path rest
    else (name, files (path ++ [name]) tree) :: entryFiles path rest

end

/-- The path of a file below the root of the library. -/
def relativePath (names : List String) : String :=
  Path.forwardSlashes (Text.joinWith "/" names)

/-- The path of a file of the file system, from the root of the library on. -/
def place (root : String) (names : List String) : String :=
  if names = [] then root else Path.below root (Text.joinWith "/" names)

/-- Adds a file to a registry, unless a pattern leaves it out. The file at the root itself has no
names on the way to it. -/
def add (root : String) (globs : List Glob) (r : Registry) (file : List String × List Nat) :
    Except ScanFault Registry :=
  let (names, bytes) := file
  let path := relativePath names
  if !isScanned (names.getLast?.getD (Path.fileName root)) || globs.any (·.isMatch path) then .ok r
  else match Text.Utf8.decode? bytes with
    | some text => .ok (r.insert (FileEntry.ofPath path (String.ofList text)))
    | none => .error (.notText (place root names))

/-- Reads a pattern. -/
def readPattern (pattern : String) : Except ScanFault Glob :=
  match Glob.parse pattern with
  | .ok g => .ok g
  | .error fault => .error (.invalidPattern pattern fault)

end Scan

/-- The registry of the files below a root, those left out whose path matches one of the patterns.
There may be nothing at the root. -/
def scanLibrary (root : String) (ignore : List String) (tree : Option FileTree) :
    Except ScanFault Registry := do
  let globs ← ignore.mapM Scan.readPattern
  match tree with
  | none => .error (.missingRoot root)
  | some tree => (Scan.files [] tree).foldlM (Scan.add root globs) Registry.empty

end LiveBundle
