import LiveBundle.Config.Basic
import LiveBundle.Json.Reader
import LiveBundle.Provider.Basic
import LiveBundle.Session
import LiveBundle.Web.Percent

/-!
# The provider of library files

Local imports are served from the registry under ids with the prefix `virtual:file/`. The facade
stands for a module that exports every component by its name. A missing file gets a placeholder in
place of its content, vector images become data URIs, and data files a default export.

* `LibraryFile.index` writes the module behind the facade.
* `libraryProvider` is the provider.
-/

namespace LiveBundle

namespace LibraryFile

/-- The image in place of a missing one. -/
def emptyImage : String :=
  "<svg xmlns=\"http://www.w3.org/2000/svg\" viewBox=\"0 0 10 10\"></svg>"

/-- The content of a file that is missing. -/
def placeholder (path : String) : String :=
  if Text.hasSuffix Specifier.componentExtension path then
    "<div>Component not found: " ++ path ++ "</div>"
  else if Text.hasSuffix Specifier.vectorExtension path then emptyImage
  else "/* File not found: " ++ path ++ " */"

/-- The extension of data files. -/
def dataExtension : String := ".json"

/-- The characters that stay as they are in a data URI. Quotes of both kinds do not. -/
def isKeptInDataUri (c : Char) : Bool := Web.Percent.isUriComponent c && c != '\''

/-- The data URI of a vector image. -/
def dataUri (image : String) : String :=
  "data:image/svg+xml;charset=utf-8," ++
    String.ofList (Web.Percent.encode isKeptInDataUri image.toList)

/-- Components that are exported by the index: those with an identifier for a name that does not
start with two underscores. Of several with one name the first counts. -/
def indexed (components : List FileEntry) : List FileEntry :=
  components.foldl (fun acc e =>
    if Text.hasPrefix "__" e.name || !Specifier.isIdentifier e.name ||
        acc.any (·.name == e.name) then acc
    else acc ++ [e]) []

/-- The line of the index for a component. -/
def indexLine (e : FileEntry) : String :=
  "export \x7b default as " ++ e.name ++ " \x7d from '" ++ Specifier.fileId e.path ++ "';\n"

/-- The module that exports every component by its name. -/
def index (registry : Registry) : String :=
  Text.concat ((indexed registry.components).map indexLine)

/-- The id of the library file that a specifier means. Imports of remote modules are not looked at,
apart from the facade. -/
def resolve (facade : Config.Facade) (specifier : String) (importer : Option String) :
    Option String :=
  if Text.hasPrefix Specifier.filePrefix specifier then some specifier
  else if Specifier.isStylesheet specifier then none
  else if specifier = facade.specifier then some (Specifier.fileId facade.index)
  else if importer.any Specifier.isRemote then none
  else if Specifier.isRelative specifier then
    ((importer.bind Specifier.filePath?).bind (Path.resolve · specifier)).map Specifier.fileId
  else if Specifier.isLocalFile specifier then some (Specifier.fileId specifier)
  else none

/-- The content of a library file. -/
def load (facade : Config.Facade) (registry : Registry) (id : String) : Option String :=
  (Specifier.filePath? id).map fun path =>
    match registry.find? path with
    | some e => e.source
    | none => if path = facade.index then index registry else placeholder path

/-- Whether a library file is a vector image, by its id or by its entry. -/
def isVector (registry : Registry) (id path : String) : Bool :=
  Text.hasSuffix Specifier.vectorExtension id ||
    (registry.get? path).any (·.extension == Specifier.vectorExtension)

/-- The module of a vector image or of a data file. -/
def transform (registry : Registry) (code id : String) : Except BundleError (Option String) :=
  match Specifier.filePath? id with
  | none => .ok none
  | some path =>
    if isVector registry id path then
      .ok (some ("export default \"" ++ dataUri code ++ "\";"))
    else if Text.hasSuffix dataExtension id then
      match Json.parse code with
      | .ok _ =>
        .ok (some ("export default " ++ String.ofList (Text.trim code.toList) ++ ";"))
      | .error fault => .error (.compile
          { message := "Invalid JSON in " ++ path ++ ": " ++ fault.message code })
    else .ok none

end LibraryFile

/-- The provider of the files of a registry. -/
def libraryProvider (facade : Config.Facade) (registry : Registry) : Provider Action where
  name := "virtual-file"
  resolve := fun specifier importer => pure (LibraryFile.resolve facade specifier importer)
  load := fun id => pure (LibraryFile.load facade registry id)
  transform := fun code id => Action.ofExcept (LibraryFile.transform registry code id)

end LiveBundle
