import LiveBundle.Path

/-!
# Import specifiers

The text between the quotes of an import. Its form tells who resolves it: relative paths, remote
URLs, stylesheets, files of the library under the prefix `virtual:file/`, or packages
(`LiveBundle.Specifier.Package`).
-/

namespace LiveBundle.Specifier

/-- The prefix of every module id that names a file of the library. -/
def filePrefix : String := "virtual:file/"

/-- The extension of single-file components. -/
def componentExtension : String := ".svelte"

/-- The extension of vector images. -/
def vectorExtension : String := ".svg"

/-- Relative paths start with `./` or `../`. -/
def isRelative (specifier : String) : Bool :=
  Text.hasPrefix "./" specifier || Text.hasPrefix "../" specifier

/-- Whether the specifier is a complete `http` or `https` URL. -/
def isRemote (specifier : String) : Bool :=
  Text.hasPrefix "https://" specifier || Text.hasPrefix "http://" specifier

/-- Stylesheets are told by their extension. -/
def isStylesheet (specifier : String) : Bool :=
  Text.hasSuffix ".css" specifier || Text.hasSuffix ".scss" specifier

/-- The characters that start an ASCII identifier. -/
def isNameStart (c : Char) : Bool := c.isAlpha || c == '_' || c == '$'

/-- The characters that continue an ASCII identifier. -/
def isNamePart (c : Char) : Bool := c.isAlpha || c.isDigit || c == '_' || c == '$'

/-- ASCII identifiers of scripts. -/
def isIdentifier (name : String) : Bool :=
  match name.toList with
  | [] => false
  | c :: cs => isNameStart c && cs.all isNamePart

/-- The library path named by a module id. -/
def filePath? (id : String) : Option String := Text.stripPrefix? filePrefix id

/-- The module id of a library path. -/
def fileId (path : String) : String := filePrefix ++ path

/-- A bare specifier that names a file of the library and not a package: it has a dot, and its
first segment carries neither a scope nor a version. -/
def isLocalFile (specifier : String) : Bool :=
  let cs := specifier.toList
  !(Text.hasPrefix "virtual:" specifier || Text.hasPrefix "http" specifier ||
    Text.hasPrefix "/" specifier || cs.head? == some '\x00') &&
  cs.contains '.' && !((Text.fields '/' cs).headD cs).contains '@'

end LiveBundle.Specifier
