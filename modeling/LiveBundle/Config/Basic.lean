import LiveBundle.Path.Relative
import LiveBundle.Specifier

/-!
# Configuration

What a user can set: where the library and its registry are, the content delivery network that
packages come from, the facade of the library, the style languages, the name of the bundle and the
address of the server. Every setting has a default.

* `Config.validate` refuses settings that a bundle cannot be made with.
-/

namespace LiveBundle

/-- The project. -/
structure Config.Project where
  name : String := "playground"
deriving DecidableEq, Repr

/-- Where the library is. -/
structure Config.Library where
  /-- The file of the registry. -/
  path : String := "registry.json"
  /-- The directory that is scanned. -/
  root : String := "src/lib"
  /-- Patterns of the paths that a scan leaves out. -/
  ignore : List String := []
deriving DecidableEq, Repr

/-- Where packages come from. -/
structure Config.Remote where
  /-- The base URL of the content delivery network. -/
  cdn : String := "https://unpkg.com"
  /-- The seconds that a request may take; zero means any number. -/
  timeout : Nat := 30
deriving DecidableEq, Repr

/-- The import that stands for the whole library. -/
structure Config.Facade where
  /-- The specifier. -/
  specifier : String := "sourcegraph-ui"
  /-- The path of the module that it means. -/
  index : String := "lib/components/index.ts"
deriving DecidableEq, Repr

/-- How style blocks are handled. -/
structure Config.Styles where
  /-- The languages whose blocks are compiled. -/
  languages : List String := ["scss"]
deriving DecidableEq, Repr

/-- The bundle. -/
structure Config.Output where
  /-- The variable that the bundle is assigned to. -/
  name : String := "playground"
deriving DecidableEq, Repr

/-- The server of workers. -/
structure Config.Server where
  port : Nat := 5178
  host : String := "localhost"
deriving DecidableEq, Repr

/-- All settings. -/
structure Config where
  project : Config.Project := {}
  library : Config.Library := {}
  remote : Config.Remote := {}
  facade : Config.Facade := {}
  styles : Config.Styles := {}
  output : Config.Output := {}
  server : Config.Server := {}
deriving DecidableEq, Repr

/-- Why a configuration is refused. -/
inductive Config.Fault where
  /-- The text is not in the format, or a setting has the wrong kind of value. -/
  | unreadable
  | remoteScheme (cdn : String)
  | emptyFacade
  | outputName (name : String)
deriving DecidableEq, Repr

/-- The name of the configuration file. -/
def Config.fileName : String := "playground.toml"

/-- The wording of a refusal. -/
def Config.Fault.message : Config.Fault → String
  | .unreadable => "Failed to parse " ++ Config.fileName
  | .remoteScheme cdn => "remote.cdn must be an http(s) URL, got '" ++ cdn ++ "'"
  | .emptyFacade => "library.facade must not be empty"
  | .outputName name => "output.name must be a valid identifier, got '" ++ name ++ "'"

namespace Config

/-- Whether a text holds only characters of ASCII identifiers. -/
def isOutputName (name : String) : Bool := name != "" && name.toList.all Specifier.isNamePart

/-- Refuses settings that a bundle cannot be made with; the first one in this order is reported. -/
def validate (c : Config) : Except Fault Config :=
  if !Specifier.isRemote c.remote.cdn then .error (.remoteScheme c.remote.cdn)
  else if c.facade.specifier = "" then .error .emptyFacade
  else if !isOutputName c.output.name then .error (.outputName c.output.name)
  else .ok c

/-- The base URL of packages, without slashes at its end. -/
def cdnBase (c : Config) : String :=
  String.ofList ((c.remote.cdn.toList.reverse.dropWhile (· = '/')).reverse)

/-- The file of the registry, seen from the directory of the configuration. -/
def registryPath (root : String) (c : Config) : String := Path.below root c.library.path

/-- The directory of the library, seen from the directory of the configuration. -/
def libraryRoot (root : String) (c : Config) : String := Path.below root c.library.root

end Config

end LiveBundle
