import LiveBundle.Json.Decode
import LiveBundle.Provider.Basic
import LiveBundle.Session
import LiveBundle.Specifier.Package
import LiveBundle.Web.Url

/-!
# The provider of packages

Bare imports become URLs on the content delivery network; the entry point of a package is looked up
in its description once. Imports of remote modules are followed from the URL that their text really
came from. Fetched texts are kept in the session.

* `Manifest.entryPoint` chooses the entry point of a package.
* `remoteProvider` is the provider.
-/

namespace LiveBundle

/-- The members of a package description that name its entry point. -/
structure Manifest where
  browser : Option Json := none
  module_ : Option Json := none
  main : Option Json := none

namespace Manifest

open Json.Reader (Member) in
/-- The members that are read. -/
def fields : List (Member Manifest) :=
  let value (depth : Nat) : Json.Reader (Option Json) :=
    Json.Reader.optional (Json.Reader.value depth)
  [⟨"browser", false, fun depth m => do pure { m with browser := ← value depth }⟩,
    ⟨"module", false, fun depth m => do pure { m with module_ := ← value depth }⟩,
    ⟨"main", false, fun depth m => do pure { m with main := ← value depth }⟩]

/-- Reads a package description. -/
def decode (text : String) : Except Json.Fault Manifest :=
  Json.Reader.whole (Json.Reader.record "PackageManifest" fields {} Json.maxDepth) text

/-- The entry point of a package whose description names none. -/
def defaultEntry : String := "index.js"

/-- The entry point: the first member that names a file, without any `./` in front. -/
def entryPoint (m : Manifest) : String :=
  let named := [m.browser, m.module_, m.main].filterMap fun value => value.bind Json.asString?
  Text.trimDotSlash ((named.find? (· != "")).getD defaultEntry)

end Manifest

namespace Remote

/-- The URL that a path means in a remote module, seen from where the text of that module came. -/
def follow (specifier importer : String) : Action String := do
  let base := ((← Action.session).redirects.get? importer).getD importer
  match (Web.Url.parse base).bind (·.join specifier) with
  | .ok url => pure url.text
  | .error fault => Action.fail (.resolve specifier fault.message)

/-- The entry point of a package; none if the network does not know the package. -/
def entryPoint (package : Package) (specifier : String) : Action (Option String) := do
  match (← Action.session).entryPoints.get? package.cacheKey with
  | some entry => pure (some entry)
  | none =>
    let url := package.baseUrl (← Action.environment).config.cdnBase ++ "/package.json"
    match ← Action.fetch url with
    | .error fault => Action.fail (.resolve specifier fault.message)
    | .ok response =>
      if response.status = 404 then pure none
      else if !response.isSuccess then
        Action.fail (.resolve specifier
          (url ++ " returned " ++ toString response.status ++ " " ++ response.reason))
      else match Manifest.decode response.body with
        | .error fault => Action.fail (.resolve specifier
            ("invalid package.json: " ++ fault.message response.body))
        | .ok manifest => do
          Action.modify (·.keepEntryPoint package.cacheKey manifest.entryPoint)
          pure (some manifest.entryPoint)

/-- The URL of a package import. -/
def resolvePackage (package : Package) (specifier : String) : Action (Option String) := do
  let base := package.baseUrl (← Action.environment).config.cdnBase
  match package.subpath with
  | some subpath => pure (some (base ++ "/" ++ subpath))
  | none => do
    match ← entryPoint package specifier with
    | some entry => pure (some (base ++ "/" ++ entry))
    | none => pure none

/-- The URL that a specifier means. -/
def resolve (specifier : String) (importer : Option String) : Action (Option String) :=
  if Specifier.isRemote specifier then pure (some specifier)
  else if Text.hasPrefix "virtual:" specifier || Text.hasPrefix "\x00" specifier then pure none
  else if Specifier.isRelative specifier || Text.hasPrefix "/" specifier then
    match importer.filter Specifier.isRemote with
    | some importer => do pure (some (← follow specifier importer))
    | none => pure none
  else match Package.parse specifier with
    | some package => resolvePackage package specifier
    | none => pure none

/-- Notes where a response came from, if that is not where it was asked for. -/
def noteRedirect (url : String) (response : Web.Response) : Action Unit :=
  if response.url = url then pure () else Action.modify (·.keepRedirect url response.url)

/-- Requests the text of a URL and keeps it. A redirect is noted before the status is looked at. -/
def request (url : String) : Action String := do
  match ← Action.fetch url with
  | .error fault => Action.fail (.fetch url fault.message)
  | .ok response => do
    noteRedirect url response
    if response.isSuccess then
      Action.modify (·.keepContent url response.body)
      pure response.body
    else Action.fail (.httpStatus url response.status response.reason)

/-- The text of a URL. -/
def load (id : String) : Action (Option String) := do
  if Specifier.isRemote id then
    match (← Action.session).contents.get? id with
    | some content => pure (some content)
    | none => do pure (some (← request id))
  else pure none

end Remote

/-- The provider of packages and remote modules. -/
def remoteProvider : Provider Action :=
  { Provider.idle "remote" with
    resolve := Remote.resolve
    load := Remote.load }

end LiveBundle
