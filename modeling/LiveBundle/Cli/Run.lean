import LiveBundle.Cli.Arguments
import LiveBundle.Cli.Host
import LiveBundle.Config.Contract
import LiveBundle.Text.Quantity
import LiveBundle.Worker

/-!
# Commands

The commands of the program, on any host: a worker on the standard input, bundling a file, and
scanning the library.

* `run` reads a command line and runs it; it gives the exit status.
-/

namespace LiveBundle.Cli

/-- The name of the program. -/
def programName : String := "playground"

/-- The version of the program. -/
def programVersion : String := "0.3.0"

/-- The variable of the environment that names the registry file. -/
def registryVariable : String := "PLAYGROUND_REGISTRY"

/-- The lines that some commands start with. -/
def banner : String := "\n⚡ Playground v" ++ programVersion ++ "\n\n"

/-- A short overview of the commands. -/
def usage : String :=
  "Usage: " ++ programName ++ " [OPTIONS] <COMMAND>\n\nCommands:\n" ++
    "  worker  Answer worker messages from stdin, one JSON object per line\n" ++
    "  serve   Serve workers over WebSocket\n" ++
    "  bundle  Bundle a single source file\n" ++
    "  scan    Scan the component library into a registry file\n"

variable {m : Type → Type} [Monad m]

/-- A configuration and the directory that its paths are seen from. -/
structure Setup where
  config : Config
  root : String

/-- The failure of a file operation. -/
def fileFailure (what path : String) (fault : FileFault) : Failure :=
  ⟨what ++ path, [fault.message]⟩

/-- Reads the configuration. The usual file may be absent. -/
def readConfig (host : Host m) (path : String) : m (Except Failure Setup) := do
  let directory ← host.directory
  if path = Config.fileName && !(← host.contains path) then
    pure (.ok ⟨{}, directory⟩)
  else
    let full := Path.below directory path
    match ← host.readText full with
    | .error fault => pure (.error (fileFailure "Failed to read config file: " full fault))
    | .ok text =>
      match Config.decode text with
      | .error fault => pure (.error ⟨fault.message, []⟩)
      | .ok config => pure (.ok ⟨config, Path.parent full⟩)

/-- Reads the registry that a session starts from. Without a file it is empty. -/
def readRegistry (host : Host m) (path : String) : m (Except Failure Registry) := do
  if !(← host.contains path) then pure (.ok Registry.empty)
  else match ← host.readText path with
    | .error fault => pure (.error (fileFailure "Failed to read registry: " path fault))
    | .ok text =>
      match Registry.decode text with
      | .ok registry => pure (.ok registry)
      | .error fault =>
        pure (.error ⟨"Failed to parse registry: " ++ path, [fault.message text]⟩)

/-- The environment of a session. -/
def environmentOf (host : Host m) (styles : Style.Compiler) (config : Config) : Environment :=
  { config, network := host.network, styleCompiler := styles }

/-- Answers the messages of the standard input; blank lines are passed over. -/
def runWorker (host : Host m) (env : Environment) (registry : Registry) :
    m (Except Failure Unit) := do
  let _ ← host.foldLines (fun line s => do
    if line.toList.all Text.isBlank then pure s
    else
      let (reply, s) := Worker.handleText env line s
      match reply with
      | some reply => host.print (reply ++ "\n")
      | none => pure ()
      pure s) (Session.start registry)
  pure (.ok ())

/-- The path with another extension: what stands behind the last dot of its last name is replaced,
unless the dot comes first. -/
def withExtension (path extension : String) : String :=
  let trimmed := (path.toList.reverse.dropWhile (· = '/')).reverse
  let (front, name) := match Text.splitAtLast? '/' trimmed with
    | some (front, name) => (front ++ ['/'], name)
    | none => ([], trimmed)
  if name = [] ∨ name = ['.', '.'] then path
  else
    let stem := match Text.splitAtLast? '.' name with
      | some (c :: cs, _) => c :: cs
      | _ => name
    String.ofList (front ++ stem) ++ "." ++ extension

/-- Writes a result and reports it. -/
def writeResult (host : Host m) (path text : String) : m (Except Failure Unit) := do
  match ← host.writeText path text with
  | .error fault => pure (.error (fileFailure "Failed to write " path fault))
  | .ok () => do
    host.printError ("✓ " ++ path ++ " " ++ Text.formatSize text.utf8ByteSize ++ "\n")
    pure (.ok ())

/-- Bundles a file. The bundle goes to a file or to the standard output, the styles to a file beside
the bundle unless another one is named. -/
def runBundle (host : Host m) (env : Environment) (registry : Registry) (file : String)
    (out styles : Option String) : m (Except Failure Unit) := do
  match ← host.readText file with
  | .error fault => pure (.error (fileFailure "Failed to read " file fault))
  | .ok source =>
    match (compile env source (.start registry)).1 with
    | .failure report => do
      host.printError ("✗ Bundling failed\n\n" ++ report ++ "\n")
      pure (.error ⟨"Failed to bundle " ++ file, []⟩)
    | .success code css => do
      let written ← match out with
        | some path => writeResult host path code
        | none => do
          host.print code
          pure (.ok ())
      match written, styles <|> out.map (withExtension · "css") with
      | .error f, _ => pure (.error f)
      | .ok (), some path => writeResult host path css
      | .ok (), none => pure (.ok ())

/-- Scans the library into a registry file. -/
def runScan (host : Host m) (setup : Setup) (root registry : Option String) :
    m (Except Failure Unit) := do
  let start ← host.clock
  let root := root.getD (setup.config.libraryRoot setup.root)
  let out := registry.getD (setup.config.registryPath setup.root)
  host.printError ("→ Scanning " ++ root ++ "...\n")
  match scanLibrary root setup.config.library.ignore (← host.readTree root) with
  | .error fault => pure (.error (Failure.ofScan fault))
  | .ok r =>
    match ← host.writeText out r.encodePretty with
    | .error fault => pure (.error (fileFailure "Failed to write registry: " out fault))
    | .ok () => do
      let elapsed := (← host.clock) - start
      host.printError ("\n✓ Wrote " ++ toString r.size ++ " files (" ++
        toString r.components.length ++ " components) to " ++ out ++ " in " ++
        Text.formatDuration (elapsed / 1000000000) (elapsed % 1000000000) ++ "\n\n")
      pure (.ok ())

/-- Runs a command with its configuration read. -/
def runCommand (host : Host m) (styles : Style.Compiler) (i : Invocation) (setup : Setup) :
    m (Except Failure Unit) := do
  let env := environmentOf host styles setup.config
  let path := i.registry.getD (setup.config.registryPath setup.root)
  match i.command with
  | .scan root => do
    host.printError banner
    runScan host setup root i.registry
  | .worker => do
    match ← readRegistry host path with
    | .ok registry => runWorker host env registry
    | .error f => pure (.error f)
  | .bundle file out styles => do
    match ← readRegistry host path with
    | .ok registry => runBundle host env registry file out styles
    | .error f => pure (.error f)
  | .serve _ _ => do
    host.printError banner
    match ← readRegistry host path with
    | .ok _ => pure (.error ⟨"This host cannot listen for connections", []⟩)
    | .error f => pure (.error f)

/-- Reads a command line and runs it. The status is 2 for a command line that is not understood and
1 for a command that fails. -/
def run (host : Host m) (styles : Style.Compiler) (args : List String) : m Nat := do
  match Arguments.parse Config.fileName (← host.setting registryVariable) args with
  | none => do
    host.printError usage
    pure 2
  | some .help => do
    host.print usage
    pure 0
  | some (.version command) => do
    let name := match command with
      | some command => programName ++ "-" ++ command
      | none => programName
    host.print (name ++ " " ++ programVersion ++ "\n")
    pure 0
  | some (.run i) => do
    let result ← match ← readConfig host i.config with
      | .error f => pure (.error f)
      | .ok setup => runCommand host styles i setup
    match result with
    | .ok () => pure 0
    | .error f => do
      host.printError f.text
      pure 1

end LiveBundle.Cli
