import LiveBundle.Cli.Run
import LiveBundle.Style.Compile

/-!
# The program

Runs a command line on the machine that it is given to. There is no network behind it: what is not
in the registry is not found.
-/

namespace LiveBundle.Main

/-- The failure of a file operation. -/
def faultOf : IO.Error → Cli.FileFault
  | .noFileOrDirectory .. => .notFound
  | .inappropriateType _ code _ => if code = 21 then .isDirectory else .notDirectory
  | e => .other (toString e)

/-- The result of an operation, or why it failed. -/
def attempt {α : Type} (action : IO α) : IO (Except Cli.FileFault α) := do
  try
    return .ok (← action)
  catch e => return .error (faultOf e)

/-- Reads a file as text. -/
def readText (path : String) : IO (Except Cli.FileFault String) := do
  match ← attempt (IO.FS.readBinFile path) with
  | .error fault => return .error fault
  | .ok bytes =>
    match String.fromUTF8? bytes with
    | some text => return .ok text
    | none => return .error .notText

/-- The tree at a path; the first argument bounds its depth. -/
def readTree : Nat → String → IO FileTree
  | 0, _ => return .directory []
  | depth + 1, path => do
    let place := (← IO.currentDir) / path
    if ← place.isDir then
      let mut entries := []
      for entry in ← place.readDir do
        entries := (entry.fileName, ← readTree depth (path ++ "/" ++ entry.fileName)) :: entries
      return .directory entries
    else return .file ((← IO.FS.readBinFile path).toList.map UInt8.toNat)

/-- Feeds the lines of the standard input to a step. -/
def foldLines {σ : Type} (step : String → σ → IO σ) (start : σ) : IO σ := do
  let input ← IO.getStdin
  let mut state := start
  repeat
    let line ← input.getLine
    if line.isEmpty then break
    state ← step ((Text.linesOf line).head?.getD "") state
  return state

/-- The longest way to a file. -/
def deepest : Nat := 4096

/-- The machine that the program runs on. -/
def host : Cli.Host IO where
  directory := return toString (← IO.currentDir)
  setting name := do return ← IO.getEnv name
  contains path := do ((← IO.currentDir) / path).pathExists
  readText := readText
  writeText path text := attempt (IO.FS.writeFile path text)
  readTree path := do
    if ← ((← IO.currentDir) / path).pathExists then return some (← readTree deepest path)
    else return none
  print text := do
    let out ← IO.getStdout
    out.putStr text
    out.flush
  printError text := do (← IO.getStderr).putStr text
  foldLines := foldLines
  clock := IO.monoNanosNow
  network := .offline

end LiveBundle.Main

/-- Runs the command line. -/
def main (args : List String) : IO UInt32 := do
  return (← LiveBundle.Cli.run LiveBundle.Main.host LiveBundle.Style.compile args).toUInt32
