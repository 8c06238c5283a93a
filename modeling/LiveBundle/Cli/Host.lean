import LiveBundle.Registry.Scan
import LiveBundle.Web.Network

/-!
# What commands need of a machine

Commands read and write files, print, and answer the lines of the standard input. A host provides
these operations in some monad, so that commands can be run on a real machine and on any other.

* `Failure` is an error with its causes, as it is printed at the end.
-/

namespace LiveBundle.Cli

/-- Why a file operation failed. -/
inductive FileFault where
  | notFound
  | notDirectory
  | isDirectory
  | notText
  | other (text : String)
deriving DecidableEq, Repr

/-- The wording of a failed file operation. -/
def FileFault.message : FileFault → String
  | .notFound => "No such file or directory (os error 2)"
  | .notDirectory => "Not a directory (os error 20)"
  | .isDirectory => "Is a directory (os error 21)"
  | .notText => "stream did not contain valid UTF-8"
  | .other text => text

/-- A machine. -/
structure Host (m : Type → Type) where
  /-- The current directory. -/
  directory : m String
  /-- A variable of the environment. -/
  setting : String → m (Option String)
  /-- Whether there is a file or a directory. -/
  contains : String → m Bool
  readText : String → m (Except FileFault String)
  writeText : String → String → m (Except FileFault Unit)
  /-- The tree at a path, if there is anything. -/
  readTree : String → m (Option FileTree)
  print : String → m Unit
  printError : String → m Unit
  /-- Feeds the lines of the standard input to a step that carries a state. -/
  foldLines : {σ : Type} → (String → σ → m σ) → σ → m σ
  /-- The nanoseconds since some moment. -/
  clock : m Nat
  network : Web.Network

/-- An error and its causes, outermost first. -/
structure Failure where
  message : String
  causes : List String := []
deriving DecidableEq, Repr

namespace Failure

/-- A text with an indentation in front of each line but the first. -/
def indentRest (width : Nat) (text : String) : String :=
  Text.joinWith ("\n" ++ Text.spaces width) ((Text.fields '\n' text.toList).map String.ofList)

/-- The numbered causes, from a number on. -/
def numbered : Nat → List String → List String
  | _, [] => []
  | n, cause :: rest =>
    (Text.spaces (5 - (toString n).length) ++ toString n ++ ": " ++ indentRest 7 cause) ::
      numbered (n + 1) rest

/-- A failure as it is printed. -/
def text (f : Failure) : String :=
  "Error: " ++ f.message ++ match f.causes with
    | [] => "\n"
    | [cause] => "\n\nCaused by:\n    " ++ indentRest 4 cause ++ "\n"
    | causes => "\n\nCaused by:\n" ++ Text.joinWith "\n" (numbered 0 causes) ++ "\n"

/-- The failure of a scan. -/
def ofScan (fault : ScanFault) : Failure where
  message := fault.message
  causes := match fault with
    | .invalidPattern pattern why =>
      ["error parsing glob '" ++ pattern ++ "': " ++ why.message]
    | .missingRoot root =>
      ["IO error for operation on " ++ root ++ ": " ++ FileFault.notFound.message,
        FileFault.notFound.message]
    | .notText _ => [FileFault.notText.message]

end Failure

end LiveBundle.Cli
