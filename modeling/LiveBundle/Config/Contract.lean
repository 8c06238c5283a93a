import LiveBundle.Config.Basic
import LiveBundle.Decimal.Binary64
import LiveBundle.Toml.Document

/-!
# The written form of a configuration

A configuration file has a section for each group of settings. A section may also be written as a
list of its settings in their order. Unknown sections and settings are passed over.

* `Config.decode` reads and validates a file.
-/

namespace LiveBundle.Config

open Toml (Entries)

/-- A setting of a group `σ`: its name and how its value is read. -/
structure Setting (σ : Type) where
  name : String
  read : Toml → σ → Option σ

/-- A text. -/
def text? : Toml → Option String
  | .string s => some s
  | _ => none

/-- A list of texts. -/
def texts? : Toml → Option (List String)
  | .array items => items.mapM text?
  | _ => none

/-- A whole number below a bound. -/
def natBelow? (bound : Nat) : Toml → Option Nat
  | .integer n => if 0 ≤ n ∧ n < bound then some n.toNat else none
  | _ => none

variable {σ : Type}

/-- Reads the settings of a group from the entries of a table. -/
def readNamed (settings : List (Setting σ)) (entries : Entries) (start : σ) : Option σ :=
  settings.foldlM (fun s setting =>
    match entries.lookup setting.name with
    | some v => setting.read v s
    | none => some s) start

/-- Reads the settings of a group from a list of values. -/
def readInOrder : List (Setting σ) → List Toml → σ → Option σ
  | setting :: settings, v :: vs, s => (setting.read v s).bind (readInOrder settings vs)
  | _, _, s => some s

/-- Reads a group of settings. A date is a table without known settings. -/
def readGroup (settings : List (Setting σ)) (start : σ) : Toml → Option σ
  | .table _ entries => readNamed settings entries start
  | .array items => readInOrder settings items start
  | .tables items => readInOrder settings (items.map (.table .header)) start
  | .datetime _ => some start
  | _ => none

/-- The settings of the project. -/
def projectSettings : List (Setting Project) := [
  ⟨"name", fun v s => (text? v).map ({ s with name := · })⟩]

/-- The settings of the library. -/
def librarySettings : List (Setting Library) := [
  ⟨"path", fun v s => (text? v).map ({ s with path := · })⟩,
  ⟨"root", fun v s => (text? v).map ({ s with root := · })⟩,
  ⟨"ignore", fun v s => (texts? v).map ({ s with ignore := · })⟩]

/-- The settings of the content delivery network. -/
def remoteSettings : List (Setting Remote) := [
  ⟨"cdn", fun v s => (text? v).map ({ s with cdn := · })⟩,
  ⟨"timeout_secs", fun v s => (natBelow? (Decimal.twoTo 64) v).map ({ s with timeout := · })⟩]

/-- The settings of the facade. -/
def facadeSettings : List (Setting Facade) := [
  ⟨"facade", fun v s => (text? v).map ({ s with specifier := · })⟩,
  ⟨"index", fun v s => (text? v).map ({ s with index := · })⟩]

/-- The settings of styles. -/
def styleSettings : List (Setting Styles) := [
  ⟨"languages", fun v s => (texts? v).map ({ s with languages := · })⟩]

/-- The settings of the bundle. -/
def outputSettings : List (Setting Output) := [
  ⟨"name", fun v s => (text? v).map ({ s with name := · })⟩]

/-- The settings of the server. -/
def serverSettings : List (Setting Server) := [
  ⟨"port", fun v s => (natBelow? (Decimal.twoTo 16) v).map ({ s with port := · })⟩,
  ⟨"host", fun v s => (text? v).map ({ s with host := · })⟩]

/-- The sections of a file. -/
def sections : List (Setting Config) := [
  ⟨"project", fun v c => (readGroup projectSettings {} v).map ({ c with project := · })⟩,
  ⟨"registry", fun v c => (readGroup librarySettings {} v).map ({ c with library := · })⟩,
  ⟨"remote", fun v c => (readGroup remoteSettings {} v).map ({ c with remote := · })⟩,
  ⟨"library", fun v c => (readGroup facadeSettings {} v).map ({ c with facade := · })⟩,
  ⟨"styles", fun v c => (readGroup styleSettings {} v).map ({ c with styles := · })⟩,
  ⟨"output", fun v c => (readGroup outputSettings {} v).map ({ c with output := · })⟩,
  ⟨"server", fun v c => (readGroup serverSettings {} v).map ({ c with server := · })⟩]

/-- Reads and validates a configuration. -/
def decode (text : String) : Except Fault Config :=
  match (Toml.Document.parse text).bind fun entries => readNamed sections entries {} with
  | some c => c.validate
  | none => .error .unreadable

end LiveBundle.Config
