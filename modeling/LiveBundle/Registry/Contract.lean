import LiveBundle.Registry.Basic
import LiveBundle.Json.Decode

/-!
# The written form of a registry

A registry is exchanged as a JSON object with one member, `filesByPath`, that maps paths to
entries. Readers leave out unknown members and take an absent `filesByPath` for an empty one.
-/

namespace LiveBundle

/-- The members of an entry in their written order. -/
def FileEntry.toJson (e : FileEntry) : List (String × Json) := [
  ("name", .string e.name),
  ("fullPath", .string e.path),
  ("source", .string e.source),
  ("extension", .string e.extension),
  ("isComponent", .bool e.isComponent),
  ("isBinary", .bool e.isBinary),
  ("directory", .string e.directory)]

namespace Registry

/-- A registry as a JSON value. -/
def toJson (r : Registry) : Json :=
  .object [("filesByPath", .object (r.files.toList.map fun (path, e) => (path, .object e.toJson)))]

/-- A registry on one line. -/
def encode (r : Registry) : String := Json.compact r.toJson

/-- A registry over several lines, as it is kept in a file. -/
def encodePretty (r : Registry) : String := Json.pretty 0 r.toJson

open Json.Reader (Member string bool) in
/-- The fields of an entry. -/
def entryFields : List (Member FileEntry) := [
  ⟨"name", true, fun _ e => do pure { e with name := ← string }⟩,
  ⟨"fullPath", true, fun _ e => do pure { e with path := ← string }⟩,
  ⟨"source", true, fun _ e => do pure { e with source := ← string }⟩,
  ⟨"extension", true, fun _ e => do pure { e with extension := ← string }⟩,
  ⟨"isComponent", true, fun _ e => do pure { e with isComponent := ← bool }⟩,
  ⟨"isBinary", true, fun _ e => do pure { e with isBinary := ← bool }⟩,
  ⟨"directory", true, fun _ e => do pure { e with directory := ← string }⟩]

/-- The record that the fields of an entry are put into. -/
def blankEntry : FileEntry := ⟨"", "", "", "", false, false, ""⟩

/-- Reads an entry. -/
def readEntry (depth : Nat) : Json.Reader FileEntry :=
  Json.Reader.record "FileEntry" entryFields blankEntry depth

/-- Reads a registry. -/
def read (depth : Nat) : Json.Reader Registry :=
  Json.Reader.record "ComponentRegistry"
    [⟨"filesByPath", false, fun depth _ => do
      let files ← Json.Reader.dict depth readEntry
      pure ⟨files⟩⟩] empty depth

/-- Reads a whole text as a registry. -/
def decode (text : String) : Except Json.Fault Registry :=
  Json.Reader.whole (read Json.maxDepth) text

end Registry

end LiveBundle
