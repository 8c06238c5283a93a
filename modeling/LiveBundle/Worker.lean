import LiveBundle.Bundle.Pass
import LiveBundle.Registry.Contract

/-!
# Workers

A worker handles one message after the other. A message is a JSON object; its `type` tells whether
it asks for a refresh of the registry, delivers one, or asks for a bundle. Replies carry the `id` of
the message. What cannot be read as a message gets no reply.

* `Worker.handle` answers a message, `Worker.handleText` one in its written form.
-/

namespace LiveBundle.Worker

/-- A message. -/
structure Request where
  id : Json := .null
  /-- What is asked for; anything unknown asks for a bundle. -/
  kind : Option String := none
  code : Option String := none
  registry : Option Registry := none

/-- A reply. -/
inductive Reply where
  | compiled (id : Json) (outcome : Compilation)
  | rejected (id : Json) (reason : String)
  | registryRefreshed (id : Json)

open Json.Reader (Member) in
/-- The members of a message. -/
def fields : List (Member Request) := [
  ⟨"id", false, fun depth r => do pure { r with id := ← Json.Reader.value depth }⟩,
  ⟨"type", false, fun _ r => do
    pure { r with kind := ← Json.Reader.optional Json.Reader.string }⟩,
  ⟨"code", false, fun _ r => do
    pure { r with code := ← Json.Reader.optional Json.Reader.string }⟩,
  ⟨"registry", false, fun depth r => do
    pure { r with registry := ← Json.Reader.optional (Registry.read depth) }⟩]

/-- Reads a message. -/
def Request.decode (text : String) : Except Json.Fault Request :=
  Json.Reader.whole (Json.Reader.record "WorkerRequest" fields {} Json.maxDepth) text

/-- A reply as a JSON value. -/
def Reply.toJson : Reply → Json
  | .compiled id (.success code styles) => .object [
      ("id", id), ("code", .string code), ("styles", .string styles), ("error", .null)]
  | .compiled id (.failure report) => .object [
      ("id", id), ("code", .null), ("styles", .null), ("error", .string report)]
  | .rejected id reason => .object [("id", id), ("error", .string reason)]
  | .registryRefreshed id => .object [
      ("id", id), ("type", .string "registry-refreshed"), ("success", .bool true)]

/-- A reply on one line. -/
def Reply.encode (r : Reply) : String := r.toJson.compact

/-- Answers a message. -/
def handle (env : Environment) (r : Request) (s : Session) : Option Reply × Session :=
  if r.kind = some "refresh-registry" then (some (.registryRefreshed r.id), s.markStale)
  else if r.kind = some "registry-updated" then (none, s.registryUpdated r.registry)
  else
    let code := r.code.getD ""
    if code = "" then (some (.rejected r.id "No code provided"), s)
    else
      let (outcome, s) := compile env code s
      (some (.compiled r.id outcome), s)

/-- Answers a message in its written form. -/
def handleText (env : Environment) (text : String) (s : Session) : Option String × Session :=
  match Request.decode text with
  | .error _ => (none, s)
  | .ok r =>
    let (reply, s) := handle env r s
    (reply.map Reply.encode, s)

/-- Answers messages one after the other. -/
def handleAll (env : Environment) : List String → Session → List (Option String) × Session
  | [], s => ([], s)
  | text :: rest, s =>
    let (reply, s) := handleText env text s
    let (replies, s) := handleAll env rest s
    (reply :: replies, s)

end LiveBundle.Worker
