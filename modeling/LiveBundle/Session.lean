import LiveBundle.Bundle.Error
import LiveBundle.Config.Basic
import LiveBundle.Dict
import LiveBundle.Registry.Basic
import LiveBundle.Style.Compiler
import LiveBundle.Web.Network

/-!
# Sessions

A session keeps what outlives a bundling pass: the registry, whether it is out of date, what was
fetched and found out about packages, and the styles that the current pass has collected. An action
works on a session in an environment that does not change.

* `Session` is the state, `Environment` what is fixed, `Action` a step that may stop early.
* `Action.fetch` makes a request and logs it.
-/

namespace LiveBundle

/-- The state of a session. -/
structure Session where
  registry : Registry
  /-- Whether the registry has to be delivered anew. -/
  stale : Bool := false
  /-- The texts of URLs that were fetched. -/
  contents : Dict String := Dict.empty
  /-- The entry points of packages, by name and version. -/
  entryPoints : Dict String := Dict.empty
  /-- The final URLs of requests that were redirected. -/
  redirects : Dict String := Dict.empty
  /-- The styles of the current pass. -/
  styles : String := ""
  /-- All requests so far. -/
  requests : List String := []

namespace Session

/-- A new session. -/
def start (registry : Registry) : Session := { registry }

/-- The registry has to be delivered anew. -/
def markStale (s : Session) : Session := { s with stale := true }

/-- The registry is up to date. -/
def markRefreshed (s : Session) : Session := { s with stale := false }

/-- The registry was delivered, or confirmed when there is none. -/
def registryUpdated (s : Session) (registry : Option Registry) : Session :=
  { s with registry := registry.getD s.registry, stale := false }

/-- Forgets the styles of the last pass. -/
def resetStyles (s : Session) : Session := { s with styles := "" }

/-- Adds styles to those of the current pass. -/
def appendStyles (s : Session) (css : String) : Session := { s with styles := s.styles ++ css }

/-- Keeps the text of a URL. -/
def keepContent (s : Session) (url content : String) : Session :=
  { s with contents := s.contents.insert url content }

/-- Keeps the entry point of a package. -/
def keepEntryPoint (s : Session) (package entry : String) : Session :=
  { s with entryPoints := s.entryPoints.insert package entry }

/-- Keeps the final URL of a request. -/
def keepRedirect (s : Session) (url final : String) : Session :=
  { s with redirects := s.redirects.insert url final }

end Session

/-- What bundling works with and does not change. -/
structure Environment where
  config : Config
  network : Web.Network
  styleCompiler : Style.Compiler
  /-- The number of modules that may import each other in a row. Nothing but the room of the machine
  bounds it, so it is out of reach by default. -/
  importDepth : Nat := 0x100000000

/-- Why an action stopped early. -/
inductive Halt where
  | failed (error : BundleError)
  /-- Modules import each other in a longer row than the environment allows. -/
  | importDepthExceeded
deriving DecidableEq, Repr

/-- The report of an early stop. -/
def Halt.report : Halt → String
  | .failed e => e.report
  | .importDepthExceeded => "Error: Imports are nested too deeply"

/-- A step on a session. The session is changed also where the step stops early. -/
def Action (α : Type) : Type := Environment → Session → Except Halt α × Session

namespace Action

variable {α β : Type}

/-- Gives a value and changes nothing. -/
def pure (a : α) : Action α := fun _ s => (.ok a, s)

/-- One action after the other; the second one is left out when the first one stops early. -/
def bind (x : Action α) (f : α → Action β) : Action β := fun env s =>
  match x env s with
  | (.ok a, s) => f a env s
  | (.error h, s) => (.error h, s)

instance : Monad Action where
  pure := Action.pure
  bind := Action.bind

/-- Stops early. -/
def halt (h : Halt) : Action α := fun _ s => (.error h, s)

/-- Stops with an error. -/
def fail (e : BundleError) : Action α := halt (.failed e)

/-- The environment. -/
def environment : Action Environment := fun env s => (.ok env, s)

/-- The session. -/
def session : Action Session := fun _ s => (.ok s, s)

/-- Changes the session. -/
def modify (f : Session → Session) : Action Unit := fun _ s => (.ok (), f s)

/-- The value of a computation, or its error. -/
def ofExcept : Except BundleError α → Action α
  | .ok a => pure a
  | .error e => fail e

/-- Runs an action on behalf of a module: an error notes the id of the module. -/
def inModule (id : String) (x : Action α) : Action α := fun env s =>
  match x env s with
  | (.error (.failed e), s) => (.error (.failed (.inModule id e)), s)
  | r => r

/-- Makes a request. -/
def fetch (url : String) : Action (Except Web.RequestFault Web.Response) := fun env s =>
  (.ok (env.network s.requests url), { s with requests := s.requests ++ [url] })

variable {env : Environment} {s s' : Session}

@[simp] theorem run_pure (a : α) : (Pure.pure a : Action α) env s = (.ok a, s) := rfl

@[simp] theorem run_fail (e : BundleError) : (fail e : Action α) env s = (.error (.failed e), s) :=
  rfl

@[simp] theorem run_environment : environment env s = (.ok env, s) := rfl

@[simp] theorem run_session : session env s = (.ok s, s) := rfl

@[simp] theorem run_modify (f : Session → Session) : modify f env s = (.ok (), f s) := rfl

/-- When the first action gives a value, the second one goes on from the session it left. -/
theorem run_bind_of_ok {x : Action α} {f : α → Action β} {a : α} (h : x env s = (.ok a, s')) :
    (x >>= f) env s = f a env s' := by
  show bind x f env s = _
  rw [bind, h]

/-- When the first action stops early, so do both. -/
theorem run_bind_of_error {x : Action α} {f : α → Action β} {h : Halt}
    (hx : x env s = (.error h, s')) : (x >>= f) env s = (.error h, s') := by
  show bind x f env s = _
  rw [bind, hx]

/-- Two actions give a value when the first one does and the second one does from there. -/
theorem run_bind_eq_ok {x : Action α} {f : α → Action β} {b : β} :
    (x >>= f) env s = (.ok b, s') ↔
      ∃ a s₁, x env s = (.ok a, s₁) ∧ f a env s₁ = (.ok b, s') := by
  constructor
  · intro h
    rcases hx : x env s with ⟨_ | a, s₁⟩
    · rw [run_bind_of_error hx] at h
      cases h
    · rw [run_bind_of_ok hx] at h
      exact ⟨a, s₁, rfl, h⟩
  · rintro ⟨a, s₁, hx, hf⟩
    rw [run_bind_of_ok hx, hf]

/-- Noting the module changes errors only. -/
theorem run_inModule_eq_ok {id : String} {x : Action α} {a : α} :
    inModule id x env s = (.ok a, s') ↔ x env s = (.ok a, s') := by
  unfold inModule
  rcases x env s with ⟨(_ | _) | _, _⟩ <;> simp

end Action

end LiveBundle
