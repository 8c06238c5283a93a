import LiveBundle.Proofs.Pass.Growth
import LiveBundle.Proofs.Sequence
import LiveBundle.Proofs.Session.Providers
import LiveBundle.Worker
import Mathlib.Order.Defs.Unbundled

/-!
# The course of a session

All that ever happens to a session are a few kinds of events: a text or a package description is
asked for and answered, styles are added or forgotten, the registry goes stale or is delivered. The
course of a session is the list of its events, and the session at the end is determined by it.

An action changes the session whether it succeeds or stops early. What holds between the session
before an action and the session after it is a preorder, so it passes from single hooks of the
providers to a whole bundling pass.

* `Action.Moves` says that an action stays within a preorder; it is kept by sequencing
  (`Action.moves_sequential`);
* `Pass.visit_moves`: a visit does so when preparing and resolving do. The preorder may depend on
  the ids of the graph, as long as a larger graph allows less;
* `Session.Event.apply` says what an event does, `Session.Event.Happens` when it can happen;
* `Remote.request_eq` and `Remote.entryPoint_of_new`: each request of the provider of packages is
  one event;
* `moves_load`, `moves_resolve`, `moves_transform`: a chain takes a session no further than these
  events do;
* `bundle_passes`: whatever a pass comes to, it takes the session along events of a pass;
* `Session.runAll_course`: whatever is done with a session, by messages or one by one, is a course.
-/

namespace LiveBundle

/-! ## Moves of actions -/

section

variable {R : Session → Session → Prop} {env : Environment} {α β : Type}

/-- The action takes every session to one that is related to it. -/
def Action.Moves (R : Session → Session → Prop) (env : Environment) (x : Action α) : Prop :=
  ∀ s, R s (x env s).2

namespace Action

variable {x : Action α} {f : α → Action β}

/-- A run relates the session in front to the one behind. -/
lemma Moves.of_run (h : x.Moves R env) {s s' : Session} {outcome : Except Halt α}
    (hx : x env s = (outcome, s')) : R s s' := by
  have hs := h s
  rwa [hx] at hs

/-- An action that leaves every session as it is. -/
lemma Moves.of_unchanged [Std.Refl R] (h : ∀ s, (x env s).2 = s) : x.Moves R env := by
  intro s
  rw [h s]
  exact Std.Refl.refl s

/-- What gives a value leaves the session. -/
lemma moves_pure [Std.Refl R] (a : α) : (Pure.pure a : Action α).Moves R env :=
  .of_unchanged fun _ => rfl

/-- What stops leaves the session. -/
lemma moves_halt [Std.Refl R] (h : Halt) : (halt h : Action α).Moves R env :=
  .of_unchanged fun _ => rfl

/-- A result that is at hand leaves the session. -/
lemma moves_ofExcept [Std.Refl R] (r : Except BundleError α) : (ofExcept r).Moves R env := by
  cases r with
  | error e => exact moves_halt _
  | ok a => exact moves_pure a

/-- The name of a module is added to a failure, and to nothing else. -/
lemma moves_inModule (hx : x.Moves R env) (id : String) : (inModule id x).Moves R env := by
  intro s
  have hs := hx s
  unfold inModule
  rcases hrun : x env s with ⟨(_ | _) | _, s'⟩ <;> rw [hrun] at hs <;> exact hs

/-- What follows a success may rely on it. -/
lemma moves_bind [IsTrans Session R] (hx : x.Moves R env)
    (hf : ∀ {s a s'}, x env s = (.ok a, s') → R s' (f a env s').2) : (x >>= f).Moves R env := by
  intro s
  have hs := hx s
  rcases hrun : x env s with ⟨h | a, s'⟩ <;> rw [hrun] at hs
  · rw [run_bind_of_error hrun]
    exact hs
  · rw [run_bind_of_ok hrun]
    exact IsTrans.trans _ _ _ hs (hf hrun)

/-- Two actions move the session one after the other. -/
lemma Moves.bind [IsTrans Session R] (hx : x.Moves R env) (hf : ∀ a, (f a).Moves R env) :
    (x >>= f).Moves R env :=
  moves_bind hx fun {_ a s'} _ => hf a s'

/-- The property passes through what runs step after step. -/
lemma moves_sequential [IsPreorder Session R] : Sequential fun _ x => x.Moves R env :=
  ⟨moves_pure, .bind⟩

end Action

open LiveBundle.Action (moves_pure moves_halt moves_inModule moves_bind moves_sequential)

/-! ## Visits -/

namespace Pass

variable {chain : List (Provider Action)}

/-- A visitor adds to the ids of the graph that it is given. -/
def Adds (env : Environment) (visitor : String → ModuleGraph → Action ModuleGraph) : Prop :=
  ∀ {target g g' s s'}, visitor target g env s = (.ok g', s') → g.ids ⊆ g'.ids

/-- A visit adds to the ids of the graph. -/
lemma visit_adds (depth : Nat) (isEntry : Bool) : Adds env (visit chain depth isEntry) := by
  intro target g g' s s' h
  obtain ⟨⟨new, hgrown, -⟩, -⟩ :=
    visit_grows (I := Invariant.trivial _ env) depth isEntry True.intro h
  exact hgrown.ids_subset

section

variable {R : List String → Session → Session → Prop} [∀ ids, IsPreorder Session (R ids)]

/-- Following imports stays within the preorder of the ids that are there at its beginning. -/
lemma followImports_moves {visitor : String → ModuleGraph → Action ModuleGraph}
    (hadds : Adds env visitor)
    (hmono : ∀ {ids ids' s s'}, ids ⊆ ids' → R ids' s s' → R ids s s')
    (hresolve : ∀ ids id specifier, (resolveImport chain id specifier).Moves (R ids) env)
    (hvisit : ∀ target g, (visitor target g).Moves (R g.ids) env) (id : String)
    (specifiers : List String) (g : ModuleGraph) :
    (followImports chain visitor id specifiers g).Moves (R g.ids) env := by
  induction specifiers generalizing g with
  | nil => exact moves_pure _
  | cons specifier rest ih =>
    refine (hresolve g.ids id specifier).bind fun target => ?_
    refine moves_bind (hvisit target g) fun {s g₁ s₁} hrun => ?_
    -- The rest is followed in a graph that may be larger.
    refine hmono ?_ (ih (g₁.resolve id specifier target) s₁)
    rw [ModuleGraph.ids_resolve]
    exact hadds hrun

/-- A visit stays within the preorder of the ids of its graph when preparing a new module does. -/
theorem visit_moves (hmono : ∀ {ids ids' s s'}, ids ⊆ ids' → R ids' s s' → R ids s s')
    (hprepare : ∀ ids, ∀ id ∉ ids, (prepare chain id).Moves (R ids) env)
    (hresolve : ∀ ids id specifier, (resolveImport chain id specifier).Moves (R ids) env)
    (depth : Nat) (isEntry : Bool) (id : String) (g : ModuleGraph) :
    (visit chain depth isEntry id g).Moves (R g.ids) env := by
  induction depth generalizing isEntry id g with
  | zero =>
    rw [visit]
    split
    · exact moves_pure _
    · exact moves_halt _
  | succ depth ih =>
    rw [visit]
    split
    · exact moves_pure _
    · rename_i hid
      rw [ModuleGraph.contains_iff] at hid
      refine moves_inModule (moves_bind (hprepare g.ids id hid) fun {s r s₁} _ => ?_) id
      obtain ⟨code, syntax_⟩ := r
      have hfollow := followImports_moves (R := R) (visit_adds depth false) hmono hresolve
        (fun target g => ih false target g) id syntax_.dependencies
        (g.add ⟨id, code, syntax_, isEntry, Dict.empty⟩)
      refine hmono ?_ (hfollow s₁)
      rw [ModuleGraph.ids_add hid]
      exact List.subset_append_left _ _

end

end Pass

end

open Web (RequestFault Response)

/-! ## Events -/

namespace Session

/-- What can happen to a session. -/
inductive Event where
  /-- The text of a URL was asked for. -/
  | loaded (url : String) (answer : Except RequestFault Response)
  /-- The description of a package was asked for at a URL. -/
  | described (package : Package) (url : String) (answer : Except RequestFault Response)
  | styled (css : String)
  | stylesForgotten
  | wentStale
  | refreshed
  | delivered (registry : Option Registry)

namespace Event

/-- The events of bundling passes. -/
def OfPass : Event → Prop
  | .loaded .. | .described .. | .styled _ | .stylesForgotten => True
  | .wentStale | .refreshed | .delivered _ => False

/-- A request is made only for what is not kept, and it is answered by the network. -/
def Happens (env : Environment) (s : Session) : Event → Prop
  | .loaded url answer =>
    Specifier.isRemote url = true ∧ s.contents.get? url = none ∧ answer = env.network s.requests url
  | .described package url answer =>
    url = package.baseUrl env.config.cdnBase ++ "/package.json" ∧
      s.entryPoints.get? package.cacheKey = none ∧ answer = env.network s.requests url
  | _ => True

/-- The session after a request. -/
def ask (url : String) (s : Session) : Session := { s with requests := s.requests ++ [url] }

/-- The session after the answer to a request for a text. The redirect is kept with any status, the
text only with success. -/
def receive (url : String) (r : Response) (s : Session) : Session :=
  let noted := if r.url = url then s else s.keepRedirect url r.url
  if r.isSuccess then noted.keepContent url r.body else noted

/-- The session after the answer to a request for a package description. -/
def learn (package : Package) (r : Response) (s : Session) : Session :=
  if r.isSuccess then
    match Manifest.decode r.body with
    | .ok manifest => s.keepEntryPoint package.cacheKey manifest.entryPoint
    | .error _ => s
  else s

/-- The session after an event. -/
def apply : Event → Session → Session
  | .loaded url (.ok r), s => receive url r (ask url s)
  | .loaded url (.error _), s => ask url s
  | .described package url (.ok r), s => learn package r (ask url s)
  | .described _ url (.error _), s => ask url s
  | .styled css, s => s.appendStyles css
  | .stylesForgotten, s => s.resetStyles
  | .wentStale, s => s.markStale
  | .refreshed, s => s.markRefreshed
  | .delivered registry, s => s.registryUpdated registry

end Event

/-! ## Courses -/

/-- The events lead from one session to another. -/
inductive Course (env : Environment) : Session → List Event → Session → Prop
  | nil (s : Session) : Course env s [] s
  | cons {s s' : Session} {e : Event} {events : List Event} (happens : e.Happens env s)
      (rest : Course env (e.apply s) events s') : Course env s (e :: events) s'

variable {env : Environment} {s s' s'' : Session} {events events' : List Event}

/-- Two courses make one. -/
lemma Course.append (h : Course env s events s') (h' : Course env s' events' s'') :
    Course env s (events ++ events') s'' := by
  induction h with
  | nil => exact h'
  | cons happens _ ih => exact .cons happens (ih h')

/-- An event that happens is a course. -/
lemma Course.single {e : Event} (h : e.Happens env s) : Course env s [e] (e.apply s) :=
  .cons h (.nil _)

/-- Events of passes lead from one session to another. -/
def Passes (env : Environment) (s s' : Session) : Prop :=
  ∃ events, (∀ e ∈ events, e.OfPass) ∧ Course env s events s'

/-- An event of a pass is a course of a pass. -/
lemma Passes.of_event {e : Event} (hpass : e.OfPass) (h : e.Happens env s) :
    Passes env s (e.apply s) :=
  ⟨[e], by simpa using hpass, .single h⟩

instance : IsPreorder Session (Passes env) where
  refl s := ⟨[], fun _ h => absurd h List.not_mem_nil, .nil s⟩
  trans := by
    rintro s s' s'' ⟨events, hpass, h⟩ ⟨events', hpass', h'⟩
    exact ⟨events ++ events', List.forall_mem_append.mpr ⟨hpass, hpass'⟩, h.append h'⟩

/-- An event of a pass leaves the registry and whether it is stale. -/
lemma Event.registry_apply {e : Event} (hpass : e.OfPass) (s : Session) :
    (e.apply s).registry = s.registry ∧ (e.apply s).stale = s.stale := by
  cases e with
  | loaded url answer =>
    cases answer with
    | error fault => exact ⟨rfl, rfl⟩
    | ok r =>
      simp only [apply, receive]
      split <;> split <;> exact ⟨rfl, rfl⟩
  | described package url answer =>
    cases answer with
    | error fault => exact ⟨rfl, rfl⟩
    | ok r =>
      simp only [apply, learn]
      split
      · split <;> exact ⟨rfl, rfl⟩
      · exact ⟨rfl, rfl⟩
  | styled css => exact ⟨rfl, rfl⟩
  | stylesForgotten => exact ⟨rfl, rfl⟩
  | wentStale => exact hpass.elim
  | refreshed => exact hpass.elim
  | delivered registry => exact hpass.elim

/-- A pass leaves the registry and whether it is stale. -/
lemma Passes.registry (h : Passes env s s') : s'.registry = s.registry ∧ s'.stale = s.stale := by
  obtain ⟨events, hpass, h⟩ := h
  induction h with
  | nil => exact ⟨rfl, rfl⟩
  | cons _ _ ih =>
    obtain ⟨he, hevents⟩ := List.forall_mem_cons.mp hpass
    obtain ⟨hregistry, hstale⟩ := Event.registry_apply he _
    obtain ⟨hregistry', hstale'⟩ := ih hevents
    exact ⟨hregistry'.trans hregistry, hstale'.trans hstale⟩

end Session

open Session (Event Course Passes)

variable {env : Environment} {s : Session}

/-! ## Requests -/

namespace Remote

/-- A redirect is kept if the response comes from another URL. -/
lemma noteRedirect_eq (url : String) (r : Response) :
    noteRedirect url r env s = (.ok (), if r.url = url then s else s.keepRedirect url r.url) := by
  unfold noteRedirect
  split <;> rfl

/-- A request for a text gives the text in the answer and is one event. -/
lemma request_eq (url : String) :
    request url env s = (textOf url (env.network s.requests url),
      (Event.loaded url (env.network s.requests url)).apply s) := by
  have hfetch : Action.fetch url env s =
      (.ok (env.network s.requests url), Event.ask url s) := rfl
  rw [request, Action.run_bind_of_ok hfetch]
  cases env.network s.requests url with
  | error fault => rfl
  | ok r =>
    simp only
    rw [Action.run_bind_of_ok (noteRedirect_eq url r), textOf, Event.apply, Event.receive]
    cases r.isSuccess <;> rfl

/-- Content that is kept is given without a request. -/
lemma load_of_kept {url text : String} (hremote : Specifier.isRemote url = true)
    (h : s.contents.get? url = some text) : load url env s = (.ok (some text), s) := by
  rw [load, if_pos hremote, Action.run_bind_of_ok Action.run_session, h]
  rfl

/-- Content that is not kept is asked for, once. -/
lemma load_of_new {url : String} (hremote : Specifier.isRemote url = true)
    (h : s.contents.get? url = none) :
    load url env s = ((textOf url (env.network s.requests url)).map some,
      (Event.loaded url (env.network s.requests url)).apply s) := by
  rw [load, if_pos hremote, Action.run_bind_of_ok Action.run_session, h]
  simp only
  have hrequest : request url env s = _ := request_eq url
  cases htext : textOf url (env.network s.requests url) with
  | error halt =>
    rw [htext] at hrequest
    exact Action.run_bind_of_error hrequest
  | ok text =>
    rw [htext] at hrequest
    exact Action.run_bind_of_ok hrequest

/-- An entry point that is kept is given without a request. -/
lemma entryPoint_of_kept {package : Package} {entry : String} (specifier : String)
    (h : s.entryPoints.get? package.cacheKey = some entry) :
    entryPoint package specifier env s = (.ok (some entry), s) := by
  rw [entryPoint, Action.run_bind_of_ok Action.run_session, h]
  rfl

/-- A request for a package description gives the entry point in the answer and is one event. -/
lemma entryPoint_of_new {package : Package} {url : String} (specifier : String)
    (hurl : url = package.baseUrl env.config.cdnBase ++ "/package.json")
    (h : s.entryPoints.get? package.cacheKey = none) :
    entryPoint package specifier env s =
      (entryPointOf url specifier (env.network s.requests url),
        (Event.described package url (env.network s.requests url)).apply s) := by
  subst hurl
  have hfetch : ∀ url, Action.fetch url env s =
      (.ok (env.network s.requests url), Event.ask url s) := fun _ => rfl
  rw [entryPoint, Action.run_bind_of_ok Action.run_session, h]
  simp only
  rw [Action.run_bind_of_ok Action.run_environment, Action.run_bind_of_ok (hfetch _)]
  cases env.network s.requests (package.baseUrl env.config.cdnBase ++ "/package.json") with
  | error fault => rfl
  | ok r =>
    rw [entryPointOf, Event.apply, Event.learn]
    by_cases h404 : r.status = 404
    · -- A missing page is no success.
      have hsuccess : r.isSuccess = false := by
        rw [← Bool.not_eq_true]
        exact fun h => status_ne_of_isSuccess h h404
      simp only [if_pos h404, hsuccess]
      rfl
    · simp only [if_neg h404]
      cases r.isSuccess with
      | false => rfl
      | true =>
        cases Manifest.decode r.body with
        | error fault => rfl
        | ok manifest => rfl

/-- Following an import leaves the session. -/
lemma follow_unchanged (specifier importer : String) : (follow specifier importer env s).2 = s := by
  rw [follow, Action.run_bind_of_ok Action.run_session]
  cases (Web.Url.parse ((s.redirects.get? importer).getD importer)).bind (·.join specifier) <;> rfl

end Remote

/-! ## Hooks -/

section

variable {R : Session → Session → Prop} [IsPreorder Session R]

namespace Remote

/-- Loading stays within a preorder in which the event does. -/
lemma moves_load {id : String}
    (h : ∀ s answer, (Event.loaded id answer).Happens env s →
      R s ((Event.loaded id answer).apply s)) :
    (load id).Moves R env := by
  intro s
  cases hremote : Specifier.isRemote id with
  | false =>
    rw [load, hremote]
    exact Std.Refl.refl s
  | true =>
    cases hkept : s.contents.get? id with
    | some text =>
      rw [load_of_kept hremote hkept]
      exact Std.Refl.refl s
    | none =>
      rw [load_of_new hremote hkept]
      exact h s _ ⟨hremote, hkept, rfl⟩

variable (h : ∀ s package url answer, (Event.described package url answer).Happens env s →
  R s ((Event.described package url answer).apply s))

include h

/-- Looking for an entry point asks for one description at most. -/
lemma moves_entryPoint (package : Package) (specifier : String) :
    (entryPoint package specifier).Moves R env := by
  intro s
  cases hkept : s.entryPoints.get? package.cacheKey with
  | some entry =>
    rw [entryPoint_of_kept specifier hkept]
    exact Std.Refl.refl s
  | none =>
    rw [entryPoint_of_new specifier rfl hkept]
    exact h s package _ _ ⟨rfl, hkept, rfl⟩

/-- Resolving stays within a preorder in which the event does. -/
lemma moves_resolve (specifier : String) (importer : Option String) :
    (resolve specifier importer).Moves R env :=
  resolve_sequential Action.moves_sequential (.of_unchanged fun _ => rfl)
    (fun id _ _ => .of_unchanged fun _ => follow_unchanged specifier id)
    fun package => moves_entryPoint h package specifier

end Remote

variable {config : Config} {registry : Registry}

/-- Resolving an import along the chain describes one package at most. -/
lemma moves_resolve
    (h : ∀ s package url answer, (Event.described package url answer).Happens env s →
      R s ((Event.described package url answer).apply s))
    (specifier : String) (importer : Option String) :
    (Chain.resolve (providers config registry) specifier importer).Moves R env := by
  refine Chain.resolve_sequential Action.moves_sequential ?_
  simp only [providers, List.forall_mem_cons]
  exact ⟨Action.moves_pure _, Action.moves_pure _, Action.moves_pure _,
    Remote.moves_resolve h specifier importer, Action.moves_pure _,
    fun _ h => absurd h List.not_mem_nil⟩

/-- Loading a module along the chain loads it from the network at most. -/
lemma moves_load {id : String}
    (h : ∀ s answer, (Event.loaded id answer).Happens env s →
      R s ((Event.loaded id answer).apply s)) :
    (Chain.load (providers config registry) id).Moves R env := by
  refine Chain.load_sequential Action.moves_sequential ?_
  simp only [providers, List.forall_mem_cons]
  exact ⟨Action.moves_pure _, Action.moves_pure _, Action.moves_pure _, Remote.moves_load h,
    Action.moves_pure _, fun _ h => absurd h List.not_mem_nil⟩

/-- Transforming code does nothing but add styles. -/
lemma moves_transform (h : ∀ s css, R s ((Event.styled css).apply s)) (code id : String) :
    (Chain.transform (providers config registry) code id).Moves R env := by
  have hcomponent : ∀ code, (componentProvider.transform code id).Moves R env := fun code =>
    componentProvider_sequential Action.moves_sequential code id (.of_unchanged fun _ => rfl)
      (fun _ => Action.moves_halt _) fun css s => h s css
  refine Chain.transform_sequential Action.moves_sequential ?_ code
  simp only [providers, List.forall_mem_cons]
  exact ⟨fun _ => Action.moves_pure _, fun _ => Action.moves_ofExcept _, hcomponent,
    fun _ => Action.moves_pure _, fun _ => Action.moves_pure _,
    fun _ h => absurd h List.not_mem_nil⟩

end

/-! ## Passes and workers -/

namespace Pass

variable {config : Config} {registry : Registry}

/-- Preparing a module is a course of a pass. -/
lemma prepare_passes (id : String) :
    (prepare (providers config registry) id).Moves (Passes env) env :=
  prepare_sequential Action.moves_sequential (fun _ => Action.moves_halt _)
    (moves_load fun _ _ h => .of_event True.intro h) fun code =>
    moves_transform (fun _ _ => .of_event True.intro True.intro) code id

/-- Resolving an import is a course of a pass. -/
lemma resolveImport_passes (id specifier : String) :
    (resolveImport (providers config registry) id specifier).Moves (Passes env) env :=
  resolveImport_sequential Action.moves_sequential (Action.moves_halt _)
    (moves_resolve (fun _ _ _ _ h => .of_event True.intro h) specifier (some id))

/-- Visiting a module and all below it is a course of a pass. -/
lemma visit_passes (depth : Nat) (isEntry : Bool) (id : String) (g : ModuleGraph) :
    (visit (providers config registry) depth isEntry id g).Moves (Passes env) env :=
  visit_moves (R := fun _ => Passes env) (fun _ h => h) (fun _ id _ => prepare_passes id)
    (fun _ id specifier => resolveImport_passes id specifier) depth isEntry id g

end Pass

/-- Whatever a pass comes to, it takes the session along events of a pass. -/
theorem bundle_passes (source : String) : (bundle source).Moves (Passes env) env := by
  refine Action.Moves.bind (Action.Moves.bind (.of_unchanged fun _ => rfl) fun env' => ?_)
    fun _ => Action.Moves.bind (.of_unchanged fun _ => rfl) fun _ => Action.moves_pure _
  have hforget : (Action.modify (·.resetStyles)).Moves (Passes env) env :=
    fun _ => .of_event (e := .stylesForgotten) True.intro True.intro
  exact hforget.bind fun _ => Action.Moves.bind (.of_unchanged fun _ => rfl) fun env'' =>
    Action.Moves.bind (.of_unchanged fun _ => rfl) fun s => Pass.visit_passes _ _ _ _

/-- A pass that succeeds ends with the registry confirmed. -/
lemma compile_course (source : String) (s : Session) :
    ∃ events, Course env s events (compile env source s).2 := by
  obtain ⟨events, -, h⟩ : Passes env s (bundle source env s).2 := bundle_passes source s
  rw [compile]
  rcases hrun : bundle source env s with ⟨_ | code, s'⟩ <;> rw [hrun] at h
  · exact ⟨events, h⟩
  · exact ⟨events ++ [.refreshed], h.append (.single (e := .refreshed) True.intro)⟩

namespace Worker

/-- Handling a request is a course. -/
lemma handle_course (r : Request) (s : Session) :
    ∃ events, Course env s events (handle env r s).2 := by
  unfold handle
  split
  · exact ⟨[.wentStale], .single (e := .wentStale) True.intro⟩
  · split
    · exact ⟨[.delivered r.registry], .single (e := .delivered r.registry) True.intro⟩
    · simp only
      split
      · exact ⟨[], .nil s⟩
      · exact compile_course _ s

/-- Handling a line is a course, whatever stands on it. -/
lemma handleText_course (text : String) (s : Session) :
    ∃ events, Course env s events (handleText env text s).2 := by
  unfold handleText
  split
  · exact ⟨[], .nil s⟩
  · exact handle_course _ s

end Worker

/-! ## Histories -/

/-- What can be done with a session from outside. -/
inductive Session.Operation where
  /-- Look up what a specifier means to the provider of packages. -/
  | resolve (specifier : String) (importer : Option String)
  /-- Load a module from the provider of packages. -/
  | load (id : String)
  | compile (source : String)
  /-- Hand a message to the worker. -/
  | message (text : String)

namespace Session

open Session (Operation)

/-- The session after an operation, whether it succeeds or not. -/
def Operation.run (env : Environment) : Operation → Session → Session
  | .resolve specifier importer, s => (Remote.resolve specifier importer env s).2
  | .load id, s => (Remote.load id env s).2
  | .compile source, s => (LiveBundle.compile env source s).2
  | .message text, s => (Worker.handleText env text s).2

/-- The session after some operations. -/
def runAll (env : Environment) (operations : List Operation) (s : Session) : Session :=
  operations.foldl (fun s operation => operation.run env s) s

/-- An operation is a course. -/
lemma Operation.run_course (operation : Operation) (s : Session) :
    ∃ events, Course env s events (operation.run env s) := by
  cases operation with
  | resolve specifier importer =>
    obtain ⟨events, -, h⟩ : Passes env s (Remote.resolve specifier importer env s).2 :=
      Remote.moves_resolve (fun _ _ _ _ h => .of_event True.intro h) specifier importer s
    exact ⟨events, h⟩
  | load id =>
    obtain ⟨events, -, h⟩ : Passes env s (Remote.load id env s).2 :=
      Remote.moves_load (fun _ _ h => .of_event True.intro h) s
    exact ⟨events, h⟩
  | compile source => exact compile_course source s
  | message text => exact Worker.handleText_course text s

/-- Whatever is done with a session is a course. -/
theorem runAll_course (operations : List Operation) (s : Session) :
    ∃ events, Course env s events (runAll env operations s) := by
  induction operations generalizing s with
  | nil => exact ⟨[], .nil s⟩
  | cons operation rest ih =>
    obtain ⟨events, h⟩ : ∃ events, Course env s events (operation.run env s) :=
      operation.run_course s
    obtain ⟨events', h'⟩ := ih (operation.run env s)
    exact ⟨events ++ events', h.append h'⟩

end Session

end LiveBundle
