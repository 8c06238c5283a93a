import LiveBundle.Proofs.Json.OneLine
import LiveBundle.Proofs.Session.Course

/-!
# The protocol of workers

A worker is handed one message after the other. What it replies to a message and what the message
does to the registry depend on what the message is read as, and for a request for a bundle also on
how the pass ends.

* `Turn` is a message with the session that it meets, `turns` lists them;
* `Turn.Handled` says all that can be done with a message, `Turn.handled` that this is done;
* `Turn.Regular` is what the reply to one message keeps to;
* `Turn.registry_after` and `Turn.stale_after`: what a message does to the registry;
* `handleAll_protocol`: all replies of a worker, and the registry it ends with.
-/

namespace LiveBundle.Worker

/-! ## What a message asks for -/

/-- The source that a request asks to bundle. -/
def Request.source? (r : Request) : Option String :=
  if r.kind = some "refresh-registry" ∨ r.kind = some "registry-updated" then none
  else r.code.filter (· ≠ "")

/-- The registry that a request delivers. -/
def Request.delivered? (r : Request) : Option Registry :=
  if r.kind = some "registry-updated" then r.registry else none

/-- The registry that a message delivers. -/
def delivered? (text : String) : Option Registry :=
  match Request.decode text with
  | .ok r => r.delivered?
  | .error _ => none

/-- The message is of a kind. -/
def Asks (kind text : String) : Prop := ∃ r, Request.decode text = .ok r ∧ r.kind = some kind

/-- One line that is read as one value. -/
structure OneLine (text : String) : Prop where
  no_lineFeed : '\n' ∉ text.toList
  no_carriageReturn : '\r' ∉ text.toList
  isValue : Json.Reader.whole Json.Reader.ignored text = .ok ()

lemma oneLine_compact (v : Json) : OneLine v.compact where
  no_lineFeed h := absurd (Json.printed_compact v _ h) (by decide)
  no_carriageReturn h := absurd (Json.printed_compact v _ h) (by decide)
  isValue := Json.whole_ignored_compact v

/-! ## Turns -/

/-- A message and the session that it meets. -/
structure Turn where
  text : String
  session : Session

namespace Turn

/-- The reply to a message. -/
def reply (env : Environment) (t : Turn) : Option String := (handleText env t.text t.session).1

/-- The session after a message. -/
def after (env : Environment) (t : Turn) : Session := (handleText env t.text t.session).2

/-- The message asks for a bundle, and the pass succeeds. -/
def Succeeds (env : Environment) (t : Turn) : Prop :=
  ∃ r source, Request.decode t.text = .ok r ∧ r.source? = some source ∧
    ∃ code, (bundle source env t.session).1 = .ok code

/-- The message asks for a bundle, and the pass fails. -/
def Fails (env : Environment) (t : Turn) : Prop :=
  ∃ r source, Request.decode t.text = .ok r ∧ r.source? = some source ∧
    ∃ halt, (bundle source env t.session).1 = .error halt

/-- The message asks for a bundle of nothing. -/
def Rejected (t : Turn) : Prop :=
  ∃ r, Request.decode t.text = .ok r ∧ r.kind ≠ some "refresh-registry" ∧
    r.kind ≠ some "registry-updated" ∧ r.source? = none

/-- The registry is up to date after the message. -/
def Confirms (env : Environment) (t : Turn) : Prop :=
  Asks "registry-updated" t.text ∨ t.Succeeds env

/-- What the reply to a message and the registry after it keep to. -/
structure Regular (env : Environment) (t : Turn) : Prop where
  /-- There is no reply exactly to what cannot be read and to a registry. -/
  reply_eq_none_iff : t.reply env = none ↔
    (∀ r, Request.decode t.text ≠ .ok r) ∨ Asks "registry-updated" t.text
  /-- A reply is one line and carries the id of the request. -/
  reply_eq_some : ∀ reply, t.reply env = some reply → OneLine reply ∧
    ∃ r members, Request.decode t.text = .ok r ∧
      reply = Json.compact (.object (("id", r.id) :: members))
  /-- A pass that succeeds is reported with its code and its styles, and without an error. -/
  reply_of_success : ∀ r source code s, Request.decode t.text = .ok r → r.source? = some source →
    bundle source env t.session = (.ok code, s) →
    t.reply env = some (Json.compact (.object [("id", r.id), ("code", .string code),
      ("styles", .string s.styles), ("error", .null)]))
  /-- A pass that fails is reported with its error only. -/
  reply_of_failure : ∀ r source halt s, Request.decode t.text = .ok r → r.source? = some source →
    bundle source env t.session = (.error halt, s) →
    t.reply env = some (Json.compact (.object [("id", r.id), ("code", .null), ("styles", .null),
      ("error", .string halt.report)]))
  /-- What cannot be read, asks for nothing or fails leaves the registry and whether it is stale. -/
  unchanged : (∀ r, Request.decode t.text ≠ .ok r) ∨ t.Rejected ∨ t.Fails env →
    (t.after env).registry = t.session.registry ∧ (t.after env).stale = t.session.stale

end Turn

/-- The messages with the sessions that they meet. -/
def turns (env : Environment) : List String → Session → List Turn
  | [], _ => []
  | text :: rest, s => ⟨text, s⟩ :: turns env rest (Turn.after env ⟨text, s⟩)

open Session (Passes)

variable {env : Environment} {t : Turn} {r : Request} {s : Session}

/-! ## One message -/

lemma source?_eq_some {source : String} :
    r.source? = some source ↔ r.kind ≠ some "refresh-registry" ∧
      r.kind ≠ some "registry-updated" ∧ r.code = some source ∧ source ≠ "" := by
  unfold Request.source?
  split
  · rename_i h
    simp only [reduceCtorEq, false_iff, not_and]
    tauto
  · rename_i h
    rw [not_or] at h
    simp [Option.filter_eq_some_iff, h]

lemma asks_iff {kind : String} (h : Request.decode t.text = .ok r) :
    Asks kind t.text ↔ r.kind = some kind := by
  refine ⟨?_, fun hkind => ⟨r, h, hkind⟩⟩
  rintro ⟨r', h', hkind⟩
  rw [h] at h'
  cases h'
  exact hkind

lemma not_asks {kind : String} (h : ∀ r, Request.decode t.text ≠ .ok r) : ¬ Asks kind t.text :=
  fun ⟨r, hr, _⟩ => h r hr

lemma Turn.succeeds_iff (h : Request.decode t.text = .ok r) :
    t.Succeeds env ↔
      ∃ source, r.source? = some source ∧ ∃ code, (bundle source env t.session).1 = .ok code := by
  refine ⟨?_, fun ⟨source, hsource, hrun⟩ => ⟨r, source, h, hsource, hrun⟩⟩
  rintro ⟨r', source, h', hsource, hrun⟩
  rw [h] at h'
  cases h'
  exact ⟨source, hsource, hrun⟩

/-- All that can be done with a message: the reply and the session after it. -/
inductive Turn.Handled (env : Environment) (t : Turn) : Option Reply → Session → Prop
  | unread (h : ∀ r, Request.decode t.text ≠ .ok r) : Handled env t none t.session
  | stale {r : Request} (h : Request.decode t.text = .ok r)
      (hkind : r.kind = some "refresh-registry") :
      Handled env t (some (.registryRefreshed r.id)) t.session.markStale
  | updated {r : Request} (h : Request.decode t.text = .ok r)
      (hkind : r.kind = some "registry-updated") :
      Handled env t none (t.session.registryUpdated r.registry)
  | rejected {r : Request} (h : Request.decode t.text = .ok r)
      (hrefresh : r.kind ≠ some "refresh-registry") (hupdated : r.kind ≠ some "registry-updated")
      (hsource : r.source? = none) :
      Handled env t (some (.rejected r.id "No code provided")) t.session
  | bundled {r : Request} {source code : String} {s : Session}
      (h : Request.decode t.text = .ok r) (hsource : r.source? = some source)
      (hrun : bundle source env t.session = (.ok code, s)) :
      Handled env t (some (.compiled r.id (.success code s.styles))) s.markRefreshed
  | failed {r : Request} {source : String} {halt : Halt} {s : Session}
      (h : Request.decode t.text = .ok r) (hsource : r.source? = some source)
      (hrun : bundle source env t.session = (.error halt, s)) :
      Handled env t (some (.compiled r.id (.failure halt.report))) s

/-- Whatever the message, one of these things is done. -/
lemma Turn.handled (env : Environment) (t : Turn) :
    ∃ reply, t.Handled env reply (t.after env) ∧ t.reply env = reply.map Reply.encode := by
  unfold Turn.reply Turn.after handleText
  cases h : Request.decode t.text with
  | error fault => exact ⟨none, .unread fun r hr => by simp [h] at hr, rfl⟩
  | ok r =>
    refine ⟨(handle env r t.session).1, ?_, rfl⟩
    simp only
    unfold handle
    split
    · rename_i hkind
      exact .stale h hkind
    · rename_i hrefresh
      split
      · rename_i hkind
        exact .updated h hkind
      · rename_i hupdated
        simp only
        split
        · rename_i hempty
          have hsource : r.source? = none := by
            rw [Option.eq_none_iff_forall_ne_some]
            intro source hsource
            obtain ⟨-, -, hcode, hne⟩ := source?_eq_some.mp hsource
            rw [hcode] at hempty
            exact hne hempty
          exact .rejected h hrefresh hupdated hsource
        · rename_i hcode
          obtain ⟨source, hsource⟩ : ∃ source, r.code = some source := by
            cases hr : r.code with
            | none => exact absurd (by rw [hr]; rfl) hcode
            | some source => exact ⟨source, rfl⟩
          rw [hsource, Option.getD_some] at hcode ⊢
          have hasked : r.source? = some source :=
            source?_eq_some.mpr ⟨hrefresh, hupdated, hsource, hcode⟩
          unfold compile
          rcases hrun : bundle source env t.session with ⟨halt | code, s⟩
          · exact .failed h hasked hrun
          · exact .bundled h hasked hrun

/-- The id that a reply carries. -/
def Reply.id : Reply → Json
  | .compiled id _ => id
  | .rejected id _ => id
  | .registryRefreshed id => id

/-- A reply is an object, and its id comes first. -/
lemma Reply.exists_toJson_eq (reply : Reply) :
    ∃ members, reply.toJson = .object (("id", reply.id) :: members) := by
  cases reply with
  | compiled id outcome => cases outcome <;> exact ⟨_, rfl⟩
  | rejected id reason => exact ⟨_, rfl⟩
  | registryRefreshed id => exact ⟨_, rfl⟩

namespace Turn

/-- A reply carries the id of the request. -/
lemma Handled.id_eq {reply : Reply} (h : t.Handled env (some reply) s) :
    ∃ r, Request.decode t.text = .ok r ∧ reply.id = r.id := by
  cases h with
  | stale h _ => exact ⟨_, h, rfl⟩
  | rejected h _ _ _ => exact ⟨_, h, rfl⟩
  | bundled h _ _ => exact ⟨_, h, rfl⟩
  | failed h _ _ => exact ⟨_, h, rfl⟩

/-- There is no reply to what cannot be read and to a registry. -/
lemma Handled.eq_none_iff {reply : Option Reply} (h : t.Handled env reply s) :
    reply = none ↔ (∀ r, Request.decode t.text ≠ .ok r) ∨ Asks "registry-updated" t.text := by
  have hread : ∀ {r}, Request.decode t.text = .ok r → r.kind ≠ some "registry-updated" →
      ¬ ((∀ r, Request.decode t.text ≠ .ok r) ∨ Asks "registry-updated" t.text) := by
    rintro r h hkind (hunread | hasks)
    · exact hunread r h
    · exact hkind ((asks_iff h).mp hasks)
  cases h with
  | unread h => exact iff_of_true rfl (Or.inl h)
  | stale h hkind => exact iff_of_false nofun (hread h (by rw [hkind]; decide))
  | updated h hkind => exact iff_of_true rfl (Or.inr ⟨_, h, hkind⟩)
  | rejected h _ hupdated _ => exact iff_of_false nofun (hread h hupdated)
  | bundled h hsource _ =>
    exact iff_of_false nofun (hread h (source?_eq_some.mp hsource).2.1)
  | failed h hsource _ =>
    exact iff_of_false nofun (hread h (source?_eq_some.mp hsource).2.1)

/-! ## The registry -/

/-- A pass leaves the registry and whether it is stale. -/
lemma registry_of_run {source : String} {result : Except Halt String}
    (h : bundle source env t.session = (result, s)) :
    s.registry = t.session.registry ∧ s.stale = t.session.stale := by
  have hpasses : Passes env t.session (bundle source env t.session).2 :=
    bundle_passes source t.session
  rw [h] at hpasses
  exact hpasses.registry

lemma delivered?_of_unread (h : ∀ r, Request.decode t.text ≠ .ok r) :
    delivered? t.text = none := by
  cases hread : Request.decode t.text with
  | error fault => simp [delivered?, hread]
  | ok r => exact absurd hread (h r)

lemma delivered?_of_kind (h : Request.decode t.text = .ok r)
    (hkind : r.kind ≠ some "registry-updated") : delivered? t.text = none := by
  rw [delivered?, h]
  exact if_neg hkind

/-- A message that delivers a registry replaces the one of the session, and no other does. -/
lemma Handled.registry_eq {reply : Option Reply} (h : t.Handled env reply s) :
    s.registry = (delivered? t.text).getD t.session.registry := by
  cases h with
  | unread h =>
    rw [delivered?_of_unread h]
    rfl
  | stale h hkind =>
    rw [delivered?_of_kind h (by rw [hkind]; decide)]
    rfl
  | @updated r h hkind =>
    have hdelivered : delivered? t.text = r.registry := by
      rw [delivered?, h]
      exact if_pos hkind
    rw [hdelivered]
    rfl
  | rejected h _ hupdated _ =>
    rw [delivered?_of_kind h hupdated]
    rfl
  | bundled h hsource hrun =>
    rw [delivered?_of_kind h (source?_eq_some.mp hsource).2.1]
    exact (registry_of_run hrun).1
  | failed h hsource hrun =>
    rw [delivered?_of_kind h (source?_eq_some.mp hsource).2.1]
    exact (registry_of_run hrun).1

/-- A request for a refresh makes the registry stale, a delivery and a pass that succeeds end
this. -/
lemma Handled.stale_iff {reply : Option Reply} (h : t.Handled env reply s) :
    s.stale = true ↔
      Asks "refresh-registry" t.text ∨ t.session.stale = true ∧ ¬ t.Confirms env := by
  rw [Confirms, not_or]
  cases h with
  | unread h =>
    have hfails : ¬ t.Succeeds env := fun ⟨r, _, hr, _⟩ => h r hr
    simp [not_asks h, hfails]
  | stale h hkind => exact iff_of_true rfl (Or.inl ((asks_iff h).mpr hkind))
  | updated h hkind =>
    rw [asks_iff h, asks_iff h, hkind]
    exact iff_of_false nofun (by simp)
  | rejected h hrefresh hupdated hsource =>
    rw [asks_iff h, asks_iff h, succeeds_iff h, hsource]
    simp [hrefresh, hupdated]
  | bundled h hsource hrun =>
    have hrefresh := (source?_eq_some.mp hsource).1
    rw [asks_iff h, succeeds_iff h, hsource]
    refine iff_of_false nofun ?_
    simp [hrefresh, hrun]
  | failed h hsource hrun =>
    obtain ⟨hrefresh, hupdated, -⟩ := source?_eq_some.mp hsource
    rw [asks_iff h, asks_iff h, succeeds_iff h, hsource, (registry_of_run hrun).2]
    simp [hrefresh, hupdated, hrun]

/-! ## One message -/

lemma registry_after (t : Turn) :
    (t.after env).registry = (delivered? t.text).getD t.session.registry := by
  obtain ⟨reply, h, -⟩ := t.handled env
  exact h.registry_eq

lemma stale_after (t : Turn) :
    (t.after env).stale = true ↔
      Asks "refresh-registry" t.text ∨ t.session.stale = true ∧ ¬ t.Confirms env := by
  obtain ⟨reply, h, -⟩ := t.handled env
  exact h.stale_iff

lemma reply_of_source {source : String} (h : Request.decode t.text = .ok r)
    (hsource : r.source? = some source) :
    t.reply env = some (Reply.compiled r.id (compile env source t.session).1).encode := by
  obtain ⟨hrefresh, hupdated, hcode, hne⟩ := source?_eq_some.mp hsource
  rw [reply, handleText, h]
  simp only [handle, if_neg hrefresh, if_neg hupdated, hcode, Option.getD_some, if_neg hne,
    Option.map_some]

/-- What cannot be read, asks for nothing or fails has nothing to say about the registry. -/
lemma idle (h : (∀ r, Request.decode t.text ≠ .ok r) ∨ t.Rejected ∨ t.Fails env) :
    delivered? t.text = none ∧ ¬ Asks "refresh-registry" t.text ∧ ¬ t.Confirms env := by
  rw [Confirms, not_or]
  obtain h | ⟨r, h, hrefresh, hupdated, hsource⟩ | ⟨r, source, h, hsource, halt, hrun⟩ := h
  · have hfails : ¬ t.Succeeds env := fun ⟨r, _, hr, _⟩ => h r hr
    exact ⟨delivered?_of_unread h, not_asks h, not_asks h, hfails⟩
  · rw [asks_iff h, asks_iff h, succeeds_iff h, hsource]
    exact ⟨delivered?_of_kind h hupdated, hrefresh, hupdated, nofun⟩
  · obtain ⟨hrefresh, hupdated, -⟩ := source?_eq_some.mp hsource
    rw [asks_iff h, asks_iff h, succeeds_iff h, hsource]
    refine ⟨delivered?_of_kind h hupdated, hrefresh, hupdated, ?_⟩
    rintro ⟨_, ⟨⟩, code, hcode⟩
    rw [hrun] at hcode
    cases hcode

/-- Every message is answered as it should be. -/
theorem regular (env : Environment) (t : Turn) : t.Regular env where
  reply_eq_none_iff := by
    obtain ⟨reply, h, hreply⟩ := t.handled env
    rw [hreply, Option.map_eq_none_iff]
    exact h.eq_none_iff
  reply_eq_some text htext := by
    obtain ⟨reply, h, hreply⟩ := t.handled env
    rw [hreply, Option.map_eq_some_iff] at htext
    obtain ⟨reply, rfl, rfl⟩ := htext
    obtain ⟨r, hread, hid⟩ := h.id_eq
    obtain ⟨members, hmembers⟩ := reply.exists_toJson_eq
    refine ⟨oneLine_compact _, r, members, hread, ?_⟩
    rw [Reply.encode, hmembers, hid]
  reply_of_success r source code s h hsource hrun := by
    rw [reply_of_source h hsource, compile, hrun]
    rfl
  reply_of_failure r source halt s h hsource hrun := by
    rw [reply_of_source h hsource, compile, hrun]
    rfl
  unchanged h := by
    obtain ⟨hdelivered, hrefresh, hconfirms⟩ := idle h
    refine ⟨?_, ?_⟩
    · rw [registry_after, hdelivered]
      rfl
    · rw [Bool.eq_iff_iff, stale_after]
      simp [hrefresh, hconfirms]

end Turn

/-! ## All messages -/

lemma turns_text (texts : List String) (s : Session) :
    (turns env texts s).map (·.text) = texts := by
  induction texts generalizing s with
  | nil => rfl
  | cons text texts ih => rw [turns, List.map_cons, ih]

lemma handleAll_replies (texts : List String) (s : Session) :
    (handleAll env texts s).1 = (turns env texts s).map (·.reply env) := by
  induction texts generalizing s with
  | nil => rfl
  | cons text texts ih =>
    rw [turns, List.map_cons, ← ih]
    rfl

/-- The registry at the end is the last one that was delivered. -/
lemma handleAll_registry (texts : List String) (s : Session) :
    (handleAll env texts s).2.registry =
      (texts.filterMap delivered?).getLast?.getD s.registry := by
  induction texts generalizing s with
  | nil => rfl
  | cons text texts ih =>
    have hstep : (Turn.after env ⟨text, s⟩).registry = (delivered? text).getD s.registry :=
      Turn.registry_after ⟨text, s⟩
    show (handleAll env texts (Turn.after env ⟨text, s⟩)).2.registry = _
    rw [ih, hstep, List.filterMap_cons]
    cases delivered? text with
    | none => rfl
    | some registry => rw [List.getLast?_cons]; rfl

/-- A place in a list is its head or a place behind it. -/
lemma exists_split_cons {α : Type} {P : α → List α → Prop} (a : α) (l : List α) :
    (∃ before b later, a :: l = before ++ b :: later ∧ P b later) ↔
      P a l ∨ ∃ before b later, l = before ++ b :: later ∧ P b later := by
  constructor
  · rintro ⟨before, b, later, heq, h⟩
    cases before with
    | nil =>
      cases heq
      exact Or.inl h
    | cons c before =>
      cases heq
      exact Or.inr ⟨before, b, later, rfl, h⟩
  · rintro (h | ⟨before, b, later, rfl, h⟩)
    · exact ⟨[], a, l, rfl, h⟩
    · exact ⟨a :: before, b, later, rfl, h⟩

/-- The registry is stale at the end if a refresh was asked for after it was last confirmed, or if
it was stale before and was never confirmed. -/
lemma handleAll_stale_iff (texts : List String) (s : Session) :
    (handleAll env texts s).2.stale = true ↔
      (∃ before t later, turns env texts s = before ++ t :: later ∧
        Asks "refresh-registry" t.text ∧ ∀ t' ∈ later, ¬ t'.Confirms env) ∨
      s.stale = true ∧ ∀ t ∈ turns env texts s, ¬ t.Confirms env := by
  induction texts generalizing s with
  | nil => simp [handleAll, turns]
  | cons text texts ih =>
    have hstep : (Turn.after env ⟨text, s⟩).stale = true ↔
        Asks "refresh-registry" text ∨ s.stale = true ∧ ¬ Turn.Confirms env ⟨text, s⟩ :=
      Turn.stale_after ⟨text, s⟩
    show (handleAll env texts (Turn.after env ⟨text, s⟩)).2.stale = true ↔ _
    rw [ih, hstep, turns, exists_split_cons, List.forall_mem_cons, or_and_right, and_assoc,
      ← or_assoc]
    exact or_congr_left or_comm

/-- A worker answers each message as it should be. At the end its registry is the last one that was
delivered, and it is stale if a refresh was asked for after the last delivery and the last pass that
succeeded. -/
theorem handleAll_protocol (env : Environment) (registry : Registry) (texts : List String) :
    let run := handleAll env texts (Session.start registry)
    let turns := turns env texts (Session.start registry)
    turns.map (·.text) = texts ∧ run.1 = turns.map (·.reply env) ∧ (∀ t ∈ turns, t.Regular env) ∧
      run.2.registry = (texts.filterMap delivered?).getLast?.getD registry ∧
      (run.2.stale = true ↔ ∃ before t later, turns = before ++ t :: later ∧
        Asks "refresh-registry" t.text ∧ ∀ t' ∈ later, ¬ t'.Confirms env) := by
  refine ⟨turns_text _ _, handleAll_replies _ _, fun t _ => t.regular env,
    handleAll_registry _ _, ?_⟩
  rw [handleAll_stale_iff]
  exact or_iff_left fun h => absurd h.1 Bool.false_ne_true

/-- The text of a request for a refresh. -/
def refreshText : String := "\x7b\"id\":[7],\"type\":\"refresh-registry\"\x7d"

/-- The text of a request without a source. -/
def blankText : String := "\x7b\"id\":\"\\n\"\x7d"

/-- A text that is no message and a request without a source, after a refresh was asked for. -/
theorem handleAll_protocol_refresh :
    let env : Environment := { config := {}, network := .offline, styleCompiler := .ok }
    let run := handleAll env [refreshText, "[", blankText] (Session.start .empty)
    run.1 = [some "\x7b\"id\":[7],\"type\":\"registry-refreshed\",\"success\":true\x7d", none,
      some "\x7b\"id\":\"\\n\",\"error\":\"No code provided\"\x7d"] ∧
    run.2.stale = true ∧ ∀ reply, some reply ∈ run.1 → OneLine reply := by
  have hrefresh : Asks "refresh-registry" refreshText :=
    ⟨{ id := .array [.number (.nat 7)], kind := "refresh-registry" }, rfl, rfl⟩
  have hunread : ∀ r, Request.decode "[" ≠ .ok r := nofun
  have hblank : Request.decode blankText = .ok { id := .string "\n" } := rfl
  intro env run
  obtain ⟨-, hreplies, hregular, -, hstale⟩ :=
    handleAll_protocol env .empty [refreshText, "[", blankText]
  refine ⟨by decide +kernel, hstale.mpr ⟨[], _, _, rfl, hrefresh, fun t ht => ?_⟩,
    fun reply hreply => ?_⟩
  · simp only [turns, List.mem_cons, List.not_mem_nil, or_false] at ht
    obtain rfl | rfl := ht
    · exact (Turn.idle (Or.inl hunread)).2.2
    · exact (Turn.idle (Or.inr (Or.inl ⟨_, hblank, by simp, by simp, rfl⟩))).2.2
  · rw [hreplies] at hreply
    obtain ⟨t, ht, hreply⟩ := List.mem_map.mp hreply
    exact ((hregular t ht).reply_eq_some reply hreply).1

end LiveBundle.Worker
