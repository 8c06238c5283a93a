import LiveBundle.Proofs.Failures
import LiveBundle.Proofs.Graph

/-!
# Passes that end

Visits are cut off where modules import each other in too long a row. A pass ends by itself when
there is a depth that is enough for it; more depth then changes nothing.

* `Action.Ends` says that an action is not cut off. Only visits ever are: `prepare_ends` and
  `resolveImport_ends`.
* `visit_of_le`: a visit that is not cut off takes the same course when more depth is allowed.
* `PassEnds` is the end of a pass; `passEnds_iff_exists_depth` says that one depth is enough to
  tell.
-/

namespace LiveBundle

variable {env : Environment} {s : Session} {α β : Type}

/-! ## Actions that are not cut off -/

/-- The action is not cut off for the depth of imports. -/
def Action.Ends (x : Action α) (env : Environment) (s : Session) : Prop :=
  (x env s).1 ≠ .error .importDepthExceeded

namespace Action

variable {x : Action α} {f : α → Action β}

/-- An action after which nothing is cut off is not cut off itself. -/
lemma Ends.of_bind (h : (x >>= f).Ends env s) : x.Ends env s := by
  intro hx
  rcases hrun : x env s with ⟨outcome, s'⟩
  rw [hrun] at hx
  subst hx
  exact h (by rw [run_bind_of_error hrun])

lemma Ends.of_bind_of_ok {a : α} {s' : Session} (h : (x >>= f).Ends env s)
    (hx : x env s = (.ok a, s')) : (f a).Ends env s' := by
  rw [Ends, run_bind_of_ok hx] at h
  exact h

/-- Two actions are not cut off if neither of them is. -/
lemma Ends.bind (hx : x.Ends env s)
    (hf : ∀ {a s'}, x env s = (.ok a, s') → (f a).Ends env s') : (x >>= f).Ends env s := by
  rcases hrun : x env s with ⟨h | a, s'⟩
  · rw [Ends, run_bind_of_error hrun]
    rw [Ends, hrun] at hx
    intro hcut
    exact hx (congrArg Except.error (Except.error.inj hcut))
  · rw [Ends, run_bind_of_ok hrun]
    exact hf hrun

lemma ends_inModule {id : String} : (inModule id x).Ends env s ↔ x.Ends env s := by
  unfold Ends inModule
  rcases x env s with ⟨(_ | _) | _, _⟩ <;> simp

lemma ends_pure (a : α) : (Pure.pure a : Action α).Ends env s := by
  simp [Ends]

/-- An action that does nothing worse than fail is not cut off. -/
lemma FailsOnly.ends {P : BundleError → Prop} (h : x.FailsOnly P env) : x.Ends env s := by
  rcases hrun : x env s with ⟨halt | a, s'⟩
  · obtain ⟨e, rfl, -⟩ := h _ _ _ hrun
    rw [Ends, hrun]
    exact fun h => by cases h
  · rw [Ends, hrun]
    exact fun h => by cases h

end Action

open LiveBundle.Action hiding pure bind

/-! ## Visits -/

namespace Pass

variable {chain : List (Provider Action)}

section

variable {config : Config} {registry : Registry}

lemma prepare_ends (id : String) : (prepare (providers config registry) id).Ends env s :=
  FailsOnly.ends (P := fun _ => True) <| prepare_sequential failsOnly_sequential
    (fun _ => failsOnly_fail True.intro)
    ((load_fails config registry id).mono fun _ _ => True.intro) fun code =>
    (transform_fails config registry code id).mono fun _ _ => True.intro

lemma resolveImport_ends (id specifier : String) :
    (resolveImport (providers config registry) id specifier).Ends env s :=
  FailsOnly.ends (P := fun _ => True) <| resolveImport_sequential failsOnly_sequential
    (failsOnly_fail True.intro)
    ((resolve_fails config registry specifier (some id)).mono fun _ _ => True.intro)

end

/-- Following imports with a visitor that goes at least as far gives the same, unless it is cut
off. -/
lemma followImports_congr {v w : String → ModuleGraph → Action ModuleGraph}
    (hvw : ∀ {target g s}, (v target g).Ends env s → w target g env s = v target g env s)
    (id : String) (specifiers : List String) {g : ModuleGraph}
    (h : (followImports chain v id specifiers g).Ends env s) :
    followImports chain w id specifiers g env s = followImports chain v id specifiers g env s := by
  induction specifiers generalizing g s with
  | nil => rfl
  | cons specifier rest ih =>
    rw [followImports] at h
    rw [followImports, followImports]
    rcases hres : resolveImport chain id specifier env s with ⟨_ | target, s₁⟩
    · rw [run_bind_of_error hres, run_bind_of_error hres]
    · -- The first visitor is not cut off at the target, so the second one agrees with it there.
      have hvisits := h.of_bind_of_ok hres
      have hsame := hvw hvisits.of_bind
      rw [run_bind_of_ok hres, run_bind_of_ok hres]
      rcases hvisit : v target g env s₁ with ⟨_ | g₁, s₂⟩
      · rw [run_bind_of_error hvisit, run_bind_of_error (hsame.trans hvisit)]
      · rw [run_bind_of_ok hvisit, run_bind_of_ok (hsame.trans hvisit)]
        exact ih (hvisits.of_bind_of_ok hvisit)

/-- A visit that is not cut off takes the same course when one level more is allowed. -/
lemma visit_succ {depth : Nat} {isEntry : Bool} {id : String} {g : ModuleGraph}
    (h : (visit chain depth isEntry id g).Ends env s) :
    visit chain (depth + 1) isEntry id g env s = visit chain depth isEntry id g env s := by
  induction depth generalizing isEntry id g s with
  | zero =>
    rw [visit] at h
    rw [visit, visit]
    by_cases hid : g.contains id = true
    · rw [if_pos hid, if_pos hid]
    · -- A new module at depth zero is cut off.
      rw [if_neg hid] at h
      exact absurd rfl h
  | succ depth ih =>
    rw [visit] at h
    rw [visit]
    conv_rhs => rw [visit]
    by_cases hid : g.contains id = true
    · rw [if_pos hid, if_pos hid]
    · rw [if_neg hid] at h
      rw [if_neg hid, if_neg hid]
      rw [ends_inModule] at h
      -- Both sides note the module of an error, so it is enough to compare what is inside.
      suffices hrun : ∀ {x y : Action ModuleGraph}, x env s = y env s →
          inModule id x env s = inModule id y env s by
        refine hrun ?_
        rcases hprep : prepare chain id env s with ⟨_ | ⟨code, syntax_⟩, s₁⟩
        · rw [run_bind_of_error hprep, run_bind_of_error hprep]
        · rw [run_bind_of_ok hprep, run_bind_of_ok hprep]
          exact followImports_congr ih id _ (h.of_bind_of_ok hprep)
      intro x y hxy
      rw [inModule, inModule, hxy]

/-- A visit that is not cut off takes the same course when more depth is allowed. -/
theorem visit_of_le {depth depth' : Nat} {isEntry : Bool} {id : String} {g : ModuleGraph}
    (h : (visit chain depth isEntry id g).Ends env s) (hle : depth ≤ depth') :
    visit chain depth' isEntry id g env s = visit chain depth isEntry id g env s := by
  induction hle with
  | refl => rfl
  | step _ ih =>
    rw [visit_succ, ih]
    rw [Ends, ih]
    exact h

end Pass

/-! ## Passes -/

/-- The pass of a source has an outcome that no depth of imports changes any more. -/
def PassEnds (env : Environment) (source : String) (s : Session) : Prop :=
  ∃ depth outcome, outcome.1 ≠ .error .importDepthExceeded ∧
    ∀ depth' ≥ depth, buildGraphWithin depth' source env s = outcome

/-- The files of a pass: those of the registry, and over them those of the source. -/
def passFiles (env : Environment) (source : String) (s : Session) : Registry :=
  s.registry.overlay (overlayEntries env source)

/-- The visit that a pass consists of. -/
lemma run_buildGraphWithin (depth : Nat) (source : String) :
    buildGraphWithin depth source env s =
      Pass.visit (providers env.config (passFiles env source s)) depth true entryId
        ModuleGraph.empty env s.resetStyles := by
  unfold buildGraphWithin
  rfl

/-- A pass ends if it is not cut off at some depth. -/
theorem passEnds_iff_exists_depth {source : String} :
    PassEnds env source s ↔ ∃ depth, (buildGraphWithin depth source).Ends env s := by
  constructor
  · rintro ⟨depth, outcome, hend, hrun⟩
    refine ⟨depth, ?_⟩
    rw [Ends, hrun depth (Nat.le_refl depth)]
    exact hend
  · rintro ⟨depth, h⟩
    refine ⟨depth, buildGraphWithin depth source env s, h, fun depth' hle => ?_⟩
    rw [Ends, run_buildGraphWithin] at h
    rw [run_buildGraphWithin, run_buildGraphWithin]
    exact Pass.visit_of_le h hle

end LiveBundle
