import LiveBundle.Bundle.Pass
import Mathlib.Tactic.Lemma

/-!
# What sequencing keeps

Many properties of actions hold of pure values and pass from two actions to their sequence. Chains,
and the providers of a pass themselves, are put together from few primitive actions by sequencing,
so such a property has to be shown for these only.

* `Action.Sequential` is the assumption on a property;
* `Chain.resolve_sequential` and its companions: a chain has the property when its hooks do;
* `Remote.resolve_sequential`, `componentProvider_sequential`: the hooks that are sequences
  themselves;
* `Pass.prepare_sequential`, `Pass.resolveImport_sequential`: the steps of a pass.
-/

namespace LiveBundle

/-- Sequencing keeps the property. -/
structure Action.Sequential (Q : (α : Type) → Action α → Prop) : Prop where
  pure : ∀ {α : Type} (a : α), Q α (Pure.pure a)
  bind : ∀ {α β : Type} {x : Action α} {f : α → Action β},
    Q α x → (∀ a, Q β (f a)) → Q β (x >>= f)

variable {Q : (α : Type) → Action α → Prop} (hQ : Action.Sequential Q)

include hQ

/-! ## Chains -/

namespace Chain

variable {chain : List (Provider Action)}

/-- An import is resolved by asking the providers one after the other. -/
lemma resolve_sequential {specifier : String} {importer : Option String}
    (h : ∀ p ∈ chain, Q _ (p.resolve specifier importer)) :
    Q _ (resolve chain specifier importer) := by
  induction chain with
  | nil => exact hQ.pure _
  | cons p ps ih =>
    obtain ⟨hp, hps⟩ := List.forall_mem_cons.mp h
    refine hQ.bind hp fun found => ?_
    cases found with
    | some id => exact hQ.pure _
    | none => exact ih hps

/-- A module is loaded by asking the providers one after the other. -/
lemma load_sequential {id : String} (h : ∀ p ∈ chain, Q _ (p.load id)) : Q _ (load chain id) := by
  induction chain with
  | nil => exact hQ.pure _
  | cons p ps ih =>
    obtain ⟨hp, hps⟩ := List.forall_mem_cons.mp h
    refine hQ.bind hp fun found => ?_
    cases found with
    | some content => exact hQ.pure _
    | none => exact ih hps

/-- Code is transformed by one provider after the other. -/
lemma transform_sequential {id : String} (h : ∀ p ∈ chain, ∀ code, Q _ (p.transform code id))
    (code : String) : Q _ (transform chain code id) := by
  induction chain generalizing code with
  | nil => exact hQ.pure _
  | cons p ps ih =>
    obtain ⟨hp, hps⟩ := List.forall_mem_cons.mp h
    refine hQ.bind (hp code) fun changed => ?_
    cases changed with
    | some changed => exact ih hps changed
    | none => exact ih hps code

end Chain

/-! ## Hooks -/

/-- A remote import follows the address of its importer or asks for an entry point, if anything. -/
lemma Remote.resolve_sequential {specifier : String} {importer : Option String}
    (henvironment : Q _ Action.environment)
    (hfollow : ∀ id ∈ importer, Specifier.isRemote id = true → Q _ (follow specifier id))
    (hentry : ∀ package, Q _ (entryPoint package specifier)) :
    Q _ (resolve specifier importer) := by
  unfold resolve
  split
  · exact hQ.pure _
  · split
    · exact hQ.pure _
    · split
      · cases hid : importer.filter Specifier.isRemote with
        | none => exact hQ.pure _
        | some id =>
          obtain ⟨hmem, hremote⟩ := Option.filter_eq_some_iff.mp hid
          exact hQ.bind (hfollow id hmem hremote) fun _ => hQ.pure _
      · cases Package.parse specifier with
        | none => exact hQ.pure _
        | some package =>
          refine hQ.bind henvironment fun _ => ?_
          cases package.subpath with
          | some subpath => exact hQ.pure _
          | none =>
            refine hQ.bind (hentry package) fun found => ?_
            cases found with
            | some entry => exact hQ.pure _
            | none => exact hQ.pure _

/-- A component is compiled and its styles are kept, or compiling fails. -/
lemma componentProvider_sequential (code id : String) (henvironment : Q _ Action.environment)
    (hfail : ∀ d, Q _ (Action.fail (.compile d) : Action String))
    (happend : ∀ css, Q _ (Action.modify (·.appendStyles css))) :
    Q _ (componentProvider.transform code id) := by
  have hcompile : Q _ (compileComponent code id) := by
    refine hQ.bind henvironment fun _ => ?_
    simp only
    split
    · exact hfail _
    · rename_i compiled _
      cases compiled.css with
      | some css => exact hQ.bind (happend css) fun _ => hQ.pure _
      | none => exact hQ.bind (hQ.pure ()) fun _ => hQ.pure _
  show Q _ (if isComponentId id then do pure (some (← compileComponent code id)) else pure none)
  split
  · exact hQ.bind hcompile fun _ => hQ.pure _
  · exact hQ.pure _

/-! ## Steps of a pass -/

namespace Pass

variable {chain : List (Provider Action)} {id : String}

/-- Preparing a module loads, transforms and scans it. -/
lemma prepare_sequential (hfail : ∀ e, Q _ (Action.fail e : Action (String × ModuleSyntax)))
    (hload : Q _ (Chain.load chain id))
    (htransform : ∀ code, Q _ (Chain.transform chain code id)) : Q _ (prepare chain id) := by
  refine hQ.bind hload fun loaded => ?_
  cases loaded with
  | none => exact hfail _
  | some source =>
    refine hQ.bind (htransform source) fun code => ?_
    cases ModuleSyntax.parse id code with
    | error d => exact hfail _
    | ok syntax_ => exact hQ.pure _

/-- Resolving an import asks the chain, and fails if no provider claims it. -/
lemma resolveImport_sequential {specifier : String}
    (hfail : Q _ (Action.fail (.unresolved specifier id) : Action String))
    (hresolve : Q _ (Chain.resolve chain specifier (some id))) :
    Q _ (resolveImport chain id specifier) := by
  refine hQ.bind hresolve fun found => ?_
  cases found with
  | none => exact hfail
  | some target => exact hQ.pure _

end Pass

end LiveBundle
