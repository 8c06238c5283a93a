import LiveBundle.Proofs.Component.Rewritten
import LiveBundle.Proofs.Pass.Entry

/-!
# Pasted components

A pasted component is preprocessed when it is laid over the registry, and again when its module is
changed. A component of the library is preprocessed once. The two become the same module if the
second preprocessing of the pasted one changes nothing.

* `compileComponent_eq_ok_iff`: what the compiler makes of a preprocessed source;
* `transform_pasted`: what the module of a pasted component becomes;
* `preprocess_twice_iff`: when a component is left by a second preprocessing, and that it then
  becomes the same module with the same styles whether it was pasted or is in the library.
-/

namespace LiveBundle

open Component (NeverCloses styleBlocks preprocess needsPreprocessing)

variable {env : Environment} {files : Registry} {source code path : String} {s s' : Session}

/-- A source with its style blocks compiled, as the session is configured. -/
def Environment.prepared (env : Environment) (source : String) : String :=
  preprocess env.styleCompiler env.config.styles.languages source

/-- What the component compiler makes of a source. -/
lemma compileComponent_eq_ok_iff {id : String} :
    compileComponent source id env s = (.ok code, s') ↔
      ∃ compiled, Component.compile env.styleCompiler (env.prepared source) id = .ok compiled ∧
        compiled.code = code ∧ s' = { s with styles := s.styles ++ compiled.css.getD "" } := by
  rw [compileComponent, Action.run_bind_of_ok Action.run_environment]
  unfold Environment.prepared
  dsimp only
  generalize Component.compile env.styleCompiler
    (preprocess env.styleCompiler env.config.styles.languages source) id = result
  cases result with
  | error d => exact iff_of_false (fun h => by cases h) (by rintro ⟨_, h, -⟩; cases h)
  | ok compiled =>
    obtain ⟨text, css⟩ := compiled
    cases css with
    | none =>
      have hstyles : { s with styles := s.styles ++ "" } = s := by rw [String.append_empty]
      constructor
      · rintro ⟨⟩
        exact ⟨_, rfl, rfl, hstyles.symm⟩
      · rintro ⟨_, ⟨⟩, rfl, rfl⟩
        exact congrArg (Prod.mk _) hstyles.symm
    | some css =>
      constructor
      · rintro ⟨⟩
        exact ⟨_, rfl, rfl, rfl⟩
      · rintro ⟨_, ⟨⟩, rfl, rfl⟩
        rfl

/-- Sources that are the same once they are preprocessed become the same, under any ids. -/
lemma compileComponent_congr {source' id id' : String}
    (h : env.prepared source = env.prepared source') :
    compileComponent source id env s = (.ok code, s') ↔
      compileComponent source' id' env s = (.ok code, s') := by
  rw [compileComponent_eq_ok_iff, compileComponent_eq_ok_iff, h]
  refine exists_congr fun compiled => and_congr_left fun _ => ?_
  exact ⟨fun h => Component.compile_of_compile h _, fun h => Component.compile_of_compile h _⟩

/-- A component of the library with this text. -/
structure Registry.HasComponent (files : Registry) (path source : String) : Prop where
  find : ∃ e, files.find? path = some e ∧ e.source = source
  suffix : Text.hasSuffix Specifier.componentExtension path = true
  image : LibraryFile.isVector files (Specifier.fileId path) path = false

lemma Registry.HasComponent.load (h : files.HasComponent path source) :
    Chain.load (providers env.config files) (Specifier.fileId path) = pure (some source) := by
  obtain ⟨e, hfind, rfl⟩ := h.find
  rw [load_file, hfind]

/-- A pasted component is changed by the compiler alone. -/
lemma transform_pasted (hsource : Component.isComponent source = true) (code : String) :
    Chain.transform (providers env.config (passFiles env source s)) code
        (Specifier.fileId componentPath) = compileComponent code (Specifier.fileId componentPath) := by
  refine transform_component ?_ (by decide) code
  rw [LibraryFile.isVector, passFiles_get?, if_neg (by decide), if_pos ⟨hsource, rfl⟩,
    Option.any_some, Bool.or_eq_false_iff]
  exact ⟨by decide, rfl⟩

/-- A second preprocessing leaves a source if it is not asked for or nothing is recognized any more.
Unless the style compiler or the removal of an attribute changes where tags end, this is so if no
recognized block has a second attribute by which it is recognized. A pasted component then becomes
the same module with the same styles as a component of the library with its text. -/
theorem preprocess_twice_iff (env : Environment) (source : String) :
    let languages := env.config.styles.languages
    (env.prepared (env.prepared source) = env.prepared source ↔
      needsPreprocessing languages (env.prepared source) = false ∨
        ∀ b ∈ styleBlocks (env.prepared source), ¬b.Recognized languages) ∧
    (NeverCloses env.styleCompiler →
      (∀ b ∈ styleBlocks source, b.Recognized languages → b.Spaced) →
      (env.prepared (env.prepared source) = env.prepared source ↔
        needsPreprocessing languages (env.prepared source) = false ∨
          ∀ b ∈ styleBlocks source, b.Recognized languages →
            ¬(b.rewritten env.styleCompiler languages).Recognized languages)) ∧
    (env.prepared (env.prepared source) = env.prepared source →
      Component.isComponent source = true → ∀ s files path, files.HasComponent path source →
        Chain.load (providers env.config (passFiles env source s))
          (Specifier.fileId componentPath) = pure (some (env.prepared source)) ∧
        Chain.load (providers env.config files) (Specifier.fileId path) = pure (some source) ∧
        ∀ s₁ s₂ code,
          Chain.transform (providers env.config (passFiles env source s)) (env.prepared source)
              (Specifier.fileId componentPath) env s₁ = (.ok code, s₂) ↔
            Chain.transform (providers env.config files) source (Specifier.fileId path) env s₁ =
              (.ok code, s₂)) := by
  refine ⟨Component.preprocess_eq_self_iff, fun hcompiler hspaced => ?_,
    fun htwice hsource s files path hlibrary => ⟨load_component env s hsource, hlibrary.load, ?_⟩⟩
  · refine Component.preprocess_eq_self_iff.trans ?_
    by_cases hneeds : needsPreprocessing env.config.styles.languages source = true
    · exact or_congr_right
        (Component.forall_mem_styleBlocks_preprocess hcompiler hspaced hneeds)
    · -- The source has been left already.
      have hsame : env.prepared source = source :=
        Component.preprocess_eq_self_iff.mpr (.inl (Bool.not_eq_true _ ▸ hneeds))
      rw [Bool.not_eq_true, ← hsame] at hneeds
      exact iff_of_true (.inl hneeds) (.inl hneeds)
  · intro s₁ s₂ code
    rw [transform_pasted hsource, transform_component hlibrary.image hlibrary.suffix]
    exact compileComponent_congr htwice

namespace Twice

/-- A component with a style in a style language. -/
def card : String := "<style lang=\"scss\">b</style>hi"

/-- A component whose style says so twice. -/
def doubled : String := "<style lang=\"scss\" lang=\"scss\">b</style>hi"

def environment : Environment :=
  { config := {}, network := .offline, styleCompiler := fun _ => .ok "p \x7b\x7d" }

def library : Registry := .ofEntries [.ofPath "Card.svelte" card]

def session : Session := .start library

lemma neverCloses : NeverCloses environment.styleCompiler :=
  Component.neverCloses_const (by decide)

lemma spaced : ∀ b ∈ styleBlocks card, b.Spaced := by
  have hblocks : styleBlocks card =
      [⟨"style".toList, " lang=\"scss\"".toList, ['b'], "</style>".toList⟩] := by decide
  have hread : Component.takeLang " lang=\"scss\"".toList = some ("scss".toList, []) := by
    decide
  intro b hb
  rw [hblocks, List.mem_singleton] at hb
  subst hb
  exact Component.Block.spaced_of_takeLang hread nofun

lemma hasComponent : library.HasComponent "Card.svelte" card :=
  ⟨⟨.ofPath "Card.svelte" card, rfl, rfl⟩, by decide, by decide⟩

/-- The component compiles. -/
lemma exists_compiled (id : String) : ∃ compiled,
    Component.compile environment.styleCompiler (environment.prepared card) id = .ok compiled := by
  have hprepared : environment.prepared card = "<style>p \x7b\x7d</style>hi" := by decide
  have hsplit : Component.Sections.split "<style>p \x7b\x7d</style>hi" (Path.fileName id) =
      .ok ⟨[], "p \x7b\x7d\n".toList, List.replicate 19 ' ' ++ "hi".toList⟩ := by
    unfold Component.Sections.split
    rfl
  have hparse : ∃ parts,
      Component.Template.parse (List.replicate 19 ' ' ++ "hi".toList) = .ok parts := ⟨_, rfl⟩
  obtain ⟨parts, hparse⟩ := hparse
  rw [hprepared]
  exact ⟨_, Component.compile_of_ok hsplit hparse⟩

end Twice

/-- This component is the same module whether it is pasted or not. -/
theorem preprocess_twice_iff_card : ∃ code s₂,
    Chain.transform (providers Twice.environment.config
        (passFiles Twice.environment Twice.card Twice.session))
        (Twice.environment.prepared Twice.card) (Specifier.fileId componentPath) Twice.environment
        Twice.session = (.ok code, s₂) ∧
      Chain.transform (providers Twice.environment.config Twice.library) Twice.card
        (Specifier.fileId "Card.svelte") Twice.environment Twice.session = (.ok code, s₂) := by
  obtain ⟨-, htwice, hsame⟩ := preprocess_twice_iff Twice.environment Twice.card
  have hidempotent := (htwice Twice.neverCloses fun b hb _ => Twice.spaced b hb).mpr
    (.inl (by decide +kernel))
  obtain ⟨-, -, hiff⟩ := hsame hidempotent (by decide) Twice.session Twice.library _
    Twice.hasComponent
  obtain ⟨compiled, hcompiled⟩ := Twice.exists_compiled (Specifier.fileId "Card.svelte")
  have hlibrary : Chain.transform (providers Twice.environment.config Twice.library) Twice.card
      (Specifier.fileId "Card.svelte") Twice.environment Twice.session =
        (.ok compiled.code, { Twice.session with
          styles := Twice.session.styles ++ compiled.css.getD "" }) := by
    rw [transform_component Twice.hasComponent.image Twice.hasComponent.suffix]
    exact compileComponent_eq_ok_iff.mpr ⟨compiled, hcompiled, rfl, rfl⟩
  exact ⟨_, _, (hiff _ _ _).mpr hlibrary, hlibrary⟩

/-- The second attribute has the style of this component compiled again, though no output of the
compiler holds a tag. -/
theorem not_preprocess_twice_doubled : NeverCloses Twice.environment.styleCompiler ∧
    Twice.environment.prepared Twice.doubled = "<style lang=\"scss\">p \x7b\x7d</style>hi" ∧
    Twice.environment.prepared (Twice.environment.prepared Twice.doubled) =
      "<style>p \x7b\x7d</style>hi" :=
  ⟨Twice.neverCloses, by decide +kernel, by decide +kernel⟩

end LiveBundle
