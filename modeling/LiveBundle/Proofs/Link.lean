import LiveBundle.Bundle.Link
import LiveBundle.Proofs.Graph
import LiveBundle.Proofs.ModuleSyntax
import LiveBundle.Proofs.Quoted

/-!
# What a bundle asks for

Where the linker renders an edit that asks for a module, it writes the quoted id that the specifier
was resolved to; the factories of a bundle stand under the quoted ids of its modules.

* `rendered_asksFor`: what stands in place of the edit asks for the target;
* `count_factoryKeys`: the quoted id of a module is the key of exactly one factory.
-/

namespace LiveBundle

/-- The keys under which the factories of a bundle stand, in order. -/
def ModuleGraph.factoryKeys (g : ModuleGraph) : List String :=
  g.modules.map fun m => Json.quote m.id

lemma ModuleGraph.factoryKeys_eq (g : ModuleGraph) : g.factoryKeys = g.ids.map Json.quote := by
  rw [factoryKeys, ids, List.map_map]
  rfl

lemma ModuleGraph.factoryKeys_nodup (g : ModuleGraph) : g.factoryKeys.Nodup := by
  rw [factoryKeys_eq]
  exact g.ids_nodup.map Json.quote_injective

/-- The quoted id of a module is the key of exactly one factory. -/
lemma ModuleGraph.count_factoryKeys {g : ModuleGraph} {id : String} (h : id ∈ g.ids) :
    g.factoryKeys.count (Json.quote id) = 1 := by
  refine List.count_eq_one_of_mem g.factoryKeys_nodup ?_
  rw [factoryKeys_eq]
  exact List.mem_map_of_mem h

/-- A factory stands under the quoted id of its module. -/
lemma Module.factory_key (m : Module) :
    ∃ comment body, m.factory =
      "\n  // " ++ comment ++ "\n  __pg_modules[" ++ Json.quote m.id ++
        "] = function (module, exports, require) \x7b\n" ++ body ++ "  \x7d;\n" :=
  ⟨Text.Escaped.escape m.id, endLine m.body, rfl⟩

/-- The bundle of a graph that has an entry module ends with a call for that module. -/
lemma link_of_entry {g : ModuleGraph} {m : Module} (h : g.entry? = some m) (name : String) :
    link g name =
      "var " ++ name ++ " = (function () \x7b\n" ++ runtime ++
        Text.concat (g.modules.map Module.factory) ++
        ("\n  return __pg_require(" ++ Json.quote m.id ++ ");\n") ++ "\x7d)();\n" := by
  rw [link, h]

/-- The first of several joined texts comes first. -/
lemma joinWith_cons (sep p : String) (ps : List String) :
    ∃ rest, Text.joinWith sep (p :: ps) = p ++ rest := by
  cases ps with
  | nil => exact ⟨"", by simp [Text.joinWith]⟩
  | cons q qs =>
    exact ⟨sep ++ Text.joinWith sep (q :: qs), by simp [Text.joinWith, String.append_assoc]⟩

/-- The text `rendered` of an edit asks for the module that the specifier was resolved to: by a call
of `require` with its quoted id, or, where the call is in the text of the module, by the quoted id
alone. -/
def AsksFor (resolved : Dict String) (specifier : String) (r : Replacement) (rendered : String) :
    Prop :=
  (∃ before after, rendered =
      before ++ ("require(" ++ Json.quote (targetOf resolved specifier) ++ ")") ++ after) ∨
    r = .requireArgument specifier ∧ rendered = Json.quote (targetOf resolved specifier)

variable {resolved : Dict String} {specifier : String}

/-- The declaration of a required module holds the call of `require`. -/
lemma declareRequired_eq (resolved : Dict String) (temporary specifier : String) :
    declareRequired resolved temporary specifier =
      ("const " ++ temporary ++ " = ") ++
        ("require(" ++ Json.quote (targetOf resolved specifier) ++ ")") ++ ";" := rfl

lemma renderImport_asksFor (s : Splice) (bindings : ImportBindings) :
    AsksFor resolved specifier (.importing specifier bindings)
      (renderImport resolved s specifier bindings).1 := by
  left
  unfold renderImport
  split
  · refine ⟨"", ";", ?_⟩
    rw [String.empty_append]
    rfl
  · -- The first of the joined declarations is that of the temporary.
    simp only
    obtain ⟨rest, hrest⟩ := joinWith_cons " " (declareRequired resolved s.temporary.1 specifier)
      ((bindings.default.toList.map fun name =>
          "const " ++ name ++ " = __pg_default(" ++ s.temporary.1 ++ ");") ++
        (bindings.namespace_.toList.map fun name =>
          "const " ++ name ++ " = " ++ s.temporary.1 ++ ";") ++
        (if bindings.named.isEmpty then [] else
          ["const \x7b " ++
            Text.joinWith ", " (bindings.named.map fun name => patternEntry name.1 name.2) ++
              " \x7d = " ++ s.temporary.1 ++ ";"]))
    refine ⟨"const " ++ s.temporary.1 ++ " = ", ";" ++ rest, ?_⟩
    rw [← String.append_assoc, ← declareRequired_eq, ← hrest]
    rfl

/-- What stands in place of an edit that asks for a module asks for what its specifier was resolved
to. -/
theorem rendered_asksFor {e : Edit} (h : ModuleSyntax.requested? e = some specifier) (s : Splice) :
    AsksFor resolved specifier e.replacement (renderReplacement resolved s e.replacement).1 := by
  unfold ModuleSyntax.requested? at h
  -- The cases are the edits that ask for a module, in the order of `requested?`.
  split at h <;> cases h <;> rename_i heq <;> rw [heq]
  · exact renderImport_asksFor s _
  · exact Or.inl ⟨"__pg_reexport(exports, ", ");", rfl⟩
  · exact Or.inl ⟨"const " ++ s.temporary.1 ++ " = ", ";", rfl⟩
  · exact Or.inl ⟨"const " ++ s.temporary.1 ++ " = ", ";", rfl⟩
  · exact Or.inl ⟨"Promise.resolve().then(function () \x7b return ", "; \x7d)", rfl⟩
  · exact Or.inr ⟨rfl, rfl⟩

end LiveBundle
