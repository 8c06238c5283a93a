import LiveBundle.Proofs.Component.Plain
import LiveBundle.Proofs.FactoryNames

/-!
# Names in the module of a component

The module of a component holds the script of the component and a function around its markup. The
assignments of props and the expressions of the markup stand in the function, so a name in them is
looked up among the names of the function first, and then at the top of the module, where the script
and the compiler both declare names.

* `declarations` looks a name up in nested scopes, `refersToScript_iff`: which names are the
  script's;
* `Emitted` is a module in statements, `Emitted.scopes` are the scopes of its function;
* `text_emitted`: the module of a component in statements;
* `script_names_iff`: the names of the script that a component can use.
-/

namespace LiveBundle.Component

open Script (Program Item Binding)

/-! ## Scopes -/

/-- Who declares a name. -/
inductive Origin where
  | script
  | generated
deriving DecidableEq, Repr

/-- The names that are declared in a scope. -/
abbrev Scope := List (String × Origin)

/-- The declarations of a name in a scope. -/
def Scope.origins (scope : Scope) (name : String) : List Origin :=
  (scope.filter (·.1 = name)).map (·.2)

/-- The declarations that a name refers to, in nested scopes from the inside out: those of the first
scope that declares it. -/
def declarations (name : String) : List Scope → List Origin
  | [] => []
  | scope :: outer =>
    if scope.origins name = [] then declarations name outer else scope.origins name

/-- A name is declared, and by the script alone. -/
def RefersToScript (scopes : List Scope) (name : String) : Prop :=
  declarations name scopes ≠ [] ∧ ∀ origin ∈ declarations name scopes, origin = .script

instance (scopes : List Scope) (name : String) : Decidable (RefersToScript scopes name) :=
  inferInstanceAs (Decidable (_ ∧ _))

/-- Names with one origin. -/
def Scope.of (origin : Origin) (names : List String) : Scope := names.map (·, origin)

variable {names : List String} {name : String} {origin : Origin}

lemma mem_origins {scope : Scope} : origin ∈ scope.origins name ↔ (name, origin) ∈ scope := by
  simp [Scope.origins]

lemma mem_of {o : Origin} : (name, o) ∈ Scope.of origin names ↔ name ∈ names ∧ o = origin := by
  simp [Scope.of, eq_comm]

lemma origins_of_not_mem (h : name ∉ names) : (Scope.of origin names).origins name = [] := by
  rw [List.eq_nil_iff_forall_not_mem]
  intro o ho
  exact h (mem_of.mp (mem_origins.mp ho)).1

/-- Inside of a scope of generated names, around it a scope of both kinds of names: a name is the
script's if the script declares it and it is generated in neither scope. -/
lemma refersToScript_iff (inner outer script : List String) (name : String) :
    RefersToScript [.of .generated inner, .of .script script ++ .of .generated outer] name ↔
      name ∈ script ∧ name ∉ inner ∧ name ∉ outer := by
  have houter (o : Origin) :
      o ∈ Scope.origins (Scope.of .script script ++ Scope.of .generated outer) name ↔
        name ∈ script ∧ o = .script ∨ name ∈ outer ∧ o = .generated := by
    rw [mem_origins, List.mem_append, mem_of, mem_of]
  by_cases hinner : name ∈ inner
  · -- The innermost declaration is a generated one.
    have hgenerated : Origin.generated ∈ (Scope.of .generated inner).origins name :=
      mem_origins.mpr (mem_of.mpr ⟨hinner, rfl⟩)
    have hdeclarations : declarations name
        [.of .generated inner, .of .script script ++ .of .generated outer] =
          (Scope.of .generated inner).origins name := if_neg (List.ne_nil_of_mem hgenerated)
    constructor
    · rintro ⟨-, hall⟩
      rw [hdeclarations] at hall
      cases hall _ hgenerated
    · exact fun h => absurd hinner h.2.1
  · have hdeclarations : declarations name
        [.of .generated inner, .of .script script ++ .of .generated outer] =
          Scope.origins (.of .script script ++ .of .generated outer) name := by
      rw [declarations, if_pos (origins_of_not_mem hinner), declarations]
      split
      · rename_i hnil
        rw [hnil]
        rfl
      · rfl
    rw [RefersToScript, hdeclarations]
    constructor
    · rintro ⟨hne, hall⟩
      have hnot : name ∉ outer := fun h => by cases hall _ ((houter _).mpr (.inr ⟨h, rfl⟩))
      obtain ⟨o, ho⟩ := List.exists_mem_of_ne_nil _ hne
      rcases (houter o).mp ho with ⟨hscript, -⟩ | ⟨hgenerated, -⟩
      · exact ⟨hscript, hinner, hnot⟩
      · exact absurd hgenerated hnot
    · rintro ⟨hscript, -, hnot⟩
      refine ⟨List.ne_nil_of_mem ((houter _).mpr (.inl ⟨hscript, rfl⟩)), fun o ho => ?_⟩
      rcases (houter o).mp ho with ⟨-, rfl⟩ | ⟨hgenerated, -⟩
      · rfl
      · exact absurd hgenerated hnot

/-! ## Modules in statements -/

/-- A line of the function. -/
inductive MountLine where
  | const (declaration : ConstDeclaration)
  /-- The assignment of a prop that is given. -/
  | assign (prop : String)
  /-- The markup, whose expressions stand in its template. -/
  | markup (template : String)
  | other (text : String)

/-- A module of a script, the function that escapes values, and the function that mounts. -/
structure Emitted where
  script : List Char
  escape : ConstDeclaration
  function : String
  /-- The parameter of the function, an object unless it is given. -/
  parameter : String
  body : List MountLine

def MountLine.text : MountLine → String
  | .const declaration => "  " ++ declaration.text
  | .assign prop => propLine prop
  | .markup template => "  host.innerHTML = " ++ String.ofList [Char.ofNat 96] ++ template ++
      String.ofList [Char.ofNat 96] ++ ";"
  | .other text => text

/-- The names that a line declares. -/
def MountLine.declares : MountLine → List String
  | .const declaration => declaration.target.names
  | _ => []

namespace Emitted

/-- The module as it is written. -/
def text (e : Emitted) : String :=
  (if e.script = [] then "" else String.ofList e.script ++ "\n\n") ++ e.escape.text ++ "\n\n" ++
    Text.concat ((("export default function " ++ e.function ++ "(" ++ e.parameter ++
      " = \x7b\x7d) \x7b") :: e.body.map MountLine.text).map (· ++ "\n"))

/-- What the function declares: its parameter and its constants. -/
def inner (e : Emitted) : List String := e.parameter :: e.body.flatMap MountLine.declares

/-- What the module declares beside its script. -/
def outer (e : Emitted) : List String := e.escape.target.names ++ [e.function]

/-- The scopes inside of the function, for the names that the script declares. -/
def scopes (e : Emitted) (names : List String) : List Scope :=
  [.of .generated e.inner, .of .script names ++ .of .generated e.outer]

end Emitted

/-! ## The module of a component -/

/-- The function that makes values safe, as a constant. -/
def escapeConstant : ConstDeclaration :=
  ⟨.name "__pg_escape", some ("(value) => String(value ?? '').replace(/[&<>\"']/g, (c) => " ++
    String.ofList [Char.ofNat 96] ++ "&#$\x7bc.charCodeAt(0)\x7d;" ++
    String.ofList [Char.ofNat 96] ++ ")")⟩

/-- The element that the component is put into. -/
def targetConstant : ConstDeclaration := ⟨.name "target", some "options.target"⟩

/-- The values of the props. -/
def propsConstant : ConstDeclaration := ⟨.name "props", some "options.props || \x7b\x7d"⟩

/-- The element around the markup. -/
def hostConstant : ConstDeclaration := ⟨.name "host", some "document.createElement('div')"⟩

/-- The lines of the function that mounts the component. -/
def mountBody (digest template : String) (props : List String) : List MountLine :=
  [.const targetConstant, .const propsConstant] ++ props.map .assign ++
    [.const hostConstant, .other ("  host.setAttribute('" ++ scopeAttribute digest ++ "', '');"),
      .other "  host.style.display = 'contents';", .markup template,
      .other "  if (target) target.appendChild(host);", .other "  return \x7b",
      .other "    element: host,", .other "    destroy() \x7b", .other "      host.remove();",
      .other "    \x7d,", .other "  \x7d;", .other "\x7d"]

/-- The module of a component in statements. -/
def emitted (digest template : String) (script : List Char) (props : List String) : Emitted :=
  ⟨script, escapeConstant, "Component_" ++ digest, "options", mountBody digest template props⟩

/-- The names that are declared around every script. -/
def generatedNames (digest : String) : List String :=
  ["options", "target", "props", "host", "__pg_escape", "Component_" ++ digest]

lemma text_mountBody (digest template : String) (props : List String) :
    (mountBody digest template props).map MountLine.text =
      (mountLines digest template props).tail := by
  have htarget : MountLine.text (.const targetConstant) = "  const target = options.target;" := by
    decide +kernel
  have hprops : MountLine.text (.const propsConstant) =
      "  const props = options.props || \x7b\x7d;" := by decide +kernel
  have hhost : MountLine.text (.const hostConstant) =
      "  const host = document.createElement('div');" := by decide +kernel
  have hother (t : String) : MountLine.text (.other t) = t := rfl
  have hassign : props.map (MountLine.text ∘ MountLine.assign) = props.map propLine := rfl
  rw [mountBody, List.map_append, List.map_append, List.map_map, hassign]
  simp only [List.map_cons, List.map_nil, htarget, hprops, hhost, hother]
  rfl

/-- The module of a component is written from its statements. -/
lemma text_emitted (digest template : String) (script : List Char) (props : List String) :
    (emitted digest template (Text.trim script) props).text =
      moduleText digest template script props := by
  have hescape : escapeConstant.text = escapeFunction := by decide +kernel
  have hhead : "export default function " ++ ("Component_" ++ digest) ++ "(" ++ "options" ++
      " = \x7b\x7d) \x7b" = "export default function Component_" ++ digest ++
        "(options = \x7b\x7d) \x7b" := by
    have hfront : "export default function " ++ "Component_" =
        "export default function Component_" := by decide +kernel
    have hback : "(" ++ ("options" ++ " = \x7b\x7d) \x7b") = "(options = \x7b\x7d) \x7b" := by
      decide +kernel
    rw [← String.append_assoc, hfront, String.append_assoc, String.append_assoc, hback]
  have hlines : mountLines digest template props =
      ("export default function Component_" ++ digest ++ "(options = \x7b\x7d) \x7b") ::
        (mountLines digest template props).tail := rfl
  rw [Emitted.text, emitted, moduleText, hescape, hhead, text_mountBody, ← hlines]

lemma inner_emitted (digest template : String) (script : List Char) (props : List String) :
    (emitted digest template script props).inner = ["options", "target", "props", "host"] := by
  have hprops : (props.map MountLine.assign).flatMap MountLine.declares = [] := by
    simp [MountLine.declares, List.flatMap_eq_nil_iff]
  simp only [Emitted.inner, emitted, mountBody, List.flatMap_append, hprops]
  rfl

example : RefersToScript ((emitted "00000000" "" [] ["name"]).scopes ["name"]) "name" ∧
    ¬RefersToScript ((emitted "00000000" "" [] ["host"]).scopes ["host"]) "host" := by
  decide

/-- The names of what is bound. -/
def boundNames {text : List Char} (bound : List (Item text × List Binding)) : List String :=
  (bound.flatMap (·.2)).map (·.name)

/-- The names that a script declares at its top level; none if it is no script. -/
def scriptNames (script : List Char) : List String :=
  ((Program.bound? false script).map boundNames).getD []

/-- Each constant of the compiler's is read as a declaration of its name. -/
lemma scriptNames_const : ∀ d ∈ [escapeConstant, targetConstant, propsConstant, hostConstant],
    scriptNames d.text.toList = d.target.names := by
  decide +kernel

/-- A component that is cut and whose markup is read compiles to a module in statements. -/
lemma compile_emitted (styleCompiler : Style.Compiler) {source filename : String}
    {sections : Sections} {parts : List Template.Part}
    (hsplit : Sections.split source (Path.fileName filename) = .ok sections)
    (hparse : Template.parse sections.markup = .ok parts) :
    ∃ compiled, compile styleCompiler source filename = .ok compiled ∧
      compiled.code = (emitted (Digest.Sha256.fingerprint source)
        (String.ofList (Template.render parts)) (Text.trim (withoutPropExports sections.script))
        (propNames sections.script)).text :=
  ⟨_, compile_of_ok hsplit hparse, (text_emitted _ _ _ _).symm⟩

/-- The module of a component that compiles is made of its script, with the props declared but not
exported, and of what the compiler writes around it. Inside of the function that mounts the
component, where props are assigned and the expressions of the markup stand, a name is the script's
if and only if the script declares it at its top level and it is none of the six names that the
compiler declares. -/
theorem script_names_iff {styleCompiler : Style.Compiler} {source filename : String}
    {compiled : Compiled} (h : compile styleCompiler source filename = .ok compiled) :
    ∃ sections parts, Sections.split source (Path.fileName filename) = .ok sections ∧
      Template.parse sections.markup = .ok parts ∧
      let digest := Digest.Sha256.fingerprint source
      let e := emitted digest (String.ofList (Template.render parts))
        (Text.trim (withoutPropExports sections.script)) (propNames sections.script)
      compiled.code = e.text ∧ .markup (String.ofList (Template.render parts)) ∈ e.body ∧
      (∀ prop, .assign prop ∈ e.body ↔ prop ∈ propNames sections.script) ∧
      (∀ d, .const d ∈ e.body ∨ d = e.escape → scriptNames d.text.toList = d.target.names) ∧
      ∀ name, RefersToScript (e.scopes (scriptNames e.script)) name ↔
        name ∈ scriptNames e.script ∧ name ∉ generatedNames digest := by
  obtain ⟨sections, parts, hsplit, hparse⟩ := exists_of_compile h
  obtain ⟨compiled', hcompile, hcode⟩ := compile_emitted styleCompiler hsplit hparse
  obtain rfl : compiled = compiled' := Except.ok.inj (h.symm.trans hcompile)
  refine ⟨sections, parts, hsplit, hparse, hcode, ?_, fun prop => ?_,
    fun d hd => scriptNames_const d ?_, fun name => ?_⟩
  · simp [emitted, mountBody]
  · simp [emitted, mountBody]
  · simp only [emitted, mountBody] at hd
    simpa [or_comm, or_left_comm] using hd
  · rw [Emitted.scopes, inner_emitted, refersToScript_iff, ← not_or, ← List.mem_append]
    rfl

/-! ## Two components with a prop -/

/-- A component whose prop has a name of its own. -/
def greeting : String := "<script>\nexport let name = 'world';\n</script>\n<h1>\x7bname\x7d</h1>"

/-- A component whose prop has the name of a constant of the function. -/
def targeted : String := "<script>\nexport let target = 'x';\n</script>\n<p>\x7btarget\x7d</p>"

lemma split_greeting : Sections.split greeting (Path.fileName "Hello.svelte") =
    .ok ⟨"\nexport let name = 'world';\n\n".toList, [],
      blank (greeting.toList.take 45) ++ greeting.toList.drop 45⟩ := by
  rfl

lemma split_targeted : Sections.split targeted (Path.fileName "T.svelte") =
    .ok ⟨"\nexport let target = 'x';\n\n".toList, [],
      blank (targeted.toList.take 43) ++ targeted.toList.drop 43⟩ := by
  rfl

lemma parse_greeting : ∃ parts, Template.parse (blank (greeting.toList.take 45) ++
    greeting.toList.drop 45) = .ok parts := ⟨_, rfl⟩

lemma parse_targeted : ∃ parts, Template.parse (blank (targeted.toList.take 43) ++
    targeted.toList.drop 43) = .ok parts := ⟨_, rfl⟩

/-- The assignment of this prop and the expression in the markup are about the script's variable. -/
theorem script_names_iff_greeting :
    ∃ compiled e, compile (fun css => .ok css) greeting "Hello.svelte" = .ok compiled ∧
      compiled.code = Emitted.text e ∧ .assign "name" ∈ e.body ∧
      RefersToScript (e.scopes (scriptNames e.script)) "name" := by
  obtain ⟨parts, hparse⟩ := parse_greeting
  obtain ⟨compiled, hcompile, -⟩ :=
    compile_emitted (fun css => .ok css) split_greeting hparse
  obtain ⟨sections, parts, hsections, -, hcode, -, hassign, -, hnames⟩ :=
    script_names_iff hcompile
  rw [split_greeting] at hsections
  cases hsections
  have hprops : propNames "\nexport let name = 'world';\n\n".toList = ["name"] := by
    decide +kernel
  have hscript : scriptNames (Text.trim
      (withoutPropExports "\nexport let name = 'world';\n\n".toList)) = ["name"] := by
    decide +kernel
  -- The name of the function is not known, but for its first letters.
  have hfunction : "name" ≠ "Component_" ++ Digest.Sha256.fingerprint greeting := by
    intro heq
    have hhead := congrArg (·.toList.head?) heq
    simp [String.toList_append] at hhead
  refine ⟨compiled, _, hcompile, hcode, ?_, ?_⟩
  · rw [hassign, hprops]
    exact List.mem_singleton_self "name"
  · refine (hnames "name").mpr ⟨?_, ?_⟩
    · show "name" ∈ scriptNames (Text.trim
        (withoutPropExports "\nexport let name = 'world';\n\n".toList))
      rw [hscript]
      exact List.mem_singleton_self "name"
    · simpa [generatedNames] using hfunction

/-- A prop of this component, and a variable of its script, has the name of a constant of the
function, and this is what the assignment and the expression are about. -/
theorem not_script_name_target :
    ∃ compiled e, compile (fun css => .ok css) targeted "T.svelte" = .ok compiled ∧
      compiled.code = Emitted.text e ∧ .assign "target" ∈ e.body ∧
      scriptNames e.script = ["target"] ∧ .const targetConstant ∈ e.body ∧
      targetConstant.target.names = ["target"] ∧
      ¬RefersToScript (e.scopes (scriptNames e.script)) "target" := by
  obtain ⟨parts, hparse⟩ := parse_targeted
  obtain ⟨compiled, hcompile, hcode⟩ :=
    compile_emitted (fun css => .ok css) split_targeted hparse
  have hprops : propNames "\nexport let target = 'x';\n\n".toList = ["target"] := by
    decide +kernel
  have hscript : scriptNames (Text.trim
      (withoutPropExports "\nexport let target = 'x';\n\n".toList)) = ["target"] := by
    decide +kernel
  refine ⟨compiled, _, hcompile, hcode, ?_, hscript, ?_, rfl, ?_⟩
  · rw [hprops]
    simp [emitted, mountBody]
  · simp [emitted, mountBody]
  · rw [Emitted.scopes, inner_emitted, refersToScript_iff]
    exact fun h => h.2.1 (by decide)

end LiveBundle.Component
