import LiveBundle.Proofs.Component.Plain
import LiveBundle.Proofs.Script.Expressions

/-!
# The text of the module of a component

The module of a component without scripts is fixed text around its digest and its markup.

* `moduleText_eq` cuts the text where statements start and where it is not fixed.
* The lemmas behind it read the statements of fixed text by evaluation.
-/

namespace LiveBundle.Component

open LiveBundle.Script LiveBundle.Script.Parser

set_option maxRecDepth 100000

/-! ## The text in pieces -/

/-- From the first keyword to the value that the escaping function starts from. -/
def escapeText : List Char := " __pg_escape = (value) => String".toList

/-- From there to the calls that do the escaping. -/
def stringText : List Char := "(value ?? '').replace".toList

/-- The escaping and the keyword behind it. -/
def replaceText : List Char :=
  "(/[&<>\"']/g, (c) => `&#$\x7bc.charCodeAt(0)\x7d;`);\n\nexport".toList

/-- The head of the exported function up to the word in its name. -/
def headText : List Char := " default function ".toList

/-- The parameters and the brace behind them. -/
def optionsText : List Char := "options = \x7b\x7d) \x7b".toList

def targetText : List Char := " target = options.target;\n  const".toList

def propsText : List Char := " props = options.props || \x7b\x7d;\n  const".toList

def hostText : List Char := " host = document.createElement('div');\n  host".toList

def scopeText : List Char := ".setAttribute(".toList

def emptyText : List Char := ", '');\n  host".toList

def displayText : List Char := ".style.display = 'contents';\n  host".toList

def markupText : List Char := ".innerHTML =".toList

def branchText : List Char := ";\n  if".toList

def appendText : List Char := " (target) target.appendChild(host);\n  return".toList

def resultText : List Char :=
  " \x7b\n    element: host,\n    destroy() \x7b\n      host.remove();".toList ++
    "\n    \x7d,\n  \x7d;\n\x7d\n".toList

/-- The text behind the first token of the statement that sets the markup. -/
def fromMarkup (template : List Char) : List Char :=
  markupText ++ ' ' :: Char.ofNat 96 :: (template ++ Char.ofNat 96 ::
    (branchText ++ (appendText ++ resultText)))

/-- The text behind the first token of the statement that sets the attribute. -/
def fromScope (digest template : List Char) : List Char :=
  scopeText ++ '\'' :: ("data-pg-".toList ++ digest ++ '\'' ::
    (emptyText ++ (displayText ++ fromMarkup template)))

/-- The text behind the parenthesis of the exported function. -/
def fromOptions (digest template : List Char) : List Char :=
  optionsText ++ ("\n  const".toList ++ (targetText ++ (propsText ++ (hostText ++
    fromScope digest template))))

/-- The text behind its first token. -/
def fromEscape (digest template : List Char) : List Char :=
  escapeText ++ (stringText ++ (replaceText ++ (headText ++ 'C' ::
    ("omponent_".toList ++ digest ++ '(' :: fromOptions digest template))))

/-- Without a script and its props, the text of a module is its pieces, one after the other. -/
lemma moduleText_eq (digest template : String) :
    (moduleText digest template [] []).toList =
      "const".toList ++ fromEscape digest.toList template.toList := by
  -- No script and no properties: two parts of the text fall away.
  have hfront : moduleText digest template [] [] = "" ++ escapeFunction ++ "\n\n" ++
      Text.concat ((mountLines digest template []).map (· ++ "\n")) := by
    have htrim : Text.trim [] = [] := by
      unfold Text.trim
      rfl
    unfold moduleText
    rw [htrim]
    simp only [if_pos]
  rw [hfront]
  unfold escapeFunction mountLines scopeAttribute Text.concat
  simp only [List.map_nil, List.append_nil, List.cons_append, List.nil_append, List.map_cons,
    List.foldl_cons, List.foldl_nil, String.toList_append, String.toList_ofList,
    List.append_assoc]
  unfold fromEscape fromOptions fromScope fromMarkup escapeText stringText replaceText headText
    optionsText targetText propsText hostText scopeText emptyText displayText markupText
    branchText appendText resultText
  simp only [String.reduceToList, List.cons_append, List.nil_append]

/-! ## Statements of fixed text -/

variable {text : List Char} {d l : Nat} {tail : List Char}

/-- The surroundings at the top level. -/
def atTop (l : Nat) : Context := Program.topLevel false (l + 20)

/-- The surroundings in the parameters of a plain function and in the body of an arrow function. -/
def inFunction (l : Nat) : Context := Context.inFunction false false (atTop l)

/-- The surroundings in the body of the exported function. -/
def inBody (l : Nat) : Context := { inFunction l with returns := true }

/-- The parameters are one name with a default value. -/
lemma reads_options :
    Reads (Runner.upTo text (d + 60) .parameters) (inFunction l)
      ⟨⟨.punct "(", 1, false⟩, optionsText ++ tail⟩ (· = ())
      ⟨⟨.punct "\x7b", 1, false⟩, tail⟩ :=
  Reads.of_eval fun _ _ _ _ => by cbv

/-- A declaration takes the target from the options. -/
lemma reads_target :
    Reads (Runner.upTo text (d + 60) (.statement false)) (inBody l)
      ⟨⟨.word "const" false, 5, true⟩, targetText ++ (propsText ++ tail)⟩ (· = .other)
      ⟨⟨.word "const" false, 5, true⟩, propsText ++ tail⟩ :=
  Reads.of_eval fun _ _ _ _ => by cbv

/-- A declaration takes the props from the options, or an empty object. -/
lemma reads_props :
    Reads (Runner.upTo text (d + 60) (.statement false)) (inBody l)
      ⟨⟨.word "const" false, 5, true⟩, propsText ++ (hostText ++ tail)⟩ (· = .other)
      ⟨⟨.word "const" false, 5, true⟩, hostText ++ tail⟩ :=
  Reads.of_eval fun _ _ _ _ => by cbv

/-- A declaration makes the element of the component. -/
lemma reads_host :
    Reads (Runner.upTo text (d + 60) (.statement false)) (inBody l)
      ⟨⟨.word "const" false, 5, true⟩, hostText ++ (scopeText ++ tail)⟩ (· = .other)
      ⟨⟨.word "host" false, 4, true⟩, scopeText ++ tail⟩ :=
  Reads.of_eval fun _ _ _ _ => by cbv

/-- An assignment gives the element no box of its own. -/
lemma reads_display :
    Reads (Runner.upTo text (d + 60) (.statement false)) (inBody l)
      ⟨⟨.word "host" false, 4, true⟩, displayText ++ (markupText ++ tail)⟩ (· = .other)
      ⟨⟨.word "host" false, 4, true⟩, markupText ++ tail⟩ :=
  Reads.of_eval fun _ _ _ _ => by cbv

/-- A condition puts the element into the target, if there is one. -/
lemma reads_append :
    Reads (Runner.upTo text (d + 60) (.statement false)) (inBody l)
      ⟨⟨.word "if" false, 2, true⟩, appendText ++ resultText⟩ (· = .other)
      ⟨⟨.word "return" false, 6, true⟩, resultText⟩ :=
  Reads.of_eval fun _ _ _ _ => by cbv

/-- The function returns the element with a way to remove it. -/
lemma reads_result :
    Reads (Runner.upTo text (d + 60) (.statement false)) (inBody l)
      ⟨⟨.word "return" false, 6, true⟩, resultText⟩ (· = .other)
      ⟨⟨.punct "\x7d", 1, true⟩, ['\n']⟩ :=
  Reads.of_eval fun _ _ _ _ => by cbv

end LiveBundle.Component
