import LiveBundle.Proofs.Applied
import LiveBundle.Proofs.Component.Plain
import LiveBundle.Proofs.Json.Layout
import LiveBundle.Proofs.Link
import LiveBundle.Proofs.Script.Tokens

/-!
# Ids in a bundle

The id of a module is written into its bundle three times: into a comment, as the key of its factory
and where other modules ask for it. An id may be any text, so it is escaped, in one way for comments
and in another one for strings.

* `Spells`: a literal stands for a string, as JSON and in a script; `spells_quote`;
* `Text.Escaped.not_lineEnd_of_mem_encode`: what is escaped for a comment does not end it;
* `Lexer.scan` gives the first tokens of a text, `framed_factory`: those of a factory, whatever the
  id is;
* `Module.exists_rendered_body`: what stands in place of an edit is part of the body of a factory;
* `ids_survive_linking` puts these together.
-/

namespace LiveBundle

open ModuleSyntax (requested?)
open Script (Lexer.token Lexer.isLineEnd Lexer.blanks)

/-! ## Literals -/

/-- The literal stands for the string: as a JSON text, and as a token of a script whatever follows.
-/
structure Spells (literal value : String) : Prop where
  json : Json.parse literal = .ok (.string value)
  script : ∀ rest, Lexer.token (literal.toList ++ rest) =
    some (.string value, literal.toList.length)

lemma parse_quote (s : String) : Json.parse (Json.quote s) = .ok (.string s) := by
  have hquoted : Json.Reader.quoted ((Json.quote s).toList ++ []) = .done s [] :=
    Json.Reader.quoted_append s
  have hvalue : Json.Reader.value Json.maxDepth (Json.quote s).toList = .done (.string s) [] := by
    rw [List.append_nil] at hquoted
    rw [Json.toList_quote] at hquoted ⊢
    show (Json.Reader.peekToken >>= _) _ = _
    rw [Json.Reader.bind_of_done (Json.Reader.peekToken_cons rfl _)]
    show (Json.Reader.quoted >>= _) _ = _
    rw [Json.Reader.bind_of_done hquoted]
    rfl
  unfold Json.parse Json.Reader.whole Json.Reader.bind
  rw [hvalue]
  rfl

lemma spells_quote (s : String) : Spells (Json.quote s) s := ⟨parse_quote s, Json.token_quote s⟩

/-! ## Comments -/

namespace Text.Escaped

lemma not_lineEnd_of_isPrintable {c : Char} (h : isPrintable c = true) :
    Script.Lexer.isLineEnd c = false :=
  Script.Lexer.isLineEnd_of_class isPrintable rfl rfl (by decide +kernel) (by decide +kernel) h

lemma not_lineEnd_of_mem_codePoint {c d : Char} (h : d ∈ codePoint c) :
    Script.Lexer.isLineEnd d = false := by
  simp only [codePoint, List.mem_append, List.mem_cons, List.not_mem_nil, or_false] at h
  rcases h with ((rfl | rfl | rfl) | h) | rfl
  · rfl
  · rfl
  · rfl
  · exact Script.Lexer.isLineEnd_of_class Char.isAlphanum (by decide) (by decide) (by decide)
      (by decide) (Component.isAlphanum_toDigits _ d h)
  · rfl

lemma not_lineEnd_of_mem_encodeChar {first : Bool} {c d : Char} (h : d ∈ encodeChar first c) :
    Script.Lexer.isLineEnd d = false := by
  -- The escapes by letter come first; they are two characters each.
  have hshort {e : Char} (he : Script.Lexer.isLineEnd e = false) (h : d ∈ ['\\', e]) :
      Script.Lexer.isLineEnd d = false := by
    rcases List.mem_cons.mp h with rfl | h
    · rfl
    · rwa [List.mem_singleton.mp h]
  unfold encodeChar at h
  split_ifs at h with _ _ _ _ _ _ _ _ hprintable
  · exact hshort rfl h
  · exact hshort rfl h
  · exact hshort rfl h
  · exact hshort rfl h
  · exact hshort rfl h
  · exact hshort rfl h
  · exact hshort rfl h
  · exact not_lineEnd_of_mem_codePoint h
  · rw [List.mem_singleton.mp h]
    exact not_lineEnd_of_isPrintable hprintable
  · exact not_lineEnd_of_mem_codePoint h

/-- What is escaped stays on one line. -/
lemma not_lineEnd_of_mem_encode {s : List Char} {d : Char} (h : d ∈ encode s) :
    Script.Lexer.isLineEnd d = false := by
  cases s with
  | nil => cases h
  | cons c cs =>
    rcases List.mem_append.mp h with h | h
    · exact not_lineEnd_of_mem_encodeChar h
    · obtain ⟨e, -, h⟩ := List.mem_flatMap.mp h
      exact not_lineEnd_of_mem_encodeChar h

end Text.Escaped

/-! ## The first tokens of a text -/

namespace Script.Lexer

/-- The first tokens of a text, blanks and comments in front of each passed over, and what stands
behind them. -/
def scan : Nat → List Char → Option (List TokenKind × List Char)
  | 0, s => some ([], s)
  | n + 1, s => do
    let (skipped, _) ← blanks .outside false 0 s
    let (kind, length) ← token (s.drop skipped)
    let (kinds, rest) ← scan n ((s.drop skipped).drop length)
    some (kind :: kinds, rest)

variable {n : Nat} {kinds : List TokenKind} {rest after : List Char}

/-- One token in front of others. -/
lemma scan_succ {s : List Char} {skipped length : Nat} {broken : Bool} {kind : TokenKind}
    (hblanks : blanks .outside false 0 s = some (skipped, broken))
    (htoken : token (s.drop skipped) = some (kind, length))
    (hrest : (s.drop skipped).drop length = rest)
    (hscan : scan n rest = some (kinds, after)) : scan (n + 1) s = some (kind :: kinds, after) := by
  rw [scan, hblanks]
  simp only [Option.bind_eq_bind, Option.bind_some, htoken, hrest, hscan]

/-- Some tokens in front of others. -/
lemma scan_append {m : Nat} {s : List Char} {front : List TokenKind}
    (hfront : scan m s = some (front, rest)) (hscan : scan n rest = some (kinds, after)) :
    scan (n + m) s = some (front ++ kinds, after) := by
  induction m generalizing s front with
  | zero =>
    cases hfront
    exact hscan
  | succ m ih =>
    simp only [scan, Option.bind_eq_bind, Option.bind_eq_some_iff] at hfront
    obtain ⟨⟨skipped, broken⟩, hblanks, ⟨kind, length⟩, htoken, ⟨more, _⟩, hmore, heq⟩ := hfront
    cases heq
    exact scan_succ hblanks htoken rfl (ih hmore)

/-- A string in front of other tokens. -/
lemma scan_quote (id : String) (hscan : scan n rest = some (kinds, after)) :
    scan (n + 1) ((Json.quote id).toList ++ rest) = some (.string id :: kinds, after) := by
  have hblanks : blanks .outside false 0 ((Json.quote id).toList ++ rest) = some (0, false) := by
    rw [Json.toList_quote]
    rfl
  exact scan_succ hblanks (Json.token_quote id rest) List.drop_left hscan

end Script.Lexer

/-! ## Factories -/

/-- The tokens between the id of a module and the body of its factory. -/
def headTokens : List Script.TokenKind :=
  [.punct "]", .punct "=", .word "function" false, .punct "(", .word "module" false, .punct ",",
    .word "exports" false, .punct ",", .word "require" false, .punct ")", .punct "\x7b"]

/-- What a script reads of a factory in front of its body: one comment, which is one line, and the
assignment to the place of the module's id. -/
structure Module.Framed (m : Module) (comment : String) : Prop where
  text : m.factory =
    "\n  // " ++ comment ++ "\n  __pg_modules[" ++ Json.quote m.id ++
      "] = function (module, exports, require) \x7b\n" ++ endLine m.body ++ "  \x7d;\n"
  oneLine : ∀ c ∈ comment.toList, Lexer.isLineEnd c = false
  skipped : ∀ rest, Lexer.blanks .outside false 0 (m.factory.toList ++ rest) =
    some (("\n  // " ++ comment ++ "\n  ").toList.length, true)
  tokens : ∀ rest, Script.Lexer.scan 14 (m.factory.toList ++ rest) =
    some (.word "__pg_modules" false :: .punct "[" :: .string m.id :: headTokens,
      '\n' :: ((endLine m.body).toList ++ ("  \x7d;\n".toList ++ rest)))

lemma scan_head (rest : List Char) :
    Script.Lexer.scan 11 ("] = function (module, exports, require) \x7b".toList ++ rest) =
      some (headTokens, rest) := by
  cbv

/-- A comment of one line in front of a factory is all that is passed over. -/
lemma blanks_factory {comment : List Char} (h : ∀ c ∈ comment, Lexer.isLineEnd c = false)
    (rest : List Char) :
    Lexer.blanks .outside false 0
        ("\n  // ".toList ++ (comment ++ '\n' :: ("  __pg_modules[".toList ++ rest))) =
      some (comment.length + 9, true) := by
  have hopen (s : List Char) : Lexer.blanks .outside false 0 ("\n  // ".toList ++ s) =
      Lexer.blanks .lineComment true 6 s := by cbv
  have hclose (n : Nat) : Lexer.blanks .outside true n ("  __pg_modules[".toList ++ rest) =
      some (n + 2, true) := by cbv
  rw [hopen, Script.Lexer.blanks_lineComment h, hclose]
  congr 2
  omega

lemma drop_factory (comment rest : List Char) :
    ("\n  // ".toList ++ (comment ++ '\n' :: ("  __pg_modules[".toList ++ rest))).drop
      (comment.length + 9) = "__pg_modules[".toList ++ rest := by
  have hfront : comment.length + 9 = ("\n  // ".toList ++ (comment ++ "\n  ".toList)).length := by
    simp
  have hsplit : "\n  // ".toList ++ (comment ++ '\n' :: ("  __pg_modules[".toList ++ rest)) =
      "\n  // ".toList ++ (comment ++ "\n  ".toList) ++ ("__pg_modules[".toList ++ rest) := by
    simp
  rw [hfront, hsplit, List.drop_left]

lemma framed_factory (m : Module) : m.Framed (Text.Escaped.escape m.id) := by
  have honeLine : ∀ c ∈ (Text.Escaped.escape m.id).toList, Lexer.isLineEnd c = false := by
    intro c hc
    rw [Text.Escaped.escape, String.toList_ofList] at hc
    exact Text.Escaped.not_lineEnd_of_mem_encode hc
  have hchars (rest : List Char) : m.factory.toList ++ rest =
      "\n  // ".toList ++ ((Text.Escaped.escape m.id).toList ++ '\n' :: ("  __pg_modules[".toList ++
        ((Json.quote m.id).toList ++ ("] = function (module, exports, require) \x7b".toList ++
          '\n' :: ((endLine m.body).toList ++ ("  \x7d;\n".toList ++ rest)))))) := by
    simp [Module.factory]
  refine ⟨rfl, honeLine, fun rest => ?_, fun rest => ?_⟩
  · rw [hchars, blanks_factory honeLine]
    simp
  · have hname (s : List Char) : Lexer.token ("__pg_modules[".toList ++ s) =
        some (.word "__pg_modules" false, 12) := by cbv
    have hbehind (s : List Char) : ("__pg_modules[".toList ++ s).drop 12 = '[' :: s := by cbv
    have hblanks (s : List Char) : Lexer.blanks .outside false 0 ('[' :: s) = some (0, false) := rfl
    have hbracket (s : List Char) : Lexer.token ('[' :: s) = some (.punct "[", 1) := by cbv
    rw [hchars]
    refine Script.Lexer.scan_succ (blanks_factory honeLine _) ((drop_factory _ _).symm ▸ hname _) ?_
      (Script.Lexer.scan_succ (hblanks _) (hbracket _) rfl
        (Script.Lexer.scan_quote m.id (scan_head _)))
    rw [drop_factory, hbehind]

/-! ## The entry -/

/-- The call for the entry module, behind the factories. -/
lemma scan_entry (id : String) (rest : List Char) :
    Script.Lexer.scan 6 (("\n  return __pg_require(" ++ Json.quote id ++ ");\n").toList ++ rest) =
      some ([.word "return" false, .word "__pg_require" false, .punct "(", .string id, .punct ")",
        .punct ";"], '\n' :: rest) := by
  have hfront (s : List Char) : Script.Lexer.scan 3 ("\n  return __pg_require(".toList ++ s) =
      some ([.word "return" false, .word "__pg_require" false, .punct "("], s) := by cbv
  have hback : Script.Lexer.scan 2 (")".toList ++ (";".toList ++ '\n' :: rest)) =
      some ([.punct ")", .punct ";"], '\n' :: rest) := by cbv
  have hchars : ("\n  return __pg_require(" ++ Json.quote id ++ ");\n").toList ++ rest =
      "\n  return __pg_require(".toList ++ ((Json.quote id).toList ++
        (")".toList ++ (";".toList ++ '\n' :: rest))) := by simp
  rw [hchars]
  exact Script.Lexer.scan_append (hfront _) (Script.Lexer.scan_quote id hback)

/-! ## What modules ask for -/

/-- What stands in place of an edit that is applied is part of what splicing gives. -/
lemma exists_rendered_spliceFrom (resolved : Dict String) {e : Edit} {es : List Edit} (h : e ∈ es)
    (position : Nat) (rest : List Char) (s : Splice) :
    ∃ s' before after, (spliceFrom resolved position rest s es).1 =
      before ++ (renderReplacement resolved s' e.replacement).1.toList ++ after := by
  induction es generalizing position rest s with
  | nil => cases h
  | cons x es ih =>
    rcases List.mem_cons.mp h with rfl | h
    · exact ⟨s, _, _, rfl⟩
    · obtain ⟨s', before, after, hsplice⟩ := ih h x.stop
        (Text.bytesDrop (x.stop - position) rest) (renderReplacement resolved s x.replacement).2
      refine ⟨s', Text.bytesTake (x.start - position) rest ++
        (renderReplacement resolved s x.replacement).1.toList ++ before, after, ?_⟩
      simp only [spliceFrom, hsplice, List.append_assoc]

/-- What stands in place of an edit that is applied is part of the body of the factory. -/
lemma Module.exists_rendered_body {m : Module} {e : Edit} (h : e ∈ m.kept) :
    ∃ s before after,
      m.body = before ++ (renderReplacement m.resolved s e.replacement).1 ++ after := by
  obtain ⟨s, before, after, hsplice⟩ :=
    exists_rendered_spliceFrom m.resolved h 0 m.code.toList {}
  refine ⟨s, exportHeader m.getters ++ String.ofList before, String.ofList after, ?_⟩
  have hbody : m.body = exportHeader m.getters ++
      String.ofList (spliceFrom m.resolved 0 m.code.toList {} m.kept).1 := rfl
  rw [hbody, hsplice]
  refine String.toList_injective ?_
  simp

/-- The target of a specifier is the id that it was resolved to, or else the specifier. -/
lemma targetOf_cases (resolved : Dict String) (specifier : String) :
    resolved.get? specifier = some (targetOf resolved specifier) ∨
      resolved.get? specifier = none ∧ targetOf resolved specifier = specifier := by
  rw [targetOf]
  cases resolved.get? specifier with
  | none => exact .inr ⟨rfl, rfl⟩
  | some id => exact .inl rfl

/-- Whatever the ids of its modules are, a bundle has the same frame. For each module, in order, it
has a factory behind a comment of one line, under a key that stands for the id of the module; so
different modules have different keys, and the entry is asked for by its id. Wherever a module asks
for another one, it does so by a literal that stands for the id that the specifier was resolved to,
or for the specifier if it has none. -/
theorem ids_survive_linking (g : ModuleGraph) (name : String) :
    (∃ entry, link g name =
        "var " ++ name ++ " = (function () \x7b\n" ++ runtime ++
          Text.concat (g.modules.map Module.factory) ++ entry ++ "\x7d)();\n" ∧
      (g.entry? = none → entry = "") ∧
      ∀ m, g.entry? = some m → ∀ rest, Script.Lexer.scan 6 (entry.toList ++ rest) =
        some ([.word "return" false, .word "__pg_require" false, .punct "(", .string m.id,
          .punct ")", .punct ";"], '\n' :: rest)) ∧
    (∀ m ∈ g.modules, (∃ comment, m.Framed comment) ∧ Spells (Json.quote m.id) m.id) ∧
    (g.modules.map fun m => Json.quote m.id).Nodup ∧
    ∀ m ∈ g.modules, ∀ e ∈ m.kept, ∀ specifier, requested? e = some specifier →
      ∃ s before rendered after literal target,
        m.body = before ++ rendered ++ after ∧
        rendered = (renderReplacement m.resolved s e.replacement).1 ∧
        ((∃ front back, rendered = front ++ ("require(" ++ literal ++ ")") ++ back) ∨
          e.replacement = .requireArgument specifier ∧ rendered = literal) ∧
        Spells literal target ∧
        (m.resolved.get? specifier = some target ∨
          m.resolved.get? specifier = none ∧ target = specifier) := by
  refine ⟨?_, fun m _ => ⟨⟨_, framed_factory m⟩, spells_quote m.id⟩, ?_, ?_⟩
  · cases hentry : g.entry? with
    | none =>
      refine ⟨"", ?_, fun _ => rfl, fun m hm => ?_⟩
      · rw [link, hentry]
      · cases hm
    | some m =>
      refine ⟨_, link_of_entry hentry name, fun hnone => ?_, fun m' hm' rest => ?_⟩
      · cases hnone
      · cases hm'
        exact scan_entry m.id rest
  · exact g.factoryKeys_nodup
  · intro m _ e he specifier hrequested
    obtain ⟨s, before, after, hbody⟩ := m.exists_rendered_body he
    exact ⟨s, before, _, after, Json.quote (targetOf m.resolved specifier), _, hbody, rfl,
      rendered_asksFor hrequested s, spells_quote _, targetOf_cases m.resolved specifier⟩

end LiveBundle
