import LiveBundle.Proofs.Script.Bindings
import LiveBundle.Proofs.Script.ModuleStatements
import LiveBundle.Proofs.Script.Tokens
import LiveBundle.Proofs.Text.Basic

/-!
# Exported `let` declarations

An export of a declaration is known by the place where the declaration starts. For variables this is
the place of their keyword, so the text tells which exports are made by `let`.

* `Program.exportedLets` are these declarations, with the names that they bind;
* `Introduces` says how the first name is read behind the keyword;
* `Parser.Declares` and `Parser.Exports` follow a declaration of variables through its productions;
* `Program.exportedLets_of_parse`: in a script that is read the declarations stand one after the
  other, each with the names that its keyword introduces.
-/

namespace LiveBundle.Script

open LiveBundle.Script.Parser

variable {text : List Char} {α β : Type}

/-! ## Declarations -/

/-- A declaration: the byte at which its keyword starts, and the names that it binds. -/
structure ExportedLet where
  place : Nat
  names : List String
deriving DecidableEq

/-- The declaration that a statement exports by `let`. -/
def Item.exportedLet? : Item text → Option ExportedLet
  | .exportDeclaration _ head (.variables patterns) =>
    if "let".toList <+: Text.bytesDrop head.stop text then
      some ⟨head.stop, Pattern.namesOfList patterns⟩
    else none
  | _ => none

/-- What a script exports by `let`, in order. -/
def Program.exportedLets (program : Program text) : List ExportedLet :=
  program.items.filterMap Item.exportedLet?

/-- A name that stands behind a keyword is a word, it is not reserved, and it is the first of the
names. -/
def Introduces (rest : List Char) (names : List String) : Prop :=
  ∀ ⦃n broken c cs⦄, Lexer.blanks .outside false 0 rest = some (n, broken) →
    rest.drop n = c :: cs → Lexer.isNameStart c = true →
    ∃ w escaped length more, Lexer.word (c :: cs) = some (.word w escaped, length) ∧
      isReserved w = false ∧ names = w :: more

/-- The declaration stands in the text. -/
def ExportedLet.Stands (text : List Char) (d : ExportedLet) : Prop :=
  ∃ before rest, text = before ++ "let".toList ++ rest ∧ Text.byteSize before = d.place ∧
    Introduces rest d.names

/-! ## Keywords -/

/-- A name that does not go on ends where it is. -/
lemma Lexer.wordChars_nil {escaped escaped' : Bool} {n m : Nat} {s : List Char}
    (h : wordChars false escaped 0 n s = some ([], m, escaped')) : m = n := by
  cases s with
  | nil =>
    cases h
    rfl
  | cons c cs =>
    have hcons {r : Option (List Char × Nat × Bool)} {d : Char}
        (h : r.map (fun r => (d :: r.1, r.2)) = some ([], m, escaped')) : m = n := by
      obtain ⟨r, -, heq⟩ := Option.map_eq_some_iff.mp h
      cases heq
    unfold wordChars at h
    simp only [Bool.false_eq_true, if_false] at h
    split at h
    · exact hcons h
    · split at h
      · split at h
        · split at h
          · split at h
            · exact hcons h
            · cases h
          · cases h
        · cases h
      · cases h
        rfl

/-- A word that starts with `let` and is one of the keywords for variables is `let`. -/
lemma Lexer.token_let {w : String} {escaped : Bool} {length : Nat} {rest : List Char}
    (hw : ["var", "let", "const"].contains w = true)
    (h : token ("let".toList ++ rest) = some (.word w escaped, length)) : length = 3 := by
  have hlet : wordChars true false 0 0 ("let".toList ++ rest) =
      (wordChars false false 0 3 rest).map fun r => ("let".toList ++ r.1, r.2) := by
    show (((wordChars false false 0 3 rest).map _).map _).map _ = _
    simp only [Option.map_map]
    rfl
  have hword : token ("let".toList ++ rest) =
      (wordChars false false 0 3 rest).map fun r =>
        (.word (String.ofList ("let".toList ++ r.1)) r.2.2, r.2.1) := by
    show word _ = _
    rw [word, hlet]
    cases wordChars false false 0 3 rest <;> rfl
  rw [hword] at h
  obtain ⟨⟨cs, m, e⟩, hrest, heq⟩ := Option.map_eq_some_iff.mp h
  cases heq
  simp only [List.contains_eq_mem, List.mem_cons, List.not_mem_nil, or_false, decide_eq_true_eq,
    ← String.toList_inj, String.toList_ofList] at hw
  have hnil : cs = [] := by
    rcases hw with hw | hw | hw
    · cases hw
    · exact List.append_cancel_left (hw.trans (List.append_nil _).symm)
    · cases hw
  subst hnil
  exact wordChars_nil hrest

/-! ## Looking at the present token -/

namespace Declaring.Peeks

/-- Behind a look, reading goes on from the same state. -/
lemma bind_eq_some {p : Parser text α} {f : α → Parser text β} (hp : Peeks p) {ctx : Context}
    {s s' : State text} {b : β} :
    (p >>= f) ctx s = some (b, s') ↔
      ∃ a, p ctx s = some (a, s) ∧ f a ctx s = some (b, s') := by
  obtain ⟨a, ha⟩ := hp ctx s
  rw [Parser.bind_eq_some, ha]
  constructor
  · rintro ⟨_, _, ⟨⟩, hrest⟩
    exact ⟨a, rfl, hrest⟩
  · rintro ⟨_, ⟨⟩, hrest⟩
    exact ⟨a, s, rfl, hrest⟩

/-- On both ways nothing is taken. -/
lemma ite {c : Prop} [Decidable c] {p q : Parser text α} (hp : Peeks p) (hq : Peeks q) :
    Peeks (if c then p else q) := by
  split
  · exact hp
  · exact hq

lemma context : Peeks (Parser.context : Parser text Context) := fun ctx _ => ⟨ctx, rfl⟩

lemma kind : Peeks (Parser.kind : Parser text TokenKind) := fun _ s => ⟨s.token.kind, rfl⟩

lemma atPunct (p : String) : Peeks (Parser.atPunct p : Parser text Bool) :=
  .bind .kind fun kind => by cases kind <;> exact .pure _

lemma atWord (w : String) : Peeks (Parser.atWord w : Parser text Bool) :=
  .bind .kind fun kind => by cases kind <;> exact .pure _

lemma atAnyWord (ws : List String) : Peeks (Parser.atAnyWord ws : Parser text Bool) :=
  .bind .kind fun kind => by cases kind <;> exact .pure _

/-- Whether a function starts is told by looking ahead. -/
lemma startsFunction : Peeks (Script.startsFunction : Parser text Bool) :=
  .bind (.atWord _) fun _ => .ite (.pure _) (.bind (.atWord _) fun _ =>
    .ite (nextLooksLike_peeks _) (.pure _))

end Declaring.Peeks

open Declaring (Peeks nextLooksLike_peeks)

/-- A punctuator that is seen is the present token. -/
lemma atPunct_true {p : String} {ctx : Context} {s s' : State text}
    (h : atPunct p ctx s = some (true, s')) : s.token.kind = .punct p := by
  obtain ⟨_, _, ⟨⟩, hpure⟩ := bind_eq_some.mp h
  generalize s.token.kind = kind at hpure
  cases kind with
  | punct q =>
    simp only [Pure.pure, Option.some.injEq, Prod.mk.injEq, beq_iff_eq] at hpure
    rw [hpure.1]
  | _ => cases hpure

/-- A word that is seen is the present token. -/
lemma atWord_true {w : String} {ctx : Context} {s s' : State text}
    (h : atWord w ctx s = some (true, s')) : ∃ escaped, s.token.kind = .word w escaped := by
  obtain ⟨_, _, ⟨⟩, hpure⟩ := bind_eq_some.mp h
  generalize s.token.kind = kind at hpure
  cases kind with
  | word v escaped =>
    simp only [Pure.pure, Option.some.injEq, Prod.mk.injEq, beq_iff_eq] at hpure
    exact ⟨escaped, by rw [hpure.1]⟩
  | _ => cases hpure

/-- One of the words that are looked for is the present token. -/
lemma atAnyWord_true {ws : List String} {ctx : Context} {s s' : State text}
    (h : atAnyWord ws ctx s = some (true, s')) :
    ∃ w escaped, s.token.kind = .word w escaped ∧ ws.contains w = true := by
  obtain ⟨_, _, ⟨⟩, hpure⟩ := bind_eq_some.mp h
  generalize s.token.kind = kind at hpure
  cases kind with
  | word w escaped =>
    simp only [Pure.pure, Option.some.injEq, Prod.mk.injEq] at hpure
    exact ⟨w, escaped, rfl, hpure.1⟩
  | _ => cases hpure

/-! ## Names -/

/-- What is read as a name is a word. -/
lemma bindingName_eq_some {ctx : Context} {s s' : State text} {name : String}
    (h : bindingName ctx s = some (name, s')) :
    ∃ escaped, s.token.kind = .word name escaped ∧ isReserved name = false := by
  obtain ⟨word, s₁, hword, hrest⟩ := bind_eq_some.mp h
  obtain ⟨_, _, ⟨⟩, hpure⟩ := bind_eq_some.mp hword
  generalize s.token.kind = kind at hpure ⊢
  cases kind with
  | word w escaped =>
    cases hpure
    obtain ⟨_, _, hensure, hrest⟩ := bind_eq_some.mp hrest
    cases hreserved : isReserved w with
    | true =>
      rw [hreserved] at hensure
      cases hensure
    | false =>
      obtain ⟨_, _, ⟨⟩, hrest⟩ := bind_eq_some.mp hrest
      obtain ⟨_, _, -, hrest⟩ := bind_eq_some.mp hrest
      obtain ⟨_, _, -, ⟨⟩⟩ := bind_eq_some.mp hrest
      exact ⟨escaped, rfl, hreserved⟩
  | _ =>
    cases hpure
    cases hrest

/-- A pattern that does not start with a bracket is a name. -/
lemma Runner.pattern_cases {depth : Nat} {ctx : Context} {s s' : State text} {pattern : Pattern}
    (h : Runner.upTo text depth .pattern ctx s = some (pattern, s')) :
    (∃ p, s.token.kind = .punct p ∧ (p = "[" ∨ p = "\x7b")) ∨
      ∃ w escaped, s.token.kind = .word w escaped ∧ isReserved w = false ∧ pattern = .name w := by
  cases depth with
  | zero => cases h
  | succ depth =>
    obtain ⟨array, harray, h⟩ := (Peeks.atPunct _).bind_eq_some.mp h
    cases array with
    | true => exact .inl ⟨_, atPunct_true harray, .inl rfl⟩
    | false =>
      obtain ⟨object, hobject, h⟩ := (Peeks.atPunct _).bind_eq_some.mp h
      cases object with
      | true => exact .inl ⟨_, atPunct_true hobject, .inr rfl⟩
      | false =>
        obtain ⟨name, s₁, hname, hpure⟩ := bind_eq_some.mp h
        cases hpure
        obtain ⟨escaped, hword, hreserved⟩ := bindingName_eq_some hname
        exact .inr ⟨name, escaped, hword, hreserved, rfl⟩

/-! ## Variables -/

/-- A variable is declared by a pattern, which comes first. -/
lemma declarator_pattern {run : Runner text} {ctx : Context} {s s' : State text}
    {d : Pattern × Bool} (h : declarator run ctx s = some (d, s')) :
    ∃ s₁, run .pattern ctx s = some (d.1, s₁) := by
  obtain ⟨pattern, s₁, hpattern, hrest⟩ := bind_eq_some.mp h
  suffices hgives : Parser.Gives (fun d : Pattern × Bool => d.1 = pattern) _ from
    ⟨s₁, by rw [hgives hrest]; exact hpattern⟩
  have hend : Parser.Gives (fun d : Pattern × Bool => d.1 = pattern) (do
      optionalType run
      if ← eatPunct "=" then
        let _ ← run.assignment
        pure (pattern, true)
      else pure (pattern, false)) := by
    refine .bind fun _ => .bind fun valued => ?_
    cases valued
    · exact .pure rfl
    · exact .bind fun _ => .pure rfl
  refine .bind fun ctx => ?_
  split
  · exact .bind fun _ => hend
  · exact hend

/-- The first of the variables that are declared. -/
lemma variableStatement_first {run : Runner text} {kind : VariableKind} {ctx : Context}
    {s s' : State text} {declaration : Declaration}
    (h : variableStatement run kind ctx s = some (declaration, s')) :
    ∃ pattern more s₁, declaration = .variables (pattern :: more) ∧
      run .pattern ctx s = some (pattern, s₁) := by
  obtain ⟨ds, s₁, hds, hrest⟩ := bind_eq_some.mp h
  obtain ⟨_, _, -, hrest⟩ := bind_eq_some.mp hrest
  obtain ⟨_, _, -, ⟨⟩⟩ := bind_eq_some.mp hrest
  have hfirst : ∃ d more s₁, ds = d :: more ∧ run .pattern ctx s = some (d.1, s₁) := by
    refine iterate_invariant
      (I := fun acc s₂ => acc = [] ∧ s₂ = s ∨
        ∃ d more s₁, acc.reverse = d :: more ∧ run .pattern ctx s = some (d.1, s₁))
      (Q := fun ds _ => ∃ d more s₁, ds = d :: more ∧ run .pattern ctx s = some (d.1, s₁))
      (fun acc s₂ r s₃ hacc hround => ?_) (.inl ⟨rfl, rfl⟩) hds
    obtain ⟨d, s₄, hd, hrest⟩ := bind_eq_some.mp hround
    have hnext : ∃ d' more s₁, (d :: acc).reverse = d' :: more ∧
        run .pattern ctx s = some (d'.1, s₁) := by
      rw [List.reverse_cons]
      rcases hacc with ⟨rfl, rfl⟩ | ⟨d', more, s₁, hacc, hrun⟩
      · obtain ⟨s₁, hrun⟩ := declarator_pattern hd
        exact ⟨d, [], s₁, rfl, hrun⟩
      · exact ⟨d', more ++ [d], s₁, by rw [hacc]; rfl, hrun⟩
    obtain ⟨eaten, s₅, -, hrest⟩ := bind_eq_some.mp hrest
    cases eaten <;> cases hrest
    · exact hnext
    · exact .inr hnext
  obtain ⟨d, more, s₁, rfl, hrun⟩ := hfirst
  exact ⟨d.1, more.map (·.1), s₁, rfl, hrun⟩

/-! ## Declarations of variables -/

/-- The token behind a keyword, which ends where the token before it starts. -/
lemma takeKeyword_eq {ctx : Context} {s s' : State text} {u : Unit}
    (h : takeKeyword ctx s = some (u, s')) :
    s'.token = (tokenAt s.stop).1 ∧ s'.start = (tokenAt s.stop).2 ∧
      s'.stop = s'.start.skip s'.token.length ∧ s'.previous = s.stop := by
  obtain ⟨_, _, ⟨⟩, hrest⟩ := bind_eq_some.mp h
  generalize s.token.kind = kind at hrest
  cases kind with
  | word w escaped =>
    obtain ⟨_, s₁, hflaw, hadvance⟩ := bind_eq_some.mp hrest
    cases hadvance
    cases escaped <;> cases hflaw <;> exact ⟨rfl, rfl, rfl, rfl⟩
  | _ =>
    cases hrest
    exact ⟨rfl, rfl, rfl, rfl⟩

/-- Where a declaration of variables is read, its keyword is the present token. -/
def Parser.Declares (run : Runner text) (s : State text) (p : Parser text Declaration) : Prop :=
  ∀ ⦃ctx patterns s'⦄, p ctx s = some (.variables patterns, s') →
    (∃ w escaped, s.token.kind = .word w escaped ∧ ["var", "let", "const"].contains w = true) ∧
      ∃ kind s₁, takeKeyword ctx s = some ((), s₁) ∧
        variableStatement run kind ctx s₁ = some (.variables patterns, s')

namespace Parser.Declares

variable {run : Runner text} {s : State text}

/-- Looking ahead changes nothing. -/
lemma peek {p : Parser text α} {f : α → Parser text Declaration} (hp : Peeks p)
    (hf : ∀ a, (f a).Declares run s) : (p >>= f).Declares run s := by
  intro ctx patterns s' h
  obtain ⟨a, -, hrest⟩ := hp.bind_eq_some.mp h
  exact hf a hrest

lemma ite {c : Prop} [Decidable c] {p q : Parser text Declaration} (hp : p.Declares run s)
    (hq : q.Declares run s) : (if c then p else q).Declares run s := by
  split
  · exact hp
  · exact hq

/-- Another kind of declaration. -/
lemma other {p : Parser text Declaration}
    (h : p.Gives fun declaration => ∀ patterns, declaration ≠ .variables patterns) :
    p.Declares run s := fun _ _ _ hrun => (h hrun _ rfl).elim

end Parser.Declares

/-- What types alone know of declares no variables. -/
lemma typedDeclaration_gives (run : Runner text) :
    Parser.Gives (fun declaration => ∀ patterns, declaration ≠ .variables patterns) (do
      if ← atWord "interface" then
        interfaceDeclaration run
        pure Declaration.erased
      else if ← atWord "type" then
        typeAlias run
        pure .erased
      else if ← atWord "enum" then
        enumDeclaration run
        pure .erased
      else if ← atAnyWord ["namespace", "module"] then
        namespaceDeclaration run
        pure .erased
      else if ← eatWord "global" then
        namespaceBody run
        pure .erased
      else fail) := by
  repeat' first
    | exact .pure (by rintro _ ⟨⟩)
    | exact .fail
    | with_reducible refine .bind fun _ => ?_
    | split

/-- Variables are declared by one of their keywords only. -/
lemma declaration_declares (run : Runner text) (s : State text) :
    (declaration run).Declares run s := by
  refine .peek .context fun ctx => .peek .startsFunction fun function => .ite (.other ?_) ?_
  · exact .bind fun name => by cases name with
      | none => exact .fail
      | some name => exact .pure (by rintro _ ⟨⟩)
  refine .peek (.atWord _) fun class_ => .peek (.atPunct _) fun decorated =>
    .peek (.atWord _) fun abstract => .peek (nextLooksLike_peeks _) fun next => .ite (.other ?_) ?_
  · exact .bind fun _ => .bind fun name => by cases name with
      | none => exact .fail
      | some name => exact .pure (by rintro _ ⟨⟩)
  refine .peek (.atWord _) fun const => .peek (nextLooksLike_peeks _) fun enum =>
    .ite (.other (.bind fun _ => .bind fun _ => .pure (by rintro _ ⟨⟩))) ?_
  intro ctx patterns s' h
  obtain ⟨declares, hdeclares, h⟩ := (Peeks.atAnyWord _).bind_eq_some.mp h
  cases declares with
  | false =>
    rw [if_neg Bool.false_ne_true] at h
    suffices hother : Parser.Declares run s _ from hother h
    exact .ite (.other (typedDeclaration_gives run)) (.other .fail)
  | true =>
    refine ⟨atAnyWord_true hdeclares, ?_⟩
    rw [if_pos rfl] at h
    obtain ⟨var, -, h⟩ := (Peeks.atWord _).bind_eq_some.mp h
    obtain ⟨let_, -, h⟩ := (Peeks.atWord _).bind_eq_some.mp h
    obtain ⟨kind, h⟩ : ∃ kind, (do takeKeyword; variableStatement run kind) ctx s =
        some (.variables patterns, s') := by
      cases var <;> cases let_
      · exact ⟨.const_, h⟩
      · exact ⟨.let_, h⟩
      · exact ⟨.var, h⟩
      · exact ⟨.var, h⟩
    obtain ⟨_, s₁, htake, hstatement⟩ := bind_eq_some.mp h
    exact ⟨kind, s₁, htake, hstatement⟩

/-! ## Exports of variables -/

/-- Where an export by `let` is read, the declaration starts at the present token. -/
def Parser.Exports (run : Runner text) (start : Place text) (s : State text)
    (p : Parser text (Item text)) : Prop :=
  ∀ ⦃ctx item s' d⦄, p ctx s = some (item, s') → item.exportedLet? = some d →
    ∃ patterns, declaration run ctx s = some (.variables patterns, s') ∧
      "let".toList <+: Text.bytesDrop d.place text ∧
      d = ⟨(start.spanTo s.start).stop, Pattern.namesOfList patterns⟩

namespace Parser.Exports

variable {run : Runner text} {start : Place text} {s : State text}

/-- Looking ahead changes nothing. -/
lemma peek {p : Parser text α} {f : α → Parser text (Item text)} (hp : Peeks p)
    (hf : ∀ a, (f a).Exports run start s) : (p >>= f).Exports run start s := by
  intro ctx item s' d h
  obtain ⟨a, -, hrest⟩ := hp.bind_eq_some.mp h
  exact hf a hrest

/-- On both ways the export is one of a declaration here. -/
lemma ite {c : Prop} [Decidable c] {p q : Parser text (Item text)} (hp : p.Exports run start s)
    (hq : q.Exports run start s) : (if c then p else q).Exports run start s := by
  split
  · exact hp
  · exact hq

/-- Another kind of statement. -/
lemma other {p : Parser text (Item text)} (h : p.Gives fun item => item.exportedLet? = none) :
    p.Exports run start s := by
  intro ctx item s' d hrun hd
  rw [h hrun] at hd
  cases hd

end Parser.Exports

lemma exportNames_gives (start : Place text) (typeOnly : Bool) :
    (exportNames start typeOnly).Gives fun item => item.exportedLet? = none := by
  refine .bind fun _ => .bind fun names => .bind fun _ => .bind fun source => ?_
  repeat' first
    | exact .pure (by cases typeOnly <;> rfl)
    | with_reducible refine .bind fun _ => ?_
    | split

lemma exportAll_gives (start : Place text) (typeOnly : Bool) :
    (exportAll start typeOnly).Gives fun item => item.exportedLet? = none := by
  refine .bind fun _ => .bind fun renamed => ?_
  repeat' first
    | exact .pure (by cases typeOnly <;> rfl)
    | with_reducible refine .bind fun _ => ?_
    | split

lemma exportDefaultDeclared_gives (start inner : Place text) (name : Option String) :
    (exportDefaultDeclared start inner name).Gives fun item => item.exportedLet? = none := by
  cases name with
  | some name => exact .pure rfl
  | none => exact .bind fun _ => .pure rfl

/-- A default export is none by `let`. -/
lemma exportDefault_gives (run : Runner text) (start : Place text) :
    (exportDefault run start).Gives fun item => item.exportedLet? = none := by
  unfold exportDefault
  repeat' first
    | exact exportDefaultDeclared_gives start _ _
    | exact .pure rfl
    | with_reducible refine .bind fun _ => ?_
    | split

/-- Neither is an import. -/
lemma importStatement_gives :
    (importStatement : Parser text (Item text)).Gives fun item => item.exportedLet? = none := by
  unfold importStatement
  repeat' first
    | exact .pure rfl
    | with_reducible refine .bind fun _ => ?_
    | split

/-- What is exported by `let` are variables, at the place where the head ends. -/
lemma Item.exportedLet?_eq_some {span head : Span text} {declaration : Declaration}
    {d : ExportedLet}
    (h : (Item.exportDeclaration span head declaration).exportedLet? = some d) :
    ∃ patterns, declaration = .variables patterns ∧
      "let".toList <+: Text.bytesDrop d.place text ∧
      d = ⟨head.stop, Pattern.namesOfList patterns⟩ := by
  rcases declaration with patterns | name | name | _
  · change (if _ then some _ else none) = some d at h
    split at h
    · rename_i hlet
      cases h
      exact ⟨patterns, rfl, hlet, rfl⟩
    · cases h
  all_goals cases h

/-- A declaration that is not only described is read from the present token on. -/
lemma describedDeclaration_eq_some {run : Runner text} {ctx : Context} {s s' : State text}
    {declared : Declaration} (h : describedDeclaration run ctx s = some ((declared, false), s')) :
    declaration run ctx s = some (declared, s') := by
  obtain ⟨_, _, ⟨⟩, h⟩ := bind_eq_some.mp h
  obtain ⟨declare, -, h⟩ := (Peeks.atWord _).bind_eq_some.mp h
  obtain ⟨starts, s₁, hstarts, hrest⟩ := bind_eq_some.mp h
  rw [looksLike_state hstarts] at hrest
  split at hrest
  · obtain ⟨_, _, -, hrest⟩ := bind_eq_some.mp hrest
    obtain ⟨_, _, -, ⟨⟩⟩ := bind_eq_some.mp hrest
  · obtain ⟨_, _, hdeclaration, ⟨⟩⟩ := bind_eq_some.mp hrest
    exact hdeclaration

/-- Behind `export` stands the declaration itself. -/
lemma exportDeclaration_exports (run : Runner text) (start : Place text) (s : State text) :
    (exportDeclaration run start).Exports run start s := by
  intro ctx item s' d h hd
  obtain ⟨_, _, ⟨⟩, h⟩ := bind_eq_some.mp h
  obtain ⟨⟨declared, described⟩, s₁, hdeclaration, h⟩ := bind_eq_some.mp h
  obtain ⟨_, _, ⟨⟩, ⟨⟩⟩ := bind_eq_some.mp h
  cases described with
  | true => cases hd
  | false =>
    obtain ⟨patterns, rfl, hlet, rfl⟩ := Item.exportedLet?_eq_some hd
    exact ⟨patterns, describedDeclaration_eq_some hdeclaration, hlet, rfl⟩

/-- Behind the keyword of an export. -/
lemma exportStatement_exports {run : Runner text} {start : Place text} {ctx : Context}
    {s s' : State text} {item : Item text} {d : ExportedLet}
    (h : exportStatement run start ctx s = some (item, s')) (hd : item.exportedLet? = some d) :
    ∃ s₁ patterns, takeKeyword ctx s = some ((), s₁) ∧
      declaration run ctx s₁ = some (.variables patterns, s') ∧
      "let".toList <+: Text.bytesDrop d.place text ∧
      d = ⟨(start.spanTo s₁.start).stop, Pattern.namesOfList patterns⟩ := by
  obtain ⟨_, s₁, htake, hrest⟩ := bind_eq_some.mp h
  suffices hexports : Parser.Exports run start s₁ _ by
    obtain ⟨patterns, hpatterns⟩ := hexports hrest hd
    exact ⟨s₁, patterns, htake, hpatterns⟩
  refine .peek .context fun ctx => .peek (.atWord _) fun _ =>
    .ite (.other (exportDefault_gives run start)) ?_
  refine .peek (.atPunct _) fun _ => .ite (.other (exportAll_gives start false)) ?_
  refine .peek (.atPunct _) fun _ => .ite (.other (exportNames_gives start false)) ?_
  refine .peek (.atWord _) fun _ => .ite (.other ?_) ?_
  · exact .bind fun _ => .bind fun _ => .bind fun inner => .bind fun _ => .bind fun _ =>
      .bind fun span => .pure rfl
  refine .peek (.atPunct _) fun _ => .ite (.other ?_) ?_
  · exact .bind fun _ => .bind fun _ => .bind fun _ => .bind fun span => .pure rfl
  refine .peek (.atWord _) fun _ => .ite (.other ?_) ?_
  · exact .bind fun _ => .bind fun _ => .bind fun _ => .bind fun _ => .bind fun span => .pure rfl
  refine .peek (.atWord _) fun _ => .peek (nextLooksLike_peeks _) fun _ =>
    .ite (.other (.bind fun _ => exportNames_gives start true)) ?_
  refine .peek (.atWord _) fun _ => .peek (nextLooksLike_peeks _) fun _ =>
    .ite (.other (.bind fun _ => exportAll_gives start true)) ?_
  exact exportDeclaration_exports run start s₁

/-! ## Statements -/

/-- A statement that exports by `let` is an export, maybe behind decorators. -/
lemma anyStatement_exports {run : Runner text} (hrun : run.Proceeds) {single : Bool} {ctx : Context}
    {s s' : State text} {item : Item text} {d : ExportedLet} (hs : s.Ordered)
    (h : anyStatement run single ctx s = some (item, s')) (hd : item.exportedLet? = some d) :
    ∃ s₁, Spans s [] s₁ ∧ exportStatement run s.start ctx s₁ = some (item, s') := by
  have hother {β : Type} {p : Parser text β} {s₁ : State text}
      (h : (p >>= fun _ => pure (Item.other : Item text)) ctx s₁ = some (item, s')) : False := by
    obtain ⟨_, _, -, ⟨⟩⟩ := bind_eq_some.mp h
    cases hd
  obtain ⟨_, _, ⟨⟩, h⟩ := bind_eq_some.mp h
  generalize s.token.kind = kind at h
  split at h
  · exact (hother h).elim
  · exact (hother h).elim
  · obtain ⟨_, _, ⟨⟩, h⟩ := bind_eq_some.mp h
    obtain ⟨_, s₁, hdecorators, h⟩ := bind_eq_some.mp h
    obtain ⟨export_, -, h⟩ := (Peeks.atWord _).bind_eq_some.mp h
    cases export_ with
    | true => exact ⟨s₁, decorators_proceeds hrun hs hdecorators, h⟩
    | false => exact (hother h).elim
  · split at h
    · obtain ⟨_, _, ⟨⟩, h⟩ := bind_eq_some.mp h
      exact ⟨s, .refl hs, h⟩
    · obtain ⟨expression, s₁, -, h⟩ := bind_eq_some.mp h
      split at h
      · rw [importStatement_gives h] at hd
        cases hd
      · exact (hother h).elim
  · exact (hother h).elim

/-! ## The text of a declaration -/

/-- What is behind a place is behind its byte. -/
lemma Place.rest_eq (p : Place text) : Text.bytesDrop p.offset text = p.rest := by
  obtain ⟨before, htext, hsize⟩ := p.reached
  calc Text.bytesDrop p.offset text = Text.bytesDrop (Text.byteSize before) (before ++ p.rest) := by
        rw [hsize, ← htext]
    _ = p.rest := Text.bytesDrop_append before p.rest

/-- A word is what the scanner finds where the token starts. -/
lemma tokenAt_word {p : Place text} {w : String} {escaped : Bool}
    (h : (tokenAt p).1.kind = .word w escaped) :
    Lexer.token (tokenAt p).2.rest = some (.word w escaped, (tokenAt p).1.length) := by
  unfold tokenAt at h ⊢
  split at h
  · cases h
  · simp only at h ⊢
    split at h
    · rename_i htoken
      cases h
      exact htoken
    · cases h

/-- Where a name starts a word is read, or nothing. -/
lemma Lexer.token_name {c : Char} (hc : isNameStart c = true) (cs : List Char) :
    token (c :: cs) = word (c :: cs) := by
  have hne : ∀ e : Char, isNameStart e = false → c ≠ e := by
    rintro e he rfl
    rw [hc] at he
    cases he
  unfold token
  simp only
  rw [if_neg (by simp [hne '"' rfl, hne '\'' rfl]), if_neg (hne (Char.ofNat 96) rfl),
    if_neg (by simp [isDigit_of_isNameStart hc]), if_neg (by simp [hne '.' rfl]),
    if_neg (hne '#' rfl), if_pos (by simp [hc])]

/-- What is read as a word is one. -/
lemma Lexer.exists_of_word {s : List Char} {kind : TokenKind} {length : Nat}
    (h : word s = some (kind, length)) : ∃ w escaped, kind = .word w escaped := by
  unfold word at h
  split at h
  · cases h
    exact ⟨_, _, rfl⟩
  · cases h

/-- What stands behind the keyword is read as the first pattern. -/
lemma introduces_of_pattern {depth : Nat} {ctx : Context} {s s' : State text} {place : Place text}
    {pattern : Pattern} {more : List Pattern} (htoken : s.token = (tokenAt place).1)
    (h : Runner.upTo text depth .pattern ctx s = some (pattern, s')) :
    Introduces place.rest (Pattern.namesOfList (pattern :: more)) := by
  intro n broken c cs hblanks hrest hc
  have hskip : (place.skip n).rest = c :: cs := hrest
  have hcases := Runner.pattern_cases h
  rw [htoken] at hcases
  cases hword : Lexer.word (c :: cs) with
  | none =>
    have htokenAt : (tokenAt place).1 = ⟨.bad, 0, broken⟩ := by
      unfold tokenAt
      simp only [hblanks, hskip, Lexer.token_name hc, hword]
    rw [htokenAt] at hcases
    rcases hcases with ⟨p, hp, -⟩ | ⟨w, escaped, hw, -⟩
    · cases hp
    · cases hw
  | some r =>
    obtain ⟨kind, length⟩ := r
    have htokenAt : (tokenAt place).1 = ⟨kind, length, broken⟩ := by
      unfold tokenAt
      simp only [hblanks, hskip, Lexer.token_name hc, hword]
    obtain ⟨w, escaped, rfl⟩ := Lexer.exists_of_word hword
    rw [htokenAt] at hcases
    rcases hcases with ⟨p, hp, -⟩ | ⟨w', escaped', hw, hreserved, rfl⟩
    · cases hp
    · cases hw
      exact ⟨w, escaped, length, _, rfl, hreserved, rfl⟩

/-- Behind a keyword that is written `let` three characters are passed over. -/
lemma skip_let {p : Place text} {w : String} {escaped : Bool} {rest : List Char}
    (hkind : (tokenAt p).1.kind = .word w escaped)
    (hw : ["var", "let", "const"].contains w = true)
    (hrest : "let".toList ++ rest = (tokenAt p).2.rest) :
    ((tokenAt p).2.skip (tokenAt p).1.length).rest = rest ∧
      ((tokenAt p).2.skip (tokenAt p).1.length).offset = (tokenAt p).2.offset + 3 := by
  have hlength : (tokenAt p).1.length = 3 := by
    have htoken := tokenAt_word hkind
    rw [← hrest] at htoken
    exact Lexer.token_let hw htoken
  rw [hlength]
  refine ⟨?_, ?_⟩
  · show (tokenAt p).2.rest.drop 3 = rest
    rw [← hrest]
    rfl
  · show (tokenAt p).2.offset + Text.byteSize ((tokenAt p).2.rest.take 3) = _
    rw [← hrest]
    rfl

/-- The declaration stands in the text and between two bytes of it. -/
structure ExportedLet.Between (text : List Char) (lo hi : Nat) (d : ExportedLet) : Prop where
  stands : d.Stands text
  le_place : lo ≤ d.place
  place_lt : d.place < hi

/-- An exported declaration stands behind the keyword of the export. -/
lemma exportStatement_between {depth : Nat} {start : Place text} {ctx : Context}
    {s s' : State text} {item : Item text} {d : ExportedLet} (hs : s.Ordered)
    (hstart : start.offset ≤ s.start.offset)
    (h : exportStatement (Runner.upTo text depth) start ctx s = some (item, s'))
    (hd : item.exportedLet? = some d) : d.Between text start.offset s'.previous.offset := by
  obtain ⟨s₁, patterns, htake, hdeclaration, hlet, hplace⟩ := exportStatement_exports h hd
  obtain ⟨⟨w, escaped, hkind, hw⟩, kind, s₂, htake', hstatement⟩ :=
    declaration_declares _ s₁ hdeclaration
  obtain ⟨pattern, more, s₃, hpatterns, hpattern⟩ := variableStatement_first hstatement
  cases hpatterns
  have hspans := takeKeyword_proceeds hs htake
  have hspans' := takeKeyword_proceeds hspans.ordered htake'
  have hproceeds : (Runner.upTo text depth).Proceeds := (Runner.takes_upTo depth).proceeds
  have hrest := (variableStatement_proceeds hproceeds kind hspans'.ordered hstatement).previous_le
  obtain ⟨htoken₁, hstart₁, hstop₁, -⟩ := takeKeyword_eq htake
  obtain ⟨htoken₂, -, -, hprevious₂⟩ := takeKeyword_eq htake'
  have hle : start.offset ≤ s₁.start.offset := Nat.le_trans hstart hspans.start_le
  obtain ⟨-, hstop⟩ := Place.spanTo_of_le hle
  subst hplace
  rw [hstop, Place.rest_eq] at hlet
  obtain ⟨rest, hrest₁⟩ := hlet
  have hskip : s₁.stop.rest = rest ∧ s₁.stop.offset = s₁.start.offset + 3 := by
    rw [htoken₁] at hkind hstop₁
    rw [hstart₁] at hrest₁ hstop₁ ⊢
    rw [hstop₁]
    exact skip_let hkind hw hrest₁
  obtain ⟨before, htext, hsize⟩ := s₁.start.reached
  refine ⟨⟨before, rest, ?_, ?_, ?_⟩, ?_, ?_⟩
  · rw [List.append_assoc, hrest₁]
    exact htext
  · rw [hsize, hstop]
  · rw [← hskip.1]
    exact introduces_of_pattern htoken₂ hpattern
  · rw [hstop]
    exact hle
  · show (start.spanTo s₁.start).stop < _
    rw [hstop]
    rw [hprevious₂, hskip.2] at hrest
    omega

/-- What a statement exports by `let` stands between its ends. -/
lemma Runner.statement_between {depth : Nat} {single : Bool} {ctx : Context} {s s' : State text}
    {item : Item text} {d : ExportedLet} (hs : s.Ordered)
    (h : Runner.upTo text depth (.statement single) ctx s = some (item, s'))
    (hd : item.exportedLet? = some d) : d.Between text s.start.offset s'.previous.offset := by
  cases depth with
  | zero => cases h
  | succ depth =>
    obtain ⟨s₁, hspans, hexport⟩ :=
      anyStatement_exports (Runner.takes_upTo depth).proceeds hs h hd
    exact exportStatement_between hspans.ordered hspans.start_le hexport hd

/-! ## Scripts -/

namespace Program

/-- The declarations that were read before a state. -/
structure Listed (ds : List ExportedLet) (s : State text) : Prop where
  ordered : s.Ordered
  sorted : ds.Pairwise fun a b => a.place < b.place
  stands : ∀ d ∈ ds, d.Stands text
  place_lt : ∀ d ∈ ds, d.place < s.start.offset

/-- Before the first statement there are no declarations. -/
lemma Listed.initial : Listed [] (initial text) :=
  ⟨initial_ordered text, .nil, fun _ h => absurd h List.not_mem_nil,
    fun _ h => absurd h List.not_mem_nil⟩

/-- One more statement. -/
lemma Listed.append {ds : List ExportedLet} {s s' : State text} {item : Item text}
    (h : Listed ds s) (hspans : Spans s [] s')
    (hitem : ∀ d, item.exportedLet? = some d → d.Between text s.start.offset s'.previous.offset) :
    Listed (ds ++ item.exportedLet?.toList) s' := by
  have hnext (d) (hd : d ∈ ds) : d.place < s'.start.offset :=
    Nat.lt_of_lt_of_le (h.place_lt d hd) hspans.start_le
  cases hlet : item.exportedLet? with
  | none =>
    rw [Option.toList_none, List.append_nil]
    exact ⟨hspans.ordered, h.sorted, h.stands, hnext⟩
  | some d =>
    have hbetween := hitem d hlet
    refine ⟨hspans.ordered, List.pairwise_append.mpr ⟨h.sorted, List.pairwise_singleton _ _, ?_⟩,
      ?_, ?_⟩
    · intro a ha b hb
      cases List.mem_singleton.mp hb
      exact Nat.lt_of_lt_of_le (h.place_lt a ha) hbetween.le_place
    all_goals
      intro a ha
      rcases List.mem_append.mp ha with ha | ha
    · exact h.stands a ha
    · cases List.mem_singleton.mp ha
      exact hbetween.stands
    · exact hnext a ha
    · cases List.mem_singleton.mp ha
      exact Nat.lt_of_lt_of_le hbetween.place_lt hspans.ordered.previous_le

/-- The statements of a script list their declarations in order. -/
lemma statements_listed {depth : Nat} {ctx : Context} {items : List (Item text)} {s : State text}
    (h : statements (Runner.upTo text depth) ctx (initial text) = some (items, s)) :
    Listed (items.filterMap Item.exportedLet?) s := by
  refine iterate_invariant (I := fun acc s => Listed (acc.reverse.filterMap Item.exportedLet?) s)
    (Q := fun items s => Listed (items.filterMap Item.exportedLet?) s)
    (fun acc s r s' hacc hround => ?_) .initial h
  obtain ⟨atEnd, hend, hrest⟩ := (Peeks.bind .kind fun _ => .pure _).bind_eq_some.mp hround
  split at hrest
  · cases hrest
    exact hacc
  · obtain ⟨item, s₁, hitem, ⟨⟩⟩ := bind_eq_some.mp hrest
    have hspans := (Runner.statement_yields depth false).proceeds hacc.ordered hitem
    have hnext := hacc.append hspans fun d hd => Runner.statement_between hacc.ordered hitem hd
    have hcons (item : Item text)
        (h : Listed (acc.reverse.filterMap Item.exportedLet? ++ item.exportedLet?.toList) s') :
        Listed ((item :: acc).reverse.filterMap Item.exportedLet?) s' := by
      rw [List.reverse_cons, List.filterMap_append]
      cases hlet : item.exportedLet? with
      | none => simpa [hlet] using h
      | some d => simpa [hlet] using h
    exact hcons item hnext

/-- What a script exports by `let` stands one after the other in its text. -/
theorem exportedLets_of_parse {typescript : Bool} {program : Program text}
    (h : parse typescript text = some program) :
    program.exportedLets.Pairwise (fun a b => a.place < b.place) ∧
      ∀ d ∈ program.exportedLets, d.Stands text := by
  unfold parse at h
  simp only [Option.bind_eq_bind, Option.bind_eq_some_iff] at h
  obtain ⟨⟨items, s⟩, hstatements, hrest⟩ := h
  split at hrest
  · cases hrest
  · cases hrest
    have hlisted := statements_listed hstatements
    exact ⟨hlisted.sorted, hlisted.stands⟩

end Program

end LiveBundle.Script
