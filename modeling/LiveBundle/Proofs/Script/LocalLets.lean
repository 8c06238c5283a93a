import LiveBundle.Proofs.Script.ExportedLets
import Mathlib.Data.Sum.Basic

/-!
# Declarations without their exports

An export by `let` is a declaration behind one word. Here a script is read without that word at some
places, over its own tokens: what is read behind the word is the declaration itself.

* `startsExportedLet` is where the word is passed over, `Program.withoutExports?` reads the script.
* `letDeclares_eq`: what an export reads as its first pattern makes `let` a keyword where the
  statement starts with it.
* `Program.withoutExports_of_parse`: whatever is read is read without the exports as well, and each
  statement binds the same names.
-/

namespace LiveBundle.Script

open LiveBundle.Script.Parser
open Declaring (Peeks looksLike_peeks nextLooksLike_peeks)

variable {text : List Char} {α β σ σ' : Type}

/-! ## Reading without the exports -/

/-- Whether an export by `let` starts here whose keyword has one of the given places. -/
def startsExportedLet (places : List Nat) : Parser text Bool := do
  if ← atWord "export" then nextLooksLike do
    let inner ← here
    pure ((← atWord "let") && places.contains inner.offset)
  else pure false

/-- The reader that passes over the word `export` in front of the `let` at these places. -/
def Declaring.Reader.withoutExports (places : List Nat) (reader : Declaring.Reader text) :
    Declaring.Reader text :=
  { reader with
    statement := fun single => do
      if ← Declaring.plain (startsExportedLet places) then Declaring.plain takeKeyword
      reader.statement single }

namespace Program

/-- Reads a script as `parse` does, without the word `export` in front of the `let` at these
places. -/
def withoutExports? (typescript : Bool) (places : List Nat) (text : List Char) :
    Option (List (Item text × List Binding)) := do
  let limit := text.length + 2
  let reader := (Declaring.Reader.upTo text (depthPerCharacter * limit)).withoutExports places
  let (locals, s) ← boundStatements reader (topLevel typescript limit) (initial text)
  let names := (locals.map Prod.fst).flatMap Item.exportedNames
  if s.flawed || !s.defaults.isEmpty || !(typescript || distinct names) then none
  else some locals

/-- What becomes of a statement: it binds what it did, and it stays what it was, or it was an export
by `let` at one of the places and is a declaration of its own. -/
def Localizes (places : List Nat) (read bare : Item text × List Binding) : Prop :=
  bare.2 = read.2 ∧ (bare.1 = read.1 ∨ bare.1 = .other ∧ ∃ span head patterns,
    read.1 = .exportDeclaration span head (.variables patterns) ∧ head.stop ∈ places ∧
      read.2 = bindAs .lexical (Pattern.namesOfList patterns))

end Program

/-! ## Tokens at which variables are declared -/

section

variable {ctx : Context} {s s' : State text} {w : String} {escaped : Bool}

/-! Looking at a word gives the answer, and the state stays. -/

lemma atWord_eq (h : s.token.kind = .word w escaped) (v : String) :
    atWord v ctx s = some (w == v, s) := by
  simp only [atWord, kind, Bind.bind, h]
  rfl

lemma atPunct_eq (h : s.token.kind = .word w escaped) (p : String) :
    atPunct p ctx s = some (false, s) := by
  simp only [atPunct, kind, Bind.bind, h]
  rfl

lemma atAnyWord_eq (h : s.token.kind = .word w escaped) (ws : List String) :
    atAnyWord ws ctx s = some (ws.contains w, s) := by
  simp only [atAnyWord, kind, Bind.bind, h]
  rfl

/-- What is seen behind the present token is what could be read there. -/
lemma nextLooksLike_eq {p : Parser text Bool} {b : Bool} {s₁ : State text} (s₂ : State text)
    (h : advance ctx s = some ((), s₁)) (hp : p ctx s₁ = some (b, s₂)) :
    nextLooksLike p ctx s = some (b, s) := by
  simp only [nextLooksLike, looksLike, Bind.bind, h, hp]

/-- A step whose result is known. -/
lemma bind_of_eq {p : Parser text α} {f : α → Parser text β} {a : α} {s₁ : State text}
    (h : p ctx s = some (a, s₁)) : (p >>= f) ctx s = f a ctx s₁ := by
  simp only [Bind.bind, h]

lemma context_eq : context ctx s = some (ctx, s) := rfl

/-- Where the present word is `let`, variables are declared. -/
lemma declaration_let (run : Runner text) (h : s.token.kind = .word "let" escaped) :
    declaration run ctx s = (do takeKeyword; variableStatement run .let_) ctx s := by
  have hfunction : startsFunction ctx s = some (false, s) := by
    simp [startsFunction, bind_of_eq (atWord_eq h _), Pure.pure]
  obtain ⟨abstract, habstract⟩ := nextLooksLike_peeks (atWord "class") ctx s
  obtain ⟨enum, henum⟩ := nextLooksLike_peeks (atWord "enum") ctx s
  simp only [declaration, Bool.or_eq_true, Bool.and_eq_true, bind_of_eq context_eq,
    bind_of_eq hfunction, Bool.false_eq_true, if_false, bind_of_eq (atWord_eq h _),
    String.reduceBEq, false_or, bind_of_eq (atPunct_eq h _), and_false, false_and,
    bind_of_eq habstract, bind_of_eq henum, bind_of_eq (atAnyWord_eq h _)]
  rw [if_pos (by decide), bind_of_eq (atWord_eq h _), bind_of_eq (atWord_eq h _)]
  rfl

/-- In front of `let` stands no `declare`. -/
lemma describedDeclaration_let (run : Runner text) (h : s.token.kind = .word "let" escaped) :
    describedDeclaration run ctx s = (do pure (← declaration run, false)) ctx s := by
  obtain ⟨starts, hstarts⟩ : ∃ starts, startsTypedDeclaration ctx s = some (starts, s) :=
    looksLike_peeks _ ctx s
  simp [describedDeclaration, bind_of_eq context_eq, bind_of_eq (atWord_eq h _), bind_of_eq hstarts]

/-- An export of what starts with `let` is one of a declaration. -/
lemma exportStatement_let (run : Runner text) (start : Place text) {s₁ : State text}
    (htake : takeKeyword ctx s = some ((), s₁)) (h : s₁.token.kind = .word "let" escaped) :
    exportStatement run start ctx s = exportDeclaration run start ctx s₁ := by
  obtain ⟨brace, hbrace⟩ := nextLooksLike_peeks (atPunct "\x7b") ctx s₁
  obtain ⟨star, hstar⟩ := nextLooksLike_peeks (atPunct "*") ctx s₁
  simp [exportStatement, bind_of_eq htake, bind_of_eq context_eq, bind_of_eq (atWord_eq h _),
    bind_of_eq (atPunct_eq h _), bind_of_eq hbrace, bind_of_eq hstar]

end

/-! ## Words behind `let` -/

namespace Lexer

variable {s : List Char} {w : String} {escaped : Bool} {length : Nat}

/-- Words are found as words only. -/
lemma word_of_token (h : token s = some (.word w escaped, length)) :
    word s = some (.word w escaped, length) := by
  have hsolid {r : Option (TokenKind × Nat)} (hr : Solid [] r)
      (h : r = some (.word w escaped, length)) : False := (hr _ _ h rfl).2 rfl
  unfold token at h
  split at h
  · cases h
  · split_ifs at h
    · obtain ⟨_, -, ⟨⟩⟩ := Option.map_eq_some_iff.mp h
    · exact (hsolid (solid_templatePart _ _ _ _) h).elim
    · exact (hsolid (solid_number _) h).elim
    · exact (hsolid (solid_fractionPart _ _) h).elim
    · split at h <;> cases h
    · exact h
    · obtain ⟨p, -, heq⟩ := Option.map_eq_some_iff.mp h
      split at heq <;> cases heq

/-- A word starts as a name does. -/
lemma exists_front (h : word s = some (.word w escaped, length)) :
    ∃ c cs, w.toList = c :: cs ∧ isNameStart c = true := by
  unfold word at h
  split at h
  · rename_i c cs n e hread
    cases h
    refine ⟨c, cs, String.toList_ofList, ?_⟩
    have hfront {d : Char} {r : Option (List Char × Nat × Bool)} (hd : isNameStart d = true)
        (h : r.map (fun r => (d :: r.1, r.2)) = some (c :: cs, length, escaped)) :
        isNameStart c = true := by
      obtain ⟨⟨_, _, _⟩, -, ⟨⟩⟩ := Option.map_eq_some_iff.mp h
      exact hd
    cases s with
    | nil => cases hread
    | cons d ds =>
      unfold wordChars at hread
      simp only [if_true] at hread
      split_ifs at hread with hstart hescape
      · exact hfront hstart hread
      · split at hread
        · split at hread
          · split_ifs at hread with hvalue
            exact hfront (Bool.and_eq_true_iff.mp hvalue).2 hread
          · cases hread
        · cases hread
      · cases hread
  · cases h

end Lexer

/-- An operator that is a word is reserved, or it stands in front of a type. -/
lemma operator_front : ∀ op ∈ assignmentOperators ++ operatorLevels.map Prod.fst,
    op.toList.head?.any Lexer.isNameStart = true →
      isReserved op = true ∨ op = "as" ∨ op = "satisfies" := by
  decide

/-- The name of a variable does not go on with an expression that starts with `let`. -/
lemma not_operator {w : String} {c : Char} {cs : List Char} (hw : w.toList = c :: cs)
    (hc : Lexer.isNameStart c = true) (hreserved : isReserved w = false)
    (hoperator : assignmentOperators.contains w = true ∨
      (operatorLevels.find? (·.1 == w)).isSome = true) : w = "as" ∨ w = "satisfies" := by
  have hmem : w ∈ assignmentOperators ++ operatorLevels.map Prod.fst := by
    rcases hoperator with h | h
    · exact List.mem_append_left _ (List.contains_iff_mem.mp h)
    · obtain ⟨op, hop⟩ := Option.isSome_iff_exists.mp h
      have heq := List.find?_some hop
      rw [beq_iff_eq] at heq
      exact List.mem_append_right _ (heq ▸ List.mem_map_of_mem (List.mem_of_find?_eq_some hop))
  rcases operator_front w hmem (by simp [hw, hc]) with h | h
  · rw [hreserved] at h
    cases h
  · exact h

section

variable {ctx : Context} {s s₁ : State text}

/-- A word is taken for an operator as it stands. -/
lemma operator?_word {w : String} {escaped : Bool} (h : s.token.kind = .word w escaped) :
    operator? ctx s = some (some w, s) := by
  have hangles : joinAngles ctx s = some ((), s) := by
    rw [joinAngles, bind_of_eq (atPunct_eq h _)]
    rfl
  rw [operator?, bind_of_eq hangles]
  simp [Bind.bind, kind, h, Pure.pure]

/-- So is a punctuator, but for closing angle brackets, which are put together. -/
lemma operator?_punct {p : String} (h : s.token.kind = .punct p) (hp : p ≠ ">") :
    operator? ctx s = some (some p, s) := by
  have hpunct : atPunct ">" ctx s = some (false, s) := by
    simp [atPunct, Bind.bind, kind, h, hp, Pure.pure]
  have hangles : joinAngles ctx s = some ((), s) := by
    rw [joinAngles, bind_of_eq hpunct]
    rfl
  rw [operator?, bind_of_eq hangles]
  simp [Bind.bind, kind, h, Pure.pure]

/-- Where a pattern comes next, `let` declares it. -/
lemma letDeclares_eq {depth : Nat} {s₂ s₃ : State text} {place : Place text} {pattern : Pattern}
    (hadvance : advance ctx s = some ((), s₁)) (hplace : s₁.token = (tokenAt place).1)
    (htoken : s₂.token = s₁.token)
    (h : Runner.upTo text depth .pattern ctx s₂ = some (pattern, s₃)) :
    letDeclares false ctx s = some (true, s) := by
  have hcases := Runner.pattern_cases h
  rw [htoken] at hcases
  refine nextLooksLike_eq s₁ hadvance ?_
  rcases hcases with ⟨p, hp, hbracket⟩ | ⟨w, escaped, hw, hreserved, -⟩
  · have hne : p ≠ ">" := by rcases hbracket with rfl | rfl <;> decide
    rw [bind_of_eq (operator?_punct hp hne)]
    rcases hbracket with rfl | rfl <;> rfl
  · rw [bind_of_eq (operator?_word hw)]
    rw [hplace] at hw
    obtain ⟨c, cs, hfront, hc⟩ := Lexer.exists_front (Lexer.word_of_token (tokenAt_word hw))
    simp only
    split
    -- Of the words that join operands, a variable can only be named by those of types.
    · rename_i hoperator
      rcases not_operator hfront hc hreserved (by simpa using hoperator) with rfl | rfl <;> rfl
    · have hmark (mark : String) (h : mark.toList.head?.any Lexer.isNameStart = false) :
          w ≠ mark := by
        rintro rfl
        simp [hfront, hc] at h
      rw [if_neg (by simp [hmark "." (by decide), hmark "(" (by decide), hmark ";" (by decide)])]
      rfl

end

/-! ## Statements -/

section

variable {places : List Nat} {ctx : Context} {s s₁ s' : State text}

/-- Whether the word is passed over is told by looking ahead. -/
lemma startsExportedLet_peeks (places : List Nat) :
    Peeks (startsExportedLet places : Parser text Bool) :=
  .bind (.atWord _) fun _ => .ite (nextLooksLike_peeks _) (.pure _)

/-- What looks as if it could be read can be read. -/
lemma looksLike_true {p : Parser text Bool} (h : looksLike p ctx s = some (true, s')) :
    ∃ s₁, p ctx s = some (true, s₁) := by
  unfold looksLike at h
  split at h
  · rename_i there s₁ hthere
    cases h
    exact ⟨s₁, hthere⟩
  · cases h

/-- The word is passed over where it stands in front of `let`, at one of the places. -/
lemma startsExportedLet_true (h : startsExportedLet places ctx s = some (true, s')) :
    ∃ escaped escaped', s.token.kind = .word "export" escaped ∧
      (tokenAt s.stop).1.kind = .word "let" escaped' ∧ (tokenAt s.stop).2.offset ∈ places := by
  obtain ⟨export_, hexport, h⟩ := (Peeks.atWord _).bind_eq_some.mp h
  cases export_ with
  | false => cases h
  | true =>
    obtain ⟨escaped, hescaped⟩ := atWord_true hexport
    rw [if_pos rfl] at h
    obtain ⟨s₁, hnext⟩ := looksLike_true h
    obtain ⟨_, s₂, ⟨⟩, hnext⟩ := bind_eq_some.mp hnext
    obtain ⟨_, _, ⟨⟩, hnext⟩ := bind_eq_some.mp hnext
    obtain ⟨let_, hlet, hnext⟩ := (Peeks.atWord _).bind_eq_some.mp hnext
    simp only [Pure.pure, Option.some.injEq, Prod.mk.injEq, Bool.and_eq_true] at hnext
    obtain ⟨⟨rfl, hmem⟩, -⟩ := hnext
    obtain ⟨escaped', hescaped'⟩ := atWord_true hlet
    exact ⟨escaped, escaped', hescaped, hescaped', List.contains_iff_mem.mp hmem⟩

/-- What is exported by `let` is bound once in its scope. -/
lemma exportedKind_let {escaped : Bool} (h : (tokenAt s.stop).1.kind = .word "let" escaped) :
    Declaring.exportedKind ctx s = some (.lexical, s) := by
  obtain ⟨s₁, hadvance, hlet⟩ : ∃ s₁, advance ctx s = some ((), s₁) ∧
      s₁.token.kind = .word "let" escaped := ⟨_, rfl, h⟩
  have hvar : nextLooksLike (atWord "var") ctx s = some (false, s) :=
    nextLooksLike_eq s₁ hadvance (atWord_eq hlet "var")
  have hdefault : nextLooksLike (do
      if ← atWord "default" then nextLooksLike startsFunction else pure false) ctx s =
        some (false, s) :=
    nextLooksLike_eq s₁ hadvance (bind_of_eq (atWord_eq hlet "default"))
  rw [Declaring.exportedKind, bind_of_eq hvar, if_neg Bool.false_ne_true, bind_of_eq hdefault]
  rfl

/-- What binds nothing is read first. -/
lemma plain_bind_of_eq {p : Parser text α} {q : α → Declaring text β} {a : α} {bs : List Binding}
    (h : p ctx s = some (a, s₁)) : (Declaring.plain p >>= q) bs ctx s = q a bs ctx s₁ := by
  show ((p >>= fun a => pure (a, bs)) >>= fun r => q r.1 r.2) ctx s = _
  simp only [Bind.bind, h]
  rfl

/-- A statement that starts with `export`. -/
lemma anyStatement_export {run : Runner text} {reader : Declaring.Reader text} {single : Bool}
    {escaped : Bool} (h : s.token.kind = .word "export" escaped) (bs : List Binding) :
    Declaring.anyStatement run reader single bs ctx s = (do
      let kind ← Declaring.exportedKind
      let item ← exportStatement run s.start
      pure (item, bs ++ item.bindings kind)) ctx s := by
  have hkind : kind ctx s = some (.word "export" escaped, s) := by rw [kind, h]
  obtain ⟨bound, hbound⟩ := Declaring.exportedKind_peeks ctx s
  have hhere : here ctx s = some (s.start, s) := rfl
  rw [Declaring.anyStatement, plain_bind_of_eq hkind]
  simp only [if_true]
  rw [plain_bind_of_eq hbound, plain_bind_of_eq hhere, bind_of_eq hbound]
  rcases hitem : exportStatement run s.start ctx s with _ | ⟨item, s₂⟩
  · simp [Declaring.plain, Bind.bind, StateT.bind, hitem]
  · rw [plain_bind_of_eq hitem, bind_of_eq hitem]
    rfl

/-- A statement that declares by `let`. -/
lemma anyStatement_let {run : Runner text} {reader : Declaring.Reader text} {escaped : Bool}
    {declared : Declaration} (h : s.token.kind = .word "let" escaped)
    (hdeclares : letDeclares false ctx s = some (true, s))
    (hdeclaration : declaration run ctx s = some (declared, s')) (bs : List Binding) :
    Declaring.anyStatement run reader false bs ctx s =
      some ((.other, bs ++ declared.bindings .lexical), s') := by
  have hkind : kind ctx s = some (.word "let" escaped, s) := by rw [kind, h]
  obtain ⟨expression, hexpression⟩ := nextLooksLike_peeks (atAnyPunct ["(", "."]) ctx s
  rw [Declaring.anyStatement, plain_bind_of_eq hkind]
  simp only [String.reduceEq, if_false]
  have hexpression : startsImportExpression ctx s = some (expression, s) := hexpression
  have hkeyword : Declaring.keywordStatement run reader false "let" bs ctx s =
      some (((), bs ++ declared.bindings .lexical), s') := by
    have hflaw : flawIf false ctx s = some ((), s) := rfl
    show (Declaring.plain _ >>= _) bs ctx s = _
    rw [plain_bind_of_eq hdeclares, if_pos rfl, plain_bind_of_eq hflaw, Declaring.declaration,
      plain_bind_of_eq hdeclaration]
    rfl
  rw [plain_bind_of_eq hexpression, if_neg (by simp)]
  exact bind_of_eq hkeyword

/-- What an export by `let` is made of. -/
lemma exportStatement_variables {depth : Nat} {start : Place text} {item : Item text}
    {escaped : Bool} (hlet : (tokenAt s.stop).1.kind = .word "let" escaped)
    (h : exportStatement (Runner.upTo text depth) start ctx s = some (item, s')) :
    ∃ s₁ span patterns, takeKeyword ctx s = some ((), s₁) ∧
      declaration (Runner.upTo text depth) ctx s₁ = some (.variables patterns, s') ∧
      letDeclares false ctx s₁ = some (true, s₁) ∧
      item = .exportDeclaration span (start.spanTo s₁.start) (.variables patterns) := by
  obtain ⟨_, s₁, htake, -⟩ := bind_eq_some.mp h
  have hlet₁ : s₁.token.kind = .word "let" escaped := by
    rw [(takeKeyword_eq htake).1]
    exact hlet
  rw [exportStatement_let _ start htake hlet₁] at h
  obtain ⟨_, _, ⟨⟩, h⟩ := bind_eq_some.mp h
  obtain ⟨⟨declared, described⟩, s₂, hdescribed, h⟩ := bind_eq_some.mp h
  obtain ⟨span, _, ⟨⟩, ⟨⟩⟩ := bind_eq_some.mp h
  rw [describedDeclaration_let _ hlet₁] at hdescribed
  obtain ⟨_, _, hdeclaration, ⟨⟩⟩ := bind_eq_some.mp hdescribed
  -- The first pattern that was read makes `let` a keyword for a statement as well.
  have hstatement := hdeclaration
  rw [declaration_let _ hlet₁] at hstatement
  obtain ⟨_, s₃, htake', hstatement⟩ := bind_eq_some.mp hstatement
  obtain ⟨pattern, more, s₄, rfl, hpattern⟩ := variableStatement_first hstatement
  refine ⟨s₁, _, _, htake, hdeclaration, ?_, rfl⟩
  exact letDeclares_eq rfl rfl (takeKeyword_eq htake').1 hpattern

/-- A statement is read to the same place, with the same names. -/
lemma statement_withoutExports (places : List Nat) {depth : Nat} {item : Item text}
    {bs : List Binding} (hs : s.Ordered)
    (h : (Declaring.Reader.upTo text depth).statement false [] ctx s = some ((item, bs), s')) :
    ∃ item', ((Declaring.Reader.upTo text depth).withoutExports places).statement false [] ctx s =
        some ((item', bs), s') ∧ Program.Localizes places (item, bs) (item', bs) := by
  obtain ⟨starts, hstarts⟩ := startsExportedLet_peeks places ctx s
  cases starts with
  | false => exact ⟨item, (plain_bind_of_eq hstarts).trans h, rfl, .inl rfl⟩
  | true =>
    obtain ⟨escaped, escaped', hexport, hlet, hmem⟩ := startsExportedLet_true hstarts
    cases depth with
    | zero => cases h
    | succ depth =>
      replace h := (anyStatement_export hexport []).symm.trans h
      rw [bind_of_eq (exportedKind_let hlet)] at h
      obtain ⟨_, _, hstatement, ⟨⟩⟩ := bind_eq_some.mp h
      obtain ⟨s₁, span, patterns, htake, hdeclaration, hdeclares, rfl⟩ :=
        exportStatement_variables hlet hstatement
      obtain ⟨htoken₁, hstart₁, -, -⟩ := takeKeyword_eq htake
      -- Behind the keyword the declaration is read by itself, from the state that the export had.
      refine ⟨.other, ?_, rfl, .inr ⟨rfl, span, _, patterns, rfl, ?_, rfl⟩⟩
      · refine (plain_bind_of_eq hstarts).trans ((plain_bind_of_eq htake).trans ?_)
        exact anyStatement_let (by rw [htoken₁]; exact hlet) hdeclares hdeclaration []
      · rw [(Place.spanTo_of_le (takeKeyword_proceeds hs htake).start_le).2, hstart₁]
        exact hmem

end

/-! ## Scripts -/

/-- A loop whose rounds are those of another one, up to a relation of their values. -/
lemma Parser.iterate_related {I : State text → Prop} {R : σ → σ' → Prop} {Q : α → β → Prop}
    {ctx : Context} {step : σ → Parser text (σ ⊕ α)} {step' : σ' → Parser text (σ' ⊕ β)}
    (hstep : ∀ ⦃acc acc' s r s'⦄, R acc acc' → I s → step acc ctx s = some (r, s') →
      I s' ∧ ∃ r', step' acc' ctx s = some (r', s') ∧ Sum.LiftRel R Q r r')
    {start : σ} {start' : σ'} {s s' : State text} {a : α} (hstart : R start start') (hs : I s)
    (h : iterate start step ctx s = some (a, s')) :
    ∃ b, iterate start' step' ctx s = some (b, s') ∧ Q a b := by
  obtain ⟨_, _, ⟨⟩, hloop⟩ := bind_eq_some.mp h
  clear h
  simp only [iterate, bind_of_eq context_eq]
  -- By induction on the rounds that are left; both loops have as many and stop in the same one.
  generalize ctx.limit = n at hloop ⊢
  induction n generalizing start start' s with
  | zero => cases hloop
  | succ n ih =>
    obtain ⟨r, s₁, hround, hloop⟩ := bind_eq_some.mp hloop
    obtain ⟨hs₁, r', hround', hrel⟩ := hstep hstart hs hround
    simp only [repeatFor, bind_of_eq hround']
    cases hrel with
    | inl hacc => exact ih hacc hs₁ hloop
    | inr hresult =>
      cases hloop
      exact ⟨_, rfl, hresult⟩

namespace Program

variable {places : List Nat}

/-- No statement exports more than it did. -/
lemma Localizes.exportedNames {read bare : Item text × List Binding}
    (h : Localizes places read bare) :
    bare.1.exportedNames.Sublist read.1.exportedNames := by
  rcases h.2 with hitem | ⟨hitem, -⟩
  · rw [hitem]
  · rw [hitem]
    exact List.nil_sublist _

/-- The names that are still exported keep their order. -/
lemma exportedNames_sublist {read locals : List (Item text × List Binding)}
    (h : List.Forall₂ (Localizes places) read locals) :
    ((locals.map Prod.fst).flatMap Item.exportedNames).Sublist
      ((read.map Prod.fst).flatMap Item.exportedNames) := by
  induction h with
  | nil => exact .slnil
  | cons hitem _ ih => exact hitem.exportedNames.append ih

/-- Statement by statement, both readings stand at the same place. -/
lemma boundStatements_withoutExports (places : List Nat) {depth : Nat} {ctx : Context}
    {s : State text} {read : List (Item text × List Binding)}
    (h : boundStatements (Declaring.Reader.upTo text depth) ctx (initial text) = some (read, s)) :
    ∃ locals, boundStatements ((Declaring.Reader.upTo text depth).withoutExports places) ctx
        (initial text) = some (locals, s) ∧ List.Forall₂ (Localizes places) read locals := by
  refine iterate_related (I := State.Ordered) (R := List.Forall₂ (Localizes places))
    (Q := List.Forall₂ (Localizes places)) (fun read locals s r s' hread hs hround => ?_) .nil
    (initial_ordered text) h
  obtain ⟨atEnd, hend, hround⟩ := (Peeks.bind .kind fun _ => .pure _).bind_eq_some.mp hround
  simp only [bind_of_eq (p := Parser.atEnd) hend]
  cases atEnd with
  | true =>
    cases hround
    exact ⟨hs, _, rfl, .inr (List.forall₂_reverse_iff.mpr hread)⟩
  | false =>
    obtain ⟨⟨item, bs⟩, s₁, hitem, ⟨⟩⟩ := bind_eq_some.mp hround
    obtain ⟨item', hitem', hlocal⟩ := statement_withoutExports places hs hitem
    refine ⟨?_, _, bind_of_eq hitem', .inl (.cons hlocal hread)⟩
    have hplain := (Declaring.Reader.upTo_forgets text depth).statement false [] ctx s
    rw [hitem] at hplain
    exact (Runner.statement_yields depth false hs hplain).ordered

/-- A script that is read is read without its exports by `let` at any places as well, and each
statement binds what it did. -/
theorem withoutExports_of_parse {typescript : Bool} {program : Program text} (places : List Nat)
    (h : parse typescript text = some program) :
    ∃ read locals, bound? typescript text = some read ∧ read.map (·.1) = program.items ∧
      withoutExports? typescript places text = some locals ∧
      List.Forall₂ (Localizes places) read locals := by
  unfold parse at h
  simp only [Option.bind_eq_bind, Option.bind_eq_some_iff] at h
  obtain ⟨⟨items, s⟩, hstatements, h⟩ := h
  rw [statements_maps (Declaring.Reader.upTo_forgets text _)] at hstatements
  obtain ⟨⟨read, s'⟩, hread, ⟨⟩⟩ := Option.map_eq_some_iff.mp hstatements
  obtain ⟨locals, hlocals, hlocalizes⟩ := boundStatements_withoutExports places hread
  simp only at h
  split_ifs at h with hrefused
  cases h
  refine ⟨read, locals, by rw [bound?, hread]; rfl, rfl, ?_, hlocalizes⟩
  simp only [withoutExports?, Option.bind_eq_bind, hlocals, Option.bind_some]
  -- Where names are exported once, fewer of them are too.
  refine if_neg fun hnew => hrefused ?_
  simp only [Bool.or_eq_true, Bool.not_eq_true', Bool.or_eq_false_iff] at hnew ⊢
  refine hnew.imp_right fun hnames => ⟨hnames.1, ?_⟩
  have hsublist := exportedNames_sublist hlocalizes
  refine Bool.eq_false_iff.mpr fun hdistinct => Bool.eq_false_iff.mp hnames.2 ?_
  exact distinct_iff.mpr ((distinct_iff.mp hdistinct).sublist hsublist)

end Program

end LiveBundle.Script
