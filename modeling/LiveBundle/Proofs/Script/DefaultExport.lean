import LiveBundle.Proofs.Quoted
import LiveBundle.Proofs.Script.Expressions
import LiveBundle.Proofs.Script.Ranges

/-!
# A script that exports a string

The string stands between the words in front and the semicolon. Quoted in the way of JSON it is one
token whatever its characters are, so the script is read to its end as one statement.

* `Reads.keyword_here_bind`: what stands behind a place that is asked for is known.
* `reads_exportStatement_string` follows the statement, `Program.parse_defaultString` is the script.
-/

namespace LiveBundle.Script

open LiveBundle.Script.Parser

variable {text : List Char}

/-- What stands behind a place tells how far it is from the start. -/
lemma Place.offset_of_rest (place : Place text) {front : List Char}
    (htext : text = front ++ place.rest) : place.offset = Text.byteSize front := by
  obtain ⟨before, hbefore, hsize⟩ := place.reached
  rw [← hsize, List.append_cancel_right (hbefore.symm.trans htext)]

/-- A parser goes on from where another one has ended. -/
lemma Parser.bind_of_some {α β : Type} {p : Parser text α} {f : α → Parser text β} {ctx : Context}
    {s s' : State text} {a : α} (h : p ctx s = some (a, s')) : (p >>= f) ctx s = f a ctx s' := by
  simp only [Bind.bind, h]

section

variable {β : Type} {ctx : Context} {u : View} {Q : β → Prop} {keyword : String} {token : Token}
  {rest after : List Char} {n length : Nat} {broken : Bool} {kind : TokenKind}

/-- What stands behind the place of the token behind a keyword is known. -/
lemma Reads.keyword_here_bind {f : Context → Place text → Parser text β}
    (hkeyword : token.kind = .word keyword false)
    (hblanks : Lexer.blanks .outside false 0 rest = some (n, broken))
    (htoken : Lexer.token (rest.drop n) = some (kind, length))
    (hafter : (rest.drop n).drop length = after)
    (h : ∀ place : Place text, place.rest = rest.drop n →
      Reads (f ctx place) ctx ⟨⟨kind, length, broken⟩, after⟩ Q u) :
    Reads (do
      takeKeyword
      let c ← context
      let place ← here
      f c place) ctx ⟨token, rest⟩ Q u := by
  subst hafter
  rintro s ⟨rfl, rfl, hflawed, hdefaults, hsites⟩
  let next : State text := { s with
    token := ⟨kind, length, broken⟩
    start := s.stop.skip n
    stop := (s.stop.skip n).skip length
    previous := s.stop }
  have htake : takeKeyword ctx s = some ((), next) := by
    simp only [takeKeyword, Bind.bind, Parser.kind, hkeyword]
    show advance ctx s = _
    rw [advance, tokenAt_eq hblanks htoken]
  obtain ⟨a, s', hrun, ha, hs'⟩ := h next.start rfl next ⟨rfl, rfl, hflawed, hdefaults, hsites⟩
  refine ⟨a, s', ?_, ha, hs'⟩
  simp only [Bind.bind, htake]
  exact hrun

end

section

variable {value : String} {length limit d : Nat} {ts : Bool}

set_option maxRecDepth 100000 in
/-- A string that is all of an expression. -/
lemma reads_string :
    Reads (Runner.upTo text (d + 12)).assignmentIn (Program.topLevel ts (limit + 2))
      ⟨⟨.string value, length, false⟩, [';']⟩ (· = .string value) ⟨⟨.punct ";", 1, false⟩, []⟩ := by
  refine Reads.of_eval fun _ _ _ _ => ?_
  cases ts <;> cbv

/-- A string that is exported as the default of a script. -/
lemma reads_exportDefault_string {s : String} (start : Place text) :
    Reads (exportDefault (Runner.upTo text (d + 12)) start) (Program.topLevel ts (limit + 2))
      ⟨⟨.word "default" false, 7, false⟩, ' ' :: ((Json.quote s).toList ++ [';'])⟩
      (fun item => ∃ inner : Place text, inner.rest = (Json.quote s).toList ++ [';'] ∧
        item = .exportDefaultExpression (start.spanTo inner))
      ⟨⟨.eof, 0, false⟩, []⟩ := by
  have hblanks : Lexer.blanks .outside false 0 (' ' :: ((Json.quote s).toList ++ [';'])) =
      some (1, false) := by
    rw [Json.quote, String.toList_ofList]
    rfl
  have hdrop : ((Json.quote s).toList ++ [';']).drop (Json.quote s).toList.length = [';'] :=
    List.drop_left
  unfold exportDefault
  refine Reads.keyword_here_bind rfl hblanks (Json.token_quote s [';']) hdrop
    fun inner hinner => ?_
  -- Classes and declarations with types are looked for first.
  refine Reads.peek_bind (a := false) (fun _ _ _ _ => rfl) ?_
  refine Reads.peek_bind (a := false) (fun _ _ _ _ => rfl) ?_
  refine Reads.peek_bind (a := false) (fun _ _ _ _ => rfl) ?_
  refine Reads.looksLike.bind fun _ _ => ?_
  rw [if_neg (by simp)]
  refine Reads.peek_bind (a := false) (fun _ _ _ _ => rfl) ?_
  refine Reads.looksLike.bind fun _ _ => ?_
  rw [if_neg (by simp)]
  refine Reads.peek_bind (a := false) (fun _ _ _ _ => rfl) ?_
  rw [if_neg (by simp)]
  refine Reads.bind_eq reads_string ?_
  have hend : Reads (advance : Parser text Unit) (Program.topLevel ts (limit + 2))
      ⟨⟨.punct ";", 1, false⟩, []⟩ (· = ()) ⟨⟨.eof, 0, false⟩, []⟩ :=
    Reads.of_eval fun _ _ _ _ => by cbv
  refine Reads.bind_eq (reads_statementEnd hend) ?_
  exact Reads.pure ⟨inner, hinner, rfl⟩

/-- The statement that exports a string as the default of a script. -/
lemma reads_exportStatement_string {s : String} (start : Place text) :
    Reads (exportStatement (Runner.upTo text (d + 12)) start) (Program.topLevel ts (limit + 2))
      ⟨⟨.word "export" false, 6, false⟩, " default ".toList ++ ((Json.quote s).toList ++ [';'])⟩
      (fun item => ∃ inner : Place text, inner.rest = (Json.quote s).toList ++ [';'] ∧
        item = .exportDefaultExpression (start.spanTo inner))
      ⟨⟨.eof, 0, false⟩, []⟩ := by
  unfold exportStatement
  refine Reads.bind_eq (a := ()) (w := ⟨⟨.word "default" false, 7, false⟩,
    ' ' :: ((Json.quote s).toList ++ [';'])⟩) ?_ ?_
  · generalize ((Json.quote s).toList ++ [';']) = rest
    exact Reads.of_eval fun _ _ _ _ => by cbv
  refine Reads.context_bind (Reads.atWord_bind ?_)
  show Reads (if true = true then _ else _) _ _ _ _
  rw [if_pos rfl]
  exact reads_exportDefault_string start

end

/-- A script that does nothing but export a string has this one statement, whose head are the words
in front of the string. -/
lemma Program.parse_defaultString (typescript : Bool) {s : String}
    (htext : text = "export default ".toList ++ ((Json.quote s).toList ++ [';'])) :
    ∃ head : Span text, head.start = 0 ∧ head.stop = 15 ∧
      Program.parse typescript text = some ⟨[.exportDefaultExpression head], []⟩ := by
  -- The length bounds the depth and the rounds of all loops; it only has to be large enough.
  have hdepth : depthPerCharacter * (text.length + 2) = 8 * text.length + 3 + 12 + 1 := by
    rw [depthPerCharacter]
    omega
  have hstart : (initial text).Stands ⟨⟨.word "export" false, 6, false⟩,
      " default ".toList ++ ((Json.quote s).toList ++ [';'])⟩ := stands_word (by decide) htext
  obtain ⟨item, s', hrun, ⟨inner, hinner, rfl⟩, hend⟩ :=
    @reads_exportStatement_string text text.length (8 * text.length + 3) typescript s
      (initial text).start (initial text) hstart
  have hfirst : (initial text).start.offset = 0 := by
    subst htext
    rfl
  have hinner : inner.offset = 15 := by
    rw [← hinner] at htext
    rw [inner.offset_of_rest htext]
    decide +kernel
  obtain ⟨hheadStart, hheadStop⟩ :=
    Place.spanTo_of_le (a := (initial text).start) (b := inner) (by omega)
  refine ⟨(initial text).start.spanTo inner, hheadStart.trans hfirst, hheadStop.trans hinner, ?_⟩
  have hitem : Runner.upTo text (8 * text.length + 3 + 12 + 1) (.statement false)
      (topLevel typescript (text.length + 2)) (initial text) =
      some (Item.exportDefaultExpression ((initial text).start.spanTo inner), s') := by
    show anyStatement _ false _ _ = _
    simp only [anyStatement, Bind.bind, kind, here, hstart.token]
    exact hrun
  have hlast : Reads (repeatFor (round (Runner.upTo text (8 * text.length + 3 + 12 + 1)))
      (text.length + 1) [.exportDefaultExpression ((initial text).start.spanTo inner)])
      (topLevel typescript (text.length + 2)) ⟨⟨.eof, 0, false⟩, []⟩
      (· = [.exportDefaultExpression ((initial text).start.spanTo inner)])
      ⟨⟨.eof, 0, false⟩, []⟩ := reads_end rfl
  obtain ⟨items, s'', hrest, rfl, hfinal⟩ := hlast s' hend
  have hitems : statements (Runner.upTo text (depthPerCharacter * (text.length + 2)))
      (topLevel typescript (text.length + 2)) (initial text) =
      some ([.exportDefaultExpression ((initial text).start.spanTo inner)], s'') := by
    have hround : round (Runner.upTo text (8 * text.length + 3 + 12 + 1)) []
        (topLevel typescript (text.length + 2)) (initial text) =
        some (.inl [.exportDefaultExpression ((initial text).start.spanTo inner)], s') := by
      have hgoes : atEnd (topLevel typescript (text.length + 2)) (initial text) =
          some (false, initial text) := by
        simp only [atEnd, Bind.bind, kind, hstart.token]
        rfl
      rw [round, bind_of_some hgoes, if_neg Bool.false_ne_true]
      exact bind_of_some hitem
    rw [hdepth, statements_eq]
    exact (bind_of_some hround).trans hrest
  unfold parse
  simp [hitems, hfinal.flawed, hfinal.defaults, hfinal.sites, Item.exportedNames, distinct]

end LiveBundle.Script
