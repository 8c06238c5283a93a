import LiveBundle.Proofs.Chain
import LiveBundle.Proofs.RegistryRuns
import LiveBundle.Proofs.Script.Expressions
import LiveBundle.Proofs.Script.Literals
import LiveBundle.Proofs.Script.Strings

/-!
# The module behind the facade

The facade stands for a module with a line for each component that may be exported by its name. A
line names a component by the text between two quotes, where the path is written as it is: whether
the module can be read back depends on the characters of the paths.

* `leads_statement` reads a line up to that text, `reads_fromPart` and `fromPart_string` from there
  on, if the path stands for itself and whatever it is.
* `reads_lines` and `literal_of_lines` are runs over all lines; `parse_lines_iff` is the script.
* `mem_indexed_iff`: which components have a line.
* `index_exports_iff` puts these together with what the chain of a pass makes of the ids.
-/

namespace LiveBundle

open Script (Program Item)

set_option maxRecDepth 100000

namespace LibraryFile

open LiveBundle.Script LiveBundle.Script.Parser

variable {text : List Char} {d : Nat} {ctx : Context}

/-- What stands in a line between its first word and the name. -/
def openText : List Char := " \x7b default as".toList

/-- What stands in a line between the name and the text that names the module. -/
def closeText : List Char := " \x7d from".toList

/-- A line from behind its first word on, up to other text. -/
def lineRest (e : FileEntry) (rest : List Char) : List Char :=
  openText ++ ' ' :: (e.name.toList ++ (closeText ++
    ' ' :: ('\'' :: (Specifier.fileId e.path).toList ++ '\'' :: ';' :: '\n' :: rest)))

/-- The lines for some entries. -/
def lines : List FileEntry → List Char
  | [] => []
  | e :: es => "export".toList ++ lineRest e (lines es)

/-- The part of a statement from `from` on. -/
def fromPart (start : Place text) (name : String) : Parser text (Item text) := do
  let specifier ← fromClause
  let span ← spanFrom start
  pure (.exportFrom span specifier [⟨"default", name, false⟩])

section

variable {name : String} {after : List Char}

/-- The name in the braces of a line. -/
lemma reads_name (hname : Specifier.isIdentifier name = true) :
    Reads (bracedName : Parser text BracedName) ctx
      ⟨⟨.word "default" false, 7, false⟩,
        " as".toList ++ ' ' :: (name.toList ++ (closeText ++ ' ' :: after))⟩
      (· = ⟨"default", some name, false, true, true⟩)
      ⟨⟨.punct "\x7d", 1, false⟩, closeText.drop 2 ++ ' ' :: after⟩ := by
  have hfront (more : List Char) : Reads (moduleName : Parser text String) ctx
      ⟨⟨.word "default" false, 7, false⟩, " as".toList ++ ' ' :: more⟩ (· = "default")
      ⟨⟨.word "as" false, 2, false⟩, ' ' :: more⟩ :=
    Reads.of_eval fun _ _ _ _ => by cbv
  have hadvance : Reads (advance : Parser text Unit) ctx
      ⟨⟨.word "as" false, 2, false⟩, ' ' :: (name.toList ++ (closeText ++ ' ' :: after))⟩ (· = ())
      ⟨⟨.word name false, name.toList.length, false⟩, closeText ++ ' ' :: after⟩ := by
    refine reads_advance (Lexer.blanks_identifier hname _) ?_ ?_
    · exact Lexer.token_identifier hname (by decide) (by decide) _
    · simp
  have hback (length : Nat) : Reads (moduleName : Parser text String) ctx
      ⟨⟨.word name false, length, false⟩, closeText ++ ' ' :: after⟩ (· = name)
      ⟨⟨.punct "\x7d", 1, false⟩, closeText.drop 2 ++ ' ' :: after⟩ :=
    Reads.of_eval fun _ _ _ _ => by cbv
  have htype : (ctx.typescript && TokenKind.isWord "type" (.word "default" false)) = false :=
    Bool.and_false _
  unfold bracedName
  refine Reads.peek_bind (a := true) (fun _ _ _ _ => rfl) ?_
  refine Reads.context_bind (Reads.atWord_bind ?_)
  rw [htype]
  refine Reads.bind_eq (hfront _) (Reads.atWord_bind ?_)
  rw [Bool.false_and, if_neg Bool.false_ne_true]
  refine Reads.peek_bind (a := true) (fun _ _ _ _ => rfl) ?_
  rw [Bool.false_and, if_neg Bool.false_ne_true]
  unfold bracedName.withAlias
  refine Reads.bind_eq (Reads.eatWord rfl hadvance) ?_
  rw [if_pos rfl]
  refine Reads.peek_bind (a := true) (fun _ _ _ _ => rfl) ?_
  exact Reads.bind_eq (hback _) (Reads.pure rfl)

/-- The names in the braces of a line. -/
lemma reads_names (hlimit : 0 < ctx.limit) (hname : Specifier.isIdentifier name = true) :
    Reads (commaList "\x7d" bracedName : Parser text (List BracedName × Bool)) ctx
      ⟨⟨.word "default" false, 7, false⟩,
        " as".toList ++ ' ' :: (name.toList ++ (closeText ++ ' ' :: after))⟩
      (· = ([⟨"default", some name, false, true, true⟩], false))
      ⟨⟨.punct "\x7d", 1, false⟩, closeText.drop 2 ++ ' ' :: after⟩ := by
  refine Reads.context_bind ?_
  obtain ⟨k, hk⟩ := Nat.exists_eq_add_of_lt hlimit
  rw [hk]
  refine Reads.repeat_last (Reads.peek_bind (a := false) (fun _ _ _ _ => rfl) ?_)
  rw [if_neg Bool.false_ne_true]
  refine Reads.bind_eq (reads_name hname) (Reads.eatPunct_bind rfl ?_)
  rw [if_neg Bool.false_ne_true]
  refine Reads.atPunct_bind (Reads.bind_eq (a := ()) (Reads.pure rfl) ?_)
  exact Reads.pure ⟨_, rfl, rfl⟩

/-- A line up to the text that names the module. -/
lemma leads_statement {broken : Bool} (hlimit : 0 < ctx.limit)
    (hname : Specifier.isIdentifier name = true) :
    Leads (Runner.upTo text (d + 1) (.statement false)) ctx
      ⟨⟨.word "export" false, 6, broken⟩,
        openText ++ ' ' :: (name.toList ++ (closeText ++ ' ' :: after))⟩
      (fun q => ∃ start, q = fromPart start name)
      ⟨⟨.word "from" false, 4, false⟩, ' ' :: after⟩ := by
  have hkeyword (more : List Char) : Reads (takeKeyword : Parser text Unit) ctx
      ⟨⟨.word "export" false, 6, broken⟩, openText ++ ' ' :: more⟩ (· = ())
      ⟨⟨.punct "\x7b", 1, false⟩, openText.drop 2 ++ ' ' :: more⟩ :=
    Reads.of_eval fun _ _ _ _ => by cbv
  have hopen (more : List Char) : Reads (expectPunct "\x7b" : Parser text Unit) ctx
      ⟨⟨.punct "\x7b", 1, false⟩, openText.drop 2 ++ ' ' :: more⟩ (· = ())
      ⟨⟨.word "default" false, 7, false⟩, " as".toList ++ ' ' :: more⟩ :=
    Reads.of_eval fun _ _ _ _ => by cbv
  have hclose : Reads (expectPunct "\x7d" : Parser text Unit) ctx
      ⟨⟨.punct "\x7d", 1, false⟩, closeText.drop 2 ++ ' ' :: after⟩ (· = ())
      ⟨⟨.word "from" false, 4, false⟩, ' ' :: after⟩ :=
    Reads.of_eval fun _ _ _ _ => by cbv
  show Leads (anyStatement (Runner.upTo text d) false) _ _ _ _
  unfold anyStatement
  refine Leads.kind_bind ?_
  show Leads (if "export" = "export" then _ else _) _ _ _ _
  rw [if_pos rfl]
  refine Leads.here_bind fun start => ?_
  unfold exportStatement
  refine Leads.bind_eq (hkeyword _) ?_
  refine Leads.peek_bind (b := ctx) (fun _ _ _ _ => rfl) ?_
  refine Leads.peek_bind (b := false) (fun _ _ _ _ => rfl) ?_
  rw [if_neg Bool.false_ne_true]
  refine Leads.peek_bind (b := false) (fun _ _ _ _ => rfl) ?_
  rw [if_neg Bool.false_ne_true]
  refine Leads.peek_bind (b := true) (fun _ _ _ _ => rfl) ?_
  rw [if_pos rfl]
  unfold exportNames
  refine Leads.bind_eq (hopen _) (Leads.bind_eq (reads_names hlimit hname) ?_)
  refine Leads.bind_eq hclose (Leads.peek_bind (b := true) (fun _ _ _ _ => rfl) ?_)
  exact Leads.here ⟨start, rfl⟩

/-- The text that names the module, in its quotes, and the end of the line. -/
lemma reads_fromPart {cs rest : List Char} {w : View} (hcs : Lexer.Literal cs)
    (hend : Reads (advance : Parser text Unit) ctx ⟨⟨.punct ";", 1, false⟩, '\n' :: rest⟩
      (· = ()) w)
    (start : Place text) :
    Reads (fromPart start name) ctx
      ⟨⟨.word "from" false, 4, false⟩, ' ' :: ('\'' :: cs ++ '\'' :: ';' :: '\n' :: rest)⟩
      (fun item => ∃ span, item = .exportFrom span (String.ofList cs) [⟨"default", name, false⟩])
      w := by
  have hadvance : Reads (advance : Parser text Unit) ctx
      ⟨⟨.word "from" false, 4, false⟩, ' ' :: ('\'' :: cs ++ '\'' :: ';' :: '\n' :: rest)⟩ (· = ())
      ⟨⟨.string (String.ofList cs), cs.length + 2, false⟩, ';' :: '\n' :: rest⟩ := by
    refine reads_advance (n := 1) rfl (Lexer.token_string hcs _) ?_
    simp
  have hliteral (value : String) (length : Nat) : Reads (stringLiteral : Parser text String) ctx
      ⟨⟨.string value, length, false⟩, ';' :: '\n' :: rest⟩ (· = value)
      ⟨⟨.punct ";", 1, false⟩, '\n' :: rest⟩ :=
    Reads.of_eval fun _ _ _ _ => by cbv
  have hclause : Reads (fromClause : Parser text String) ctx
      ⟨⟨.word "from" false, 4, false⟩, ' ' :: ('\'' :: cs ++ '\'' :: ';' :: '\n' :: rest)⟩
      (· = String.ofList cs) w := by
    refine Reads.bind_eq (Reads.expectWord rfl hadvance) (Reads.bind_eq (hliteral _ _) ?_)
    refine Reads.peek_bind (a := ()) (fun _ _ _ _ => rfl) ?_
    exact Reads.bind_eq (reads_statementEnd hend) (Reads.pure rfl)
  intro s hs
  obtain ⟨_, s', hrun, rfl, hs'⟩ := hclause s hs
  refine ⟨_, s', ?_, ⟨start.spanTo s'.previous, rfl⟩, hs'⟩
  unfold fromPart
  simp only [Bind.bind, hrun]
  rfl

lemma stringLiteral_kind {value : String} {s s' : State text}
    (h : stringLiteral ctx s = some (value, s')) : s.token.kind = .string value := by
  obtain ⟨kind, s₁, hkind, hrest⟩ := bind_eq_some.mp h
  simp only [Parser.kind, Option.some.injEq, Prod.mk.injEq] at hkind
  split at hrest
  · obtain ⟨_, _, -, ⟨⟩⟩ := bind_eq_some.mp hrest
    exact hkind.1
  · cases hrest

/-- Whatever is read as a module's text is a string behind `from`. -/
lemma fromPart_string {rest : List Char} {s s' : State text} {item : Item text} {start : Place text}
    (hs : s.Stands ⟨⟨.word "from" false, 4, false⟩, ' ' :: '\'' :: rest⟩)
    (hrun : fromPart start name ctx s = some (item, s')) :
    ∃ specifier span n, Lexer.token ('\'' :: rest) = some (.string specifier, n) ∧
      item = .exportFrom span specifier [⟨"default", name, false⟩] := by
  obtain ⟨specifier, s₁, hclause, hspan⟩ := bind_eq_some.mp hrun
  cases hspan
  obtain ⟨_, s₂, hfrom, hrest⟩ := bind_eq_some.mp hclause
  obtain ⟨value, s₃, hvalue, hrest⟩ := bind_eq_some.mp hrest
  have hgives : Parser.Gives (· = value) (do
      attributes
      statementEnd
      pure value : Parser text String) :=
    .bind fun _ => .bind fun _ => .pure rfl
  cases hgives hrest
  have hkind : s₂.token.kind = .string specifier := stringLiteral_kind hvalue
  -- The keyword is taken whatever stands behind it.
  have htaken {w : View} (hadvance : Reads (advance : Parser text Unit) ctx
      ⟨⟨.word "from" false, 4, false⟩, ' ' :: '\'' :: rest⟩ (· = ()) w) :
      s₂.token = w.token := by
    obtain ⟨_, s₂', hrun', -, hs₂⟩ := Reads.expectWord rfl hadvance s hs
    rw [hfrom] at hrun'
    cases hrun'
    exact hs₂.token
  cases htoken : Lexer.token ('\'' :: rest) with
  | none =>
    have hbad := htaken (reads_advance_bad (n := 1) rfl htoken)
    rw [hbad] at hkind
    cases hkind
  | some taken =>
    obtain ⟨kind, n⟩ := taken
    have hread := htaken (reads_advance (n := 1) rfl htoken rfl)
    rw [hread] at hkind
    exact ⟨specifier, start.spanTo s'.previous, n, by rw [← hkind], rfl⟩

end

/-! ## The lines -/

/-- Where reading stands in front of the lines for some entries. -/
def linesView (broken : Bool) : List FileEntry → View
  | [] => ⟨⟨.eof, 0, broken⟩, []⟩
  | e :: es => ⟨⟨.word "export" false, 6, broken⟩, lineRest e (lines es)⟩

/-- What an entry becomes in the index. -/
def Reexports (e : FileEntry) (item : Item text) : Prop :=
  ∃ span, item = .exportFrom span (Specifier.fileId e.path) [⟨"default", e.name, false⟩]

lemma reads_lineEnd (es : List FileEntry) :
    Reads (advance : Parser text Unit) ctx ⟨⟨.punct ";", 1, false⟩, '\n' :: lines es⟩ (· = ())
      (linesView true es) := by
  cases es with
  | nil => exact reads_advance (n := 1) rfl rfl rfl
  | cons e es =>
    have hblanks (more : List Char) : Lexer.blanks .outside false 0
        ('\n' :: ("export".toList ++ (openText ++ more))) = some (1, true) := by cbv
    have htoken (more : List Char) : Lexer.token ("export".toList ++ (openText ++ more)) =
        some (.word "export" false, 6) := by cbv
    exact reads_advance (n := 1) (hblanks _) (htoken _) (List.drop_left' (by simp))

lemma stands_lines (es : List FileEntry) :
    (Program.initial (lines es)).Stands (linesView false es) := by
  cases es with
  | nil => exact stands_initial (n := 0) rfl rfl rfl
  | cons e es =>
    have hnext (more : List Char) :
        (Program.initial ("export".toList ++ (openText ++ more))).Stands
          ⟨⟨.word "export" false, 6, false⟩, openText ++ more⟩ := stands_word (by decide) rfl
    exact hnext _

variable {e : FileEntry} {es : List FileEntry} {broken : Bool} {n : Nat}

/-- A line for an entry is read as one statement. -/
lemma reads_line (hlimit : 0 < ctx.limit) (hname : Specifier.isIdentifier e.name = true)
    (hpath : Lexer.Literal (Specifier.fileId e.path).toList) :
    Reads (Runner.upTo text (d + 1) (.statement false)) ctx (linesView broken (e :: es))
      (Reexports e) (linesView true es) := by
  refine (leads_statement hlimit hname).reads ?_
  rintro _ ⟨start, rfl⟩
  refine (reads_fromPart hpath (reads_lineEnd es) start).mono ?_
  rintro item ⟨span, rfl⟩
  exact ⟨span, by rw [String.ofList_toList]⟩

/-- Only a path that stands for itself is read as the path. -/
lemma literal_of_line {s s' : State text} {item : Item text} (hlimit : 0 < ctx.limit)
    (hname : Specifier.isIdentifier e.name = true) (hs : s.Stands (linesView broken (e :: es)))
    (hrun : Runner.upTo text (d + 1) (.statement false) ctx s = some (item, s'))
    (hitem : Reexports e item) : Lexer.Literal (Specifier.fileId e.path).toList := by
  obtain ⟨_, s₁, ⟨start, rfl⟩, hs₁, heq⟩ := leads_statement hlimit hname s hs
  rw [hrun] at heq
  obtain ⟨specifier, span, n, htoken, rfl⟩ := fromPart_string hs₁ heq.symm
  obtain ⟨span', hitem⟩ := hitem
  cases hitem
  have hquoted : ∃ n, Lexer.token
      ('\'' :: (Specifier.fileId e.path).toList ++ '\'' :: ';' :: '\n' :: lines es) =
        some (.string (String.ofList (Specifier.fileId e.path).toList), n) := by
    rw [String.ofList_toList]
    exact ⟨n, htoken⟩
  exact Lexer.token_string_iff.mp hquoted

/-- Lines for entries are read as one statement for each of them. -/
lemma reads_lines {items : List (Item text)} (hlimit : 0 < ctx.limit)
    (hnames : ∀ e ∈ es, Specifier.isIdentifier e.name = true)
    (hpaths : ∀ e ∈ es, Lexer.Literal (Specifier.fileId e.path).toList) (hn : es.length < n) :
    Reads (repeatFor (Program.round (Runner.upTo text (d + 1))) n items) ctx (linesView broken es)
      (fun all => ∃ more, all = items.reverse ++ more ∧ List.Forall₂ Reexports es more)
      (linesView (broken || !es.isEmpty) []) := by
  induction es generalizing n items broken with
  | nil =>
    obtain ⟨k, rfl⟩ := Nat.exists_eq_add_of_lt hn
    rw [List.isEmpty_nil, Bool.not_true, Bool.or_false]
    refine (reads_end rfl).mono ?_
    rintro _ rfl
    exact ⟨[], (List.append_nil _).symm, .nil⟩
  | cons e es ih =>
    obtain ⟨k, rfl⟩ := Nat.exists_eq_add_of_lt (Nat.zero_lt_of_lt hn)
    obtain ⟨hname, hnames⟩ := List.forall_mem_cons.mp hnames
    obtain ⟨hpath, hpaths⟩ := List.forall_mem_cons.mp hpaths
    rw [List.isEmpty_cons, Bool.not_false, Bool.or_true]
    refine reads_item (by simp [linesView]) (reads_line hlimit hname hpath) fun item hitem => ?_
    rw [List.length_cons] at hn
    refine (ih hnames hpaths (by omega)).mono ?_
    rintro _ ⟨more, rfl, hmore⟩
    exact ⟨item :: more, by simp, .cons hitem hmore⟩

/-- A loop of statements keeps those that it has. -/
lemma round_gives (run : Runner text) (n : Nat) (items : List (Item text)) :
    (repeatFor (Program.round run) n items).Gives
      fun all => ∃ more, all = items.reverse ++ more := by
  induction n generalizing items with
  | zero => exact .fail
  | succ n ih =>
    have hround : (Program.round run items).Gives fun x =>
        x = .inr items.reverse ∨ ∃ item, x = .inl (item :: items) := by
      refine .bind fun there => ?_
      split
      · exact .pure (.inl rfl)
      · exact .bind fun item => .pure (.inr ⟨item, rfl⟩)
    refine .bind_of hround ?_
    rintro _ (rfl | ⟨item, rfl⟩)
    · exact .pure ⟨[], (List.append_nil _).symm⟩
    · intro ctx s all s' hrun
      obtain ⟨more, rfl⟩ := ih _ hrun
      exact ⟨item :: more, by simp⟩

/-- Lines that are read as one statement for each entry have paths that stand for themselves. -/
lemma literal_of_lines {s s' : State text} {items more all : List (Item text)}
    (hlimit : 0 < ctx.limit) (hnames : ∀ e ∈ es, Specifier.isIdentifier e.name = true)
    (hs : s.Stands (linesView broken es))
    (hrun : repeatFor (Program.round (Runner.upTo text (d + 1))) n items ctx s = some (all, s'))
    (hall : all = items.reverse ++ more) (hmore : List.Forall₂ Reexports es more) :
    ∀ e ∈ es, Lexer.Literal (Specifier.fileId e.path).toList := by
  induction hmore generalizing n items broken s with
  | nil => exact nofun
  | @cons e item es more hitem hmore ih =>
    obtain ⟨hname, hnames⟩ := List.forall_mem_cons.mp hnames
    cases n with
    | zero => cases hrun
    | succ n =>
      obtain ⟨x, s₁, hround, hrest⟩ := bind_eq_some.mp hrun
      have hthere : atEnd ctx s = some (false, s) := by
        have hend : atEnd ctx s = some (s.token.kind == .eof, s) := rfl
        rw [hend, hs.token]
        rfl
      obtain ⟨_, _, hrun₁, hround⟩ := bind_eq_some.mp hround
      rw [hthere] at hrun₁
      cases hrun₁
      rw [if_neg Bool.false_ne_true] at hround
      obtain ⟨(item' : Item text), s₂, hstatement, ⟨⟩⟩ := bind_eq_some.mp hround
      -- The statement that was read is the one for the entry.
      obtain ⟨more', hmore'⟩ := round_gives _ _ _ hrest
      rw [hall, List.reverse_cons, List.append_assoc, List.singleton_append,
        List.append_cancel_left_eq] at hmore'
      cases hmore'
      have hpath := literal_of_line hlimit hname hs hstatement hitem
      obtain ⟨_, _, hread, -, hs₁⟩ := reads_line hlimit hname hpath s hs
      rw [hstatement] at hread
      cases hread
      exact List.forall_mem_cons.mpr ⟨hpath, ih hnames hs₁ hrest (by simp [hall])⟩

/-! ## The script -/

lemma literal_fileId {path : String} :
    Lexer.Literal (Specifier.fileId path).toList ↔ Lexer.Literal path.toList := by
  have hprefix : Lexer.Literal Specifier.filePrefix.toList := by
    unfold Specifier.filePrefix
    simp [Lexer.Literal]
  rw [Specifier.fileId, String.toList_append, Lexer.Literal, List.forall_mem_append]
  exact and_iff_right hprefix

lemma length_le_lines (es : List FileEntry) : es.length ≤ (lines es).length := by
  induction es with
  | nil => exact Nat.le_refl 0
  | cons e es ih =>
    have hrest : (lines es).length < (lineRest e (lines es)).length := by
      simp only [lineRest, List.length_append, List.length_cons]
      omega
    have hline : (lines (e :: es)).length =
        "export".toList.length + (lineRest e (lines es)).length := List.length_append
    rw [hline, List.length_cons]
    omega

lemma exportedNames_of_reexports {items : List (Item text)} (h : List.Forall₂ Reexports es items) :
    items.flatMap Item.exportedNames = es.map (·.name) := by
  induction h with
  | nil => rfl
  | cons hitem _ ih =>
    obtain ⟨span, rfl⟩ := hitem
    rw [List.flatMap_cons, ih]
    rfl

/-- The lines for entries of different names are a script of one statement for each of them if and
only if all paths stand for themselves. -/
theorem parse_lines_iff (typescript : Bool)
    (hnames : ∀ e ∈ es, Specifier.isIdentifier e.name = true)
    (hnodup : (es.map (·.name)).Nodup) :
    (∃ program, Program.parse typescript (lines es) = some program ∧ program.sites = [] ∧
        List.Forall₂ Reexports es program.items) ↔ ∀ e ∈ es, Lexer.Literal e.path.toList := by
  have hdepth : Program.depthPerCharacter * ((lines es).length + 2) =
      (8 * (lines es).length + 15) + 1 := by
    rw [Program.depthPerCharacter]
    omega
  have hlength : es.length < (lines es).length + 2 :=
    Nat.lt_of_le_of_lt (length_le_lines es) (by omega)
  constructor
  · rintro ⟨program, hparse, -, hitems⟩ e he
    unfold Program.parse at hparse
    simp only [Option.bind_eq_bind, Option.bind_eq_some_iff] at hparse
    obtain ⟨⟨items, s⟩, hrun, hrest⟩ := hparse
    split at hrest
    · cases hrest
    cases hrest
    rw [hdepth] at hrun
    exact literal_fileId.mp
      (literal_of_lines (Nat.succ_pos _) hnames (stands_lines es) hrun rfl hitems e he)
  · intro hpaths
    have hread : Reads (Program.statements (Runner.upTo (lines es)
        (Program.depthPerCharacter * ((lines es).length + 2))))
        (Program.topLevel typescript ((lines es).length + 2)) (linesView false es)
        (List.Forall₂ Reexports es) (linesView (false || !es.isEmpty) []) := by
      rw [hdepth]
      refine Reads.context_bind ((reads_lines (Nat.succ_pos _) hnames
        (fun e he => literal_fileId.mpr (hpaths e he)) hlength).mono ?_)
      rintro _ ⟨more, rfl, hmore⟩
      exact hmore
    obtain ⟨items, hitems, hparse⟩ := Program.parse_of_reads (stands_lines es) hread
      fun items hitems => Program.distinct_iff.mpr (by rwa [exportedNames_of_reexports hitems])
    exact ⟨_, hparse, rfl, hitems⟩

/-! ## The entries -/

lemma toList_indexLine (e : FileEntry) (rest : List Char) :
    (indexLine e).toList ++ rest = "export".toList ++ lineRest e rest := by
  unfold indexLine lineRest openText closeText
  simp only [String.toList_append, String.reduceToList, List.cons_append, List.nil_append,
    List.append_assoc]

/-- The module consists of the lines for the entries. -/
lemma toList_index (registry : Registry) :
    (index registry).toList = lines (indexed registry.components) := by
  have hfold (es : List FileEntry) (start : String) :
      ((es.map indexLine).foldl (· ++ ·) start).toList = start.toList ++ lines es := by
    induction es generalizing start with
    | nil => exact (List.append_nil _).symm
    | cons e es ih =>
      rw [List.map_cons, List.foldl_cons, ih, String.toList_append, List.append_assoc,
        toList_indexLine]
      rfl
  exact hfold _ ""

/-- An entry may be exported by its name. -/
def IsExported (e : FileEntry) : Prop :=
  Specifier.isIdentifier e.name = true ∧ Text.hasPrefix "__" e.name = false

/-- One more component is put behind the others, if it may be exported and its name is new. -/
lemma indexed_append (components : List FileEntry) (a : FileEntry) :
    (IsExported a ∧ ∀ e ∈ indexed components, e.name ≠ a.name) ∧
        indexed (components ++ [a]) = indexed components ++ [a] ∨
      ¬(IsExported a ∧ ∀ e ∈ indexed components, e.name ≠ a.name) ∧
        indexed (components ++ [a]) = indexed components := by
  have hstep : indexed (components ++ [a]) =
      if Text.hasPrefix "__" a.name || !Specifier.isIdentifier a.name ||
        (indexed components).any (·.name == a.name) then indexed components
      else indexed components ++ [a] := by
    rw [indexed, List.foldl_append]
    rfl
  have hskip : (Text.hasPrefix "__" a.name || !Specifier.isIdentifier a.name ||
        (indexed components).any (·.name == a.name)) = false ↔
      IsExported a ∧ ∀ e ∈ indexed components, e.name ≠ a.name := by
    simp [IsExported, and_comm]
  rw [← hskip, hstep]
  split
  · rename_i h
    exact .inr ⟨by rw [h]; simp, rfl⟩
  · rename_i h
    exact .inl ⟨by simpa using h, rfl⟩

lemma find?_of_name {components : List FileEntry} {a e : FileEntry} :
    (components ++ [a]).find? (·.name == e.name) =
      (components.find? (·.name == e.name)).or (if a.name = e.name then some a else none) := by
  rw [List.find?_append, List.find?_singleton]
  simp

/-- The entries of the index are those that may be exported and are the first ones of their
names. -/
lemma mem_indexed_iff {components : List FileEntry} {e : FileEntry} :
    e ∈ indexed components ↔ IsExported e ∧ components.find? (·.name == e.name) = some e := by
  induction components using List.reverseRecOn generalizing e with
  | nil => exact iff_of_false List.not_mem_nil fun h => nomatch h.2
  | append_singleton components a ih =>
    rw [find?_of_name]
    by_cases hname : a.name = e.name
    · rw [if_pos hname]
      rcases indexed_append components a with ⟨⟨hexported, hnew⟩, heq⟩ | ⟨hold, heq⟩
      · have hnone : components.find? (·.name == e.name) = none := by
          refine Option.eq_none_iff_forall_ne_some.mpr fun x hx => ?_
          have hxname : x.name = e.name := by simpa using List.find?_some hx
          have hxexported : IsExported x := by
            rw [IsExported, hxname, ← hname]
            exact hexported
          exact hnew x (ih.mpr ⟨hxexported, by rw [hxname, hx]⟩) (hxname.trans hname.symm)
        rw [heq, List.mem_append, List.mem_singleton, ih, hnone, Option.none_or, Option.some.injEq]
        refine ⟨?_, fun h => .inr h.2.symm⟩
        rintro (⟨-, h⟩ | rfl)
        · cases h
        · exact ⟨hexported, rfl⟩
      · rw [heq, ih]
        refine and_congr_right fun hexported => ?_
        rw [IsExported, ← hname] at hexported
        obtain ⟨x, hx, hxname⟩ : ∃ x ∈ indexed components, x.name = a.name := by
          by_contra hnew
          exact hold ⟨hexported, fun x hx h => hnew ⟨x, hx, h⟩⟩
        have hfirst := (ih.mp hx).2
        rw [hxname, hname] at hfirst
        rw [hfirst, Option.some_or]
    · rw [if_neg hname, Option.or_none, ← ih]
      have hne : e ≠ a := fun h => hname (by rw [h])
      rcases indexed_append components a with ⟨-, heq⟩ | ⟨-, heq⟩
      · rw [heq, List.mem_append, List.mem_singleton, or_iff_left hne]
      · rw [heq]

/-- Each name that may be exported is one of an entry of the index. -/
lemma exists_mem_indexed {components : List FileEntry} {e : FileEntry} (he : e ∈ components)
    (hexported : IsExported e) : ∃ x ∈ indexed components, x.name = e.name := by
  cases hfirst : components.find? (·.name == e.name) with
  | none => exact absurd (beq_self_eq_true e.name) (List.find?_eq_none.mp hfirst e he)
  | some x =>
    have hname : x.name = e.name := by simpa using List.find?_some hfirst
    refine ⟨x, mem_indexed_iff.mpr ⟨?_, by rw [hname, hfirst]⟩, hname⟩
    rw [IsExported, hname]
    exact hexported

lemma nodup_indexed (components : List FileEntry) : ((indexed components).map (·.name)).Nodup := by
  induction components using List.reverseRecOn with
  | nil => exact .nil
  | append_singleton components a ih =>
    rcases indexed_append components a with ⟨⟨-, hnew⟩, heq⟩ | ⟨-, heq⟩
    · rw [heq, List.map_append, List.map_singleton, List.nodup_append]
      refine ⟨ih, List.nodup_singleton _, fun name hname other hother => ?_⟩
      obtain ⟨e, he, rfl⟩ := List.mem_map.mp hname
      rw [List.mem_singleton.mp hother]
      exact hnew e he
    · rw [heq]
      exact ih

end LibraryFile

open LibraryFile (Reexports)

variable {registry : Registry}

/-- Where the keys are the paths of the entries, components come in the order of their paths. -/
lemma Registry.pairwise_components (h : ∀ path e, registry.get? path = some e → e.path = path) :
    registry.components.Pairwise fun a b => a.path < b.path := by
  have hpath : ∀ x ∈ registry.files.entries, x.2.path = x.1 := fun x hx =>
    h x.1 x.2 (lookup_of_mem registry.files.ascending hx)
  refine List.Pairwise.filter _ (List.pairwise_map.mpr ?_)
  refine registry.files.ascending.imp_of_mem fun {a b} ha hb hlt => ?_
  rw [hpath a ha, hpath b hb]
  exact hlt

/-- Each component is found under its path. -/
lemma Registry.find?_component (h : ∀ path e, registry.get? path = some e → e.path = path)
    {e : FileEntry} (he : e ∈ registry.components) : registry.find? e.path = some e := by
  obtain ⟨x, hx, rfl⟩ := List.mem_map.mp (List.mem_filter.mp he).1
  have hget : registry.get? x.1 = some x.2 := lookup_of_mem registry.files.ascending hx
  rw [h x.1 x.2 hget]
  exact find?_of_get? hget

/-- The first component of a name has the least path. -/
lemma Registry.path_le_of_find? (h : ∀ path e, registry.get? path = some e → e.path = path)
    {e e' : FileEntry} (hfirst : registry.components.find? (·.name == e.name) = some e)
    (he' : e' ∈ registry.components) (hname : e'.name = e.name) : e.path ≤ e'.path := by
  obtain ⟨-, before, behind, hsplit, hbefore⟩ := List.find?_eq_some_iff_append.mp hfirst
  have hpairwise := pairwise_components h
  rw [hsplit, List.pairwise_append] at hpairwise
  rw [hsplit, List.mem_append, List.mem_cons] at he'
  rcases he' with he' | rfl | he'
  · have hother := hbefore e' he'
    rw [hname, beq_self_eq_true] at hother
    cases hother
  · exact String.le_refl _
  · exact le_of_lt ((List.pairwise_cons.mp hpairwise.2.1).1 e' he')

/-- The id of a library file leads to the file, unless its path ends like that of a stylesheet. -/
lemma resolve_fileId (config : Config) (registry : Registry) (path : String)
    (importer : Option String) :
    Chain.resolve (providers config registry) (Specifier.fileId path) importer =
      pure (some (if Specifier.isStylesheet (Specifier.fileId path) then
        styleStubPrefix ++ Specifier.fileId path else Specifier.fileId path)) := by
  split
  · rename_i hstyle
    exact resolve_stylesheet hstyle
  · rename_i hstyle
    refine resolve_library (Bool.eq_false_iff.mpr hstyle) ?_
    rw [LibraryFile.resolve, if_pos (Specifier.hasPrefix_fileId path)]

/-- Of the components whose names are identifiers and do not start with two underscores, the index
exports one for each name, that of the least path. The index can be read back as the exports of
these components, and of nothing else, if and only if all their paths stand for themselves between
single quotes. The id of such a component leads to its source, unless the path ends like that of a
stylesheet. -/
theorem index_exports_iff (config : Config) (registry : Registry) (typescript : Bool)
    (h : ∀ path e, registry.get? path = some e → e.path = path) :
    ∃ es : List FileEntry,
      (es.map (·.name)).Nodup ∧
      (∀ name, name ∈ es.map (·.name) ↔ Specifier.isIdentifier name = true ∧
        Text.hasPrefix "__" name = false ∧ ∃ e ∈ registry.components, e.name = name) ∧
      (∀ e ∈ es, e ∈ registry.components ∧
        ∀ e' ∈ registry.components, e'.name = e.name → e.path ≤ e'.path) ∧
      ((∃ program, Program.parse typescript (LibraryFile.index registry).toList = some program ∧
          program.sites = [] ∧ List.Forall₂ Reexports es program.items) ↔
        ∀ e ∈ es, Script.Lexer.Literal e.path.toList) ∧
      ∀ e ∈ es, ∀ importer,
        let specifier := Specifier.fileId e.path
        Chain.resolve (providers config registry) specifier importer =
            pure (some (if Specifier.isStylesheet specifier then styleStubPrefix ++ specifier
              else specifier)) ∧
          Chain.load (providers config registry) specifier = pure (some e.source) := by
  have hmem {e : FileEntry} (he : e ∈ LibraryFile.indexed registry.components) :
      e ∈ registry.components := List.mem_of_find?_eq_some (LibraryFile.mem_indexed_iff.mp he).2
  refine ⟨LibraryFile.indexed registry.components, LibraryFile.nodup_indexed _, fun name => ?_,
    fun e he => ?_, ?_, fun e he importer => ?_⟩
  · constructor
    · intro hname
      obtain ⟨e, he, rfl⟩ := List.mem_map.mp hname
      have hexported := (LibraryFile.mem_indexed_iff.mp he).1
      exact ⟨hexported.1, hexported.2, e, hmem he, rfl⟩
    · rintro ⟨hidentifier, hprefix, e, he, rfl⟩
      exact List.mem_map.mpr (LibraryFile.exists_mem_indexed he ⟨hidentifier, hprefix⟩)
  · exact ⟨hmem he, fun e' he' hname =>
      Registry.path_le_of_find? h (LibraryFile.mem_indexed_iff.mp he).2 he' hname⟩
  · rw [LibraryFile.toList_index]
    refine LibraryFile.parse_lines_iff typescript (fun e he => ?_) (LibraryFile.nodup_indexed _)
    exact (LibraryFile.mem_indexed_iff.mp he).1.1
  · refine ⟨resolve_fileId config registry e.path importer, ?_⟩
    rw [load_file, Registry.find?_component h (hmem he)]

namespace LibraryFile

/-- The registry of components, of which two have one name and one is not exported. -/
def cards : Registry := .ofEntries (Registry.entriesOf [("a/Card.svelte", "<p>a</p>"),
  ("b/Card.svelte", "<p>b</p>"), ("b/__Frame.svelte", ""), ("c/Tab.svelte", "<p>c</p>")])

/-- The registry of a component with a quote in its path. -/
def quoted : Registry := .ofEntries (Registry.entriesOf [("it's/A.svelte", "<p>a</p>")])

/-- The registry of a component with a backslash in its path. -/
def slashed : Registry := .ofEntries (Registry.entriesOf [("a\\q/A.svelte", "<p>a</p>")])

/-- The texts that name the modules of exports. -/
def specifiers {text : List Char} (program : Program text) : List String :=
  program.items.filterMap fun
    | .exportFrom _ specifier _ => some specifier
    | _ => none

end LibraryFile

/-- The index of these components is read back, with the first of the two cards. -/
theorem index_exports_iff_cards :
    let r := LibraryFile.cards
    (∀ path e, r.get? path = some e → e.path = path) ∧
      LibraryFile.index r =
        "export \x7b default as Card \x7d from 'virtual:file/a/Card.svelte';\n" ++
          "export \x7b default as Tab \x7d from 'virtual:file/c/Tab.svelte';\n" ∧
      ∃ program es, Program.parse true (LibraryFile.index r).toList = some program ∧
        program.sites = [] ∧ List.Forall₂ Reexports es program.items ∧
        ∀ e ∈ es, Chain.load (providers {} r) (Specifier.fileId e.path) = pure (some e.source) := by
  intro r
  have hpath : ∀ path e, r.get? path = some e → e.path = path :=
    fun path e h => (Registry.consistentAt_ofEntries _ path e h).1
  obtain ⟨es, -, -, hfirst, hparse, hload⟩ := index_exports_iff {} r true hpath
  have hliteral : ∀ e ∈ r.components, Script.Lexer.Literal e.path.toList := by decide +kernel
  obtain ⟨program, hprogram, hsites, hitems⟩ :=
    hparse.mpr fun e he => hliteral e (hfirst e he).1
  exact ⟨hpath, by decide +kernel, program, es, hprogram, hsites, hitems,
    fun e he => (hload e he none).2⟩

/-- A quote in a path ends the text early, and the index is no script. A backslash starts an escape:
the index exports a component that there is not. -/
theorem not_index_exports_quoted :
    (∀ path e, LibraryFile.quoted.get? path = some e → e.path = path) ∧
      LibraryFile.index LibraryFile.quoted =
        "export \x7b default as A \x7d from 'virtual:file/it's/A.svelte';\n" ∧
      (Program.parse true (LibraryFile.index LibraryFile.quoted).toList).isNone = true ∧
      (∀ path e, LibraryFile.slashed.get? path = some e → e.path = path) ∧
      (Program.parse true (LibraryFile.index LibraryFile.slashed).toList).map
        LibraryFile.specifiers = some ["virtual:file/aq/A.svelte"] ∧
      LibraryFile.slashed.find? "aq/A.svelte" = none :=
  ⟨fun path e h => (Registry.consistentAt_ofEntries _ path e h).1, by decide +kernel,
    by decide +kernel, fun path e h => (Registry.consistentAt_ofEntries _ path e h).1,
    by decide +kernel, by decide +kernel⟩

end LiveBundle
