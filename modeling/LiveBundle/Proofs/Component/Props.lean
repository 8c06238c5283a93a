import LiveBundle.Proofs.Component.PropLines
import LiveBundle.Proofs.Script.LocalLets

/-!
# Props and exported variables

The props of a component are meant to be the variables that its script exports by `let`. They are
found line by line, and the script is read by its grammar; here the two are compared, with the places
of the declarations in the text.

* `exists_word`: what the grammar makes of the name of a line;
* `OnLine` are the declarations that their lines tell, `OnlyExports` the scripts in which a line
  that looks like a declaration is one;
* `props_eq_exports_iff`: when the props are the exported variables, and what becomes of the script;
* `rewritten_of_props`: where they are, the script without the words that its props lose is read,
  with the same names.
-/

namespace LiveBundle.Component

open Text (isBlank writePieces)
open PropDeclaration (isNameStart)
open Script (Binding ExportedLet Item Pattern Program)

variable {script s rest : List Char}

/-! ## Lines and declarations -/

/-- White space in front of a name is passed over. -/
lemma blanks_append (hs : ∀ c ∈ s, isBlank c = true) {c : Char} (hc : isNameStart c = true)
    (cs : List Char) (broken : Bool) (n : Nat) : ∃ broken',
      Script.Lexer.blanks .outside broken n (s ++ c :: cs) = some (n + s.length, broken') := by
  induction s generalizing broken n with
  | nil =>
    obtain ⟨hline, hspace, hslash⟩ := Script.Lexer.not_blank_of_specifier hc
    exact ⟨broken, by simp [Script.Lexer.blanks, hline, hspace, hslash]⟩
  | cons d ds ih =>
    have hd := of_isBlank (P := fun c => Script.Lexer.isLineEnd c || Script.Lexer.isSpace c)
      (by decide) (hs d List.mem_cons_self)
    rw [List.cons_append, Script.Lexer.blanks, List.length_cons, Nat.add_comm ds.length,
      ← Nat.add_assoc]
    have hds := fun c hc => hs c (List.mem_cons_of_mem d hc)
    split
    · exact ih hds _ _
    · rename_i hline
      rw [Bool.not_eq_true] at hline
      rw [hline, Bool.false_or] at hd
      rw [if_pos hd]
      exact ih hds _ _

/-- From the place of a line on, the script goes on with `let`. -/
lemma drop_place {before : List Char} {l : PropLine}
    (hscript : script = before ++ (l.text ++ rest)) :
    Text.bytesDrop (Text.byteSize (before ++ l.head)) script =
      "let".toList ++ (l.space ++ (l.name ++ rest)) := by
  have hline : script = (before ++ l.head) ++ ("let".toList ++ (l.space ++ (l.name ++ rest))) := by
    rw [hscript]
    simp only [PropLine.text, List.append_assoc]
  rw [hline, Text.bytesDrop_append]

/-- What a declaration binds first is the name that the parser reads on its line. -/
lemma exists_word {d : ExportedLet} {before : List Char} {l : PropLine} (hd : d.Stands script)
    (hl : l.Valid) (hscript : script = before ++ (l.text ++ rest))
    (hplace : d.place = Text.byteSize (before ++ l.head)) :
    ∃ w escaped length more,
      Script.Lexer.word (l.name ++ rest) = some (.word w escaped, length) ∧
        Script.isReserved w = false ∧ d.names = w :: more := by
  obtain ⟨before', rest', htext, hsize, hintroduces⟩ := hd
  have hbehind : "let".toList ++ rest' = "let".toList ++ (l.space ++ (l.name ++ rest)) := by
    rw [← drop_place hscript, ← hplace, ← hsize, htext, List.append_assoc, Text.bytesDrop_append]
  rw [List.append_cancel_left hbehind] at hintroduces
  obtain ⟨c, cs, hname, hc, -⟩ := hl.name
  rw [hname, List.cons_append] at hintroduces ⊢
  obtain ⟨broken, hblanks⟩ := blanks_append hl.space hc (cs ++ rest) false 0
  rw [Nat.zero_add] at hblanks
  exact hintroduces hblanks List.drop_left (Script.Lexer.isNameStart_of_specifier hc)

/-- No declaration binds a keyword. -/
lemma name_ne_export {d : ExportedLet} {before : List Char} {l : PropLine} {c : Char}
    (hd : d.Stands script) (hl : l.Valid) (hscript : script = before ++ (l.text ++ c :: rest))
    (hplace : d.place = Text.byteSize (before ++ l.head)) (hc : isBlank c = true) :
    l.name ≠ "export".toList := by
  intro hname
  obtain ⟨w, escaped, length, more, hword, hreserved, -⟩ := exists_word hd hl hscript hplace
  have hpart := of_isBlank (P := fun c => !Script.Lexer.isNamePart c && c != '\\')
    (by decide +kernel) hc
  simp only [Bool.and_eq_true, Bool.not_eq_true', bne_iff_ne] at hpart
  have hexport : Script.Lexer.token ("export".toList ++ c :: rest) =
      some (.word "export" false, 6) :=
    Script.Lexer.token_identifier (by decide) hpart.1 hpart.2 rest
  rw [hname] at hword
  have htoken : Script.Lexer.token ("export".toList ++ c :: rest) =
      Script.Lexer.word ("export".toList ++ c :: rest) := Script.Lexer.token_name (by decide) _
  rw [← htoken, hexport] at hword
  cases hword
  revert hreserved
  decide

/-! ## The props of a script that is read -/

/-- What a declaration binds, each name with the byte at which the `let` starts. -/
def placedExports (d : ExportedLet) : List (Nat × String) := d.names.map fun name => (d.place, name)

/-- The declaration binds nothing, or the one name that its line declares. -/
def OnLine (script : List Char) (d : ExportedLet) : Prop :=
  d.names = [] ∨ ∃ name, d.names = [name] ∧ LineDeclares script d.place name

/-- Every line that declares a prop belongs to an exported `let`. -/
def OnlyExports (program : Program script) : Prop :=
  ∀ place name, LineDeclares script place name → ∃ d ∈ program.exportedLets, d.place = place

variable {typescript : Bool} {program : Program script}

/-- If no prop is invented, every line that declares one is found. -/
lemma mem_placedProps_iff (h : Program.parse typescript script = some program)
    (hprops : ∀ x ∈ placedProps script, ∃ d ∈ program.exportedLets, d.place = x.1)
    {place : Nat} {name : String} :
    (place, name) ∈ placedProps script ↔ LineDeclares script place name := by
  refine ⟨lineDeclares_of_mem, fun hline => (mem_of_lineDeclares hline).resolve_right ?_⟩
  rintro ⟨before, l, c, rest, hscript, hl, hname, hc, hmem⟩
  obtain ⟨d, hd, hplace⟩ := hprops _ hmem
  exact name_ne_export ((Program.exportedLets_of_parse h).2 d hd) hl hscript hplace hc hname

lemma OnlyExports.exists_of_mem (h : OnlyExports program) :
    ∀ x ∈ placedProps script, ∃ d ∈ program.exportedLets, d.place = x.1 :=
  fun x hx => h x.1 x.2 (lineDeclares_of_mem hx)

lemma onlyExports_iff (h : Program.parse typescript script = some program) :
    OnlyExports program ↔ ∀ x ∈ placedProps script, ∃ d ∈ program.exportedLets, d.place = x.1 :=
  ⟨OnlyExports.exists_of_mem, fun hprops place name hline =>
    hprops (place, name) ((mem_placedProps_iff h hprops).mpr hline)⟩

/-- Where a line declares a prop, the declaration binds a name. -/
lemma names_ne_nil (h : Program.parse typescript script = some program) {d : ExportedLet}
    (hd : d ∈ program.exportedLets) {name : String} (hline : LineDeclares script d.place name) :
    d.names ≠ [] := by
  obtain ⟨before, l, rest, hscript, -, hl, -, hplace, -⟩ := hline
  obtain ⟨w, -, -, more, -, -, hnames⟩ :=
    exists_word ((Program.exportedLets_of_parse h).2 d hd) hl hscript hplace
  rw [hnames]
  exact List.cons_ne_nil _ _

/-! ### In the order of their places -/

lemma pairwise_placedProps (script : List Char) :
    ((placedProps script).map Prod.fst).Pairwise (· < ·) :=
  List.pairwise_map.mpr (pairwise_placedNames 0 _)

lemma pairwise_places (h : Program.parse typescript script = some program) :
    (program.exportedLets.map (·.place)).Pairwise (· < ·) :=
  List.pairwise_map.mpr (Program.exportedLets_of_parse h).1

/-- The places are in order from declaration to declaration if they are in each declaration. -/
lemma pairwise_placedExports (h : Program.parse typescript script = some program)
    {R : Nat → Nat → Prop} (hR : ∀ a b, a < b → R a b)
    (hplaced : ∀ d ∈ program.exportedLets, (placedExports d).Pairwise fun x y => R x.1 y.1) :
    (program.exportedLets.flatMap placedExports).Pairwise fun x y => R x.1 y.1 := by
  refine List.pairwise_flatMap.mpr ⟨hplaced, ?_⟩
  refine (Program.exportedLets_of_parse h).1.imp fun hlt x hx y hy => ?_
  obtain ⟨_, -, rfl⟩ := List.mem_map.mp hx
  obtain ⟨_, -, rfl⟩ := List.mem_map.mp hy
  exact hR _ _ hlt

lemma map_snd_placedExports (ds : List ExportedLet) :
    (ds.flatMap placedExports).map Prod.snd = ds.flatMap (·.names) := by
  rw [List.map_flatMap]
  refine List.flatMap_congr fun d _ => ?_
  rw [placedExports, List.map_map]
  exact List.map_id _

/-- The places of the props are those of the exported declarations if each of these is declared by
its line. -/
lemma places_eq_iff (h : Program.parse typescript script = some program) :
    (placedProps script).map Prod.fst = program.exportedLets.map (·.place) ↔
      OnlyExports program ∧
        ∀ d ∈ program.exportedLets, ∃ name, LineDeclares script d.place name := by
  constructor
  · intro heq
    refine ⟨(onlyExports_iff h).mpr fun x hx => ?_, fun d hd => ?_⟩
    · have hplace : x.1 ∈ program.exportedLets.map (·.place) := heq ▸ List.mem_map_of_mem hx
      exact List.mem_map.mp hplace
    · have hplace : d.place ∈ (placedProps script).map Prod.fst :=
        heq ▸ List.mem_map_of_mem hd
      obtain ⟨x, hx, hxd⟩ := List.mem_map.mp hplace
      exact ⟨x.2, hxd ▸ lineDeclares_of_mem hx⟩
  · rintro ⟨honly, hall⟩
    refine List.Pairwise.eq_of_mem_iff (pairwise_placedProps script) (pairwise_places h)
      fun place => ?_
    rw [List.mem_map, List.mem_map]
    constructor
    · rintro ⟨x, hx, rfl⟩
      exact honly.exists_of_mem x hx
    · rintro ⟨d, hd, rfl⟩
      obtain ⟨name, hline⟩ := hall d hd
      exact ⟨_, (mem_placedProps_iff h honly.exists_of_mem).mpr hline, rfl⟩

/-- A place has one name. -/
lemma placedProps_unique {place : Nat} {name name' : String}
    (h : (place, name) ∈ placedProps script) (h' : (place, name') ∈ placedProps script) :
    name = name' := by
  have hnodup : ((placedProps script).map Prod.fst).Nodup :=
    (pairwise_placedProps script).imp Nat.ne_of_lt
  exact congrArg Prod.snd (List.inj_on_of_nodup_map hnodup h h' rfl)

/-- What is exported is what the lines declare. -/
lemma mem_placedExports_iff (h : Program.parse typescript script = some program)
    (honly : OnlyExports program) (hall : ∀ d ∈ program.exportedLets, OnLine script d)
    (x : Nat × String) :
    x ∈ placedProps script ↔ x ∈ program.exportedLets.flatMap placedExports := by
  have hmem {place : Nat} {name : String} :
      (place, name) ∈ placedProps script ↔ LineDeclares script place name :=
    mem_placedProps_iff h honly.exists_of_mem
  rw [List.mem_flatMap]
  constructor
  · intro hx
    obtain ⟨d, hd, hplace⟩ := honly.exists_of_mem x hx
    refine ⟨d, hd, List.mem_map.mpr ⟨x.2, ?_, by rw [hplace]⟩⟩
    have hx : (d.place, x.2) ∈ placedProps script := hplace ▸ hx
    rcases hall d hd with hnil | ⟨name, hname, hline⟩
    · exact absurd hnil (names_ne_nil h hd (hmem.mp hx))
    · rw [hname, placedProps_unique hx (hmem.mpr hline)]
      exact List.mem_cons_self
  · rintro ⟨d, hd, hx⟩
    obtain ⟨name, hname, rfl⟩ := List.mem_map.mp hx
    rcases hall d hd with hnil | ⟨name', hname', hline⟩
    · rw [hnil] at hname
      cases hname
    · rw [hname'] at hname
      cases List.mem_singleton.mp hname
      exact hmem.mpr hline

/-- The props are the exported variables, place by place. -/
lemma placedProps_eq_iff (h : Program.parse typescript script = some program) :
    placedProps script = program.exportedLets.flatMap placedExports ↔
      OnlyExports program ∧ ∀ d ∈ program.exportedLets, OnLine script d := by
  have hpairwise : (placedProps script).Pairwise fun x y => x.1 < y.1 := pairwise_placedNames 0 _
  constructor
  · intro heq
    refine ⟨(onlyExports_iff h).mpr fun x hx => ?_, fun d hd => ?_⟩
    · rw [heq] at hx
      obtain ⟨d, hd, hx⟩ := List.mem_flatMap.mp hx
      obtain ⟨name, -, rfl⟩ := List.mem_map.mp hx
      exact ⟨d, hd, rfl⟩
    · have hline {name : String} (hname : name ∈ d.names) : LineDeclares script d.place name := by
        refine lineDeclares_of_mem (heq ▸ ?_)
        exact List.mem_flatMap.mpr ⟨d, hd, List.mem_map_of_mem hname⟩
      -- Two names of one declaration would stand at one place.
      rw [heq] at hpairwise
      have hone := (List.pairwise_flatMap.mp hpairwise).1 d hd
      unfold OnLine
      unfold placedExports at hone
      cases hnames : d.names with
      | nil => exact .inl rfl
      | cons name more =>
        cases more with
        | nil => exact .inr ⟨name, rfl, hline (by rw [hnames]; exact List.mem_cons_self)⟩
        | cons name' more =>
          rw [hnames] at hone
          have hlt := (List.pairwise_cons.mp hone).1 (d.place, name') List.mem_cons_self
          exact absurd hlt (Nat.lt_irrefl _)
  · rintro ⟨honly, hall⟩
    have hplaced : (program.exportedLets.flatMap placedExports).Pairwise fun x y => x.1 < y.1 := by
      refine pairwise_placedExports h (fun _ _ hlt => hlt) fun d hd => ?_
      rcases hall d hd with hnames | ⟨name, hnames, -⟩
      · rw [placedExports, hnames]
        exact .nil
      · rw [placedExports, hnames]
        exact List.pairwise_singleton _ _
    have : Std.Antisymm fun x y : Nat × String => x.1 < y.1 :=
      ⟨fun _ _ hlt hgt => absurd hgt (Nat.lt_asymm hlt)⟩
    have : Std.Irrefl fun x y : Nat × String => x.1 < y.1 := ⟨fun _ => Nat.lt_irrefl _⟩
    exact hpairwise.eq_of_mem_iff hplaced (mem_placedExports_iff h honly hall)

/-- If no prop is invented and the names are those of the exported variables, so are the places. -/
lemma placedProps_eq_of_names (h : Program.parse typescript script = some program)
    (honly : OnlyExports program)
    (hnames : propNames script = program.exportedLets.flatMap (·.names)) :
    placedProps script = program.exportedLets.flatMap placedExports := by
  have hsnd : (placedProps script).map Prod.snd =
      (program.exportedLets.flatMap placedExports).map Prod.snd := by
    rw [map_snd_placedProps, map_snd_placedExports, hnames]
  have hsubset : (placedProps script).map Prod.fst ⊆
      (program.exportedLets.flatMap placedExports).map Prod.fst := by
    intro place hplace
    obtain ⟨x, hx, rfl⟩ := List.mem_map.mp hplace
    obtain ⟨d, hd, hxd⟩ := honly.exists_of_mem x hx
    have hne := names_ne_nil h hd (hxd ▸ lineDeclares_of_mem hx)
    obtain ⟨name, more, hnames⟩ := List.exists_cons_of_ne_nil hne
    refine List.mem_map.mpr ⟨(d.place, name), List.mem_flatMap.mpr ⟨d, hd, ?_⟩, hxd⟩
    exact List.mem_map_of_mem (by rw [hnames]; exact List.mem_cons_self)
  -- There are as many names as places, and each place stands once among the props.
  have hlength : ((program.exportedLets.flatMap placedExports).map Prod.fst).length ≤
      ((placedProps script).map Prod.fst).length := by
    have hlength := congrArg List.length hsnd
    simp only [List.length_map] at hlength ⊢
    omega
  have hnodup : ((placedProps script).map Prod.fst).Nodup :=
    (pairwise_placedProps script).imp Nat.ne_of_lt
  have hperm := (List.subperm_of_subset hnodup hsubset).perm_of_length_le hlength
  have hordered : ((program.exportedLets.flatMap placedExports).map Prod.fst).Pairwise (· ≤ ·) :=
    List.pairwise_map.mpr (pairwise_placedExports h (fun _ _ => Nat.le_of_lt) fun d _ =>
      List.pairwise_map.mpr (List.pairwise_of_forall fun _ _ => Nat.le_refl _))
  have hfst := hperm.eq_of_pairwise (fun _ _ _ _ => Nat.le_antisymm)
    ((pairwise_placedProps script).imp Nat.le_of_lt) hordered
  rw [List.zip_of_prod hfst hsnd]
  exact (List.zip_of_prod rfl rfl).symm

/-- The props of a script that is read are its exported `let` variables if and only if every line
that declares a prop is such a declaration, and every such declaration stands on a line that declares
the one name that it binds. -/
theorem props_eq_exports_iff (h : Program.parse typescript script = some program) :
    (placedProps script = program.exportedLets.flatMap placedExports ↔
      OnlyExports program ∧ ∀ d ∈ program.exportedLets, OnLine script d) ∧
    (OnlyExports program →
      (propNames script = program.exportedLets.flatMap (·.names) ↔
        ∀ d ∈ program.exportedLets, OnLine script d)) ∧
    ((placedProps script).map Prod.fst = program.exportedLets.map (·.place) ↔
      OnlyExports program ∧
        ∀ d ∈ program.exportedLets, ∃ name, LineDeclares script d.place name) ∧
    (placedProps script).map Prod.snd = propNames script ∧
    writePieces PropLine.text (propLines script) = script ∧
    writePieces PropLine.asLocal (propLines script) = withoutPropExports script := by
  refine ⟨placedProps_eq_iff h, fun honly => ⟨fun hnames => ?_, fun hall => ?_⟩, places_eq_iff h,
    map_snd_placedProps script, writePieces_propLines script, (withoutPropExports_eq script).symm⟩
  · exact ((placedProps_eq_iff h).mp (placedProps_eq_of_names h honly hnames)).2
  · rw [← map_snd_placedProps, (placedProps_eq_iff h).mpr ⟨honly, hall⟩, map_snd_placedExports]

/-- A script with two props, each on a line of its own. -/
def separateProps : List Char := "\nexport let a = 1;\n\texport  let b;\n".toList

theorem props_eq_exports_separate :
    ∃ program, Program.parse false separateProps = some program ∧ OnlyExports program ∧
      (∀ d ∈ program.exportedLets, OnLine separateProps d) ∧
      program.exportedLets.flatMap (·.names) = ["a", "b"] := by
  have hparse : (Program.parse false separateProps).map Program.exportedLets =
      some [⟨8, ["a"]⟩, ⟨28, ["b"]⟩] := by decide +kernel
  obtain ⟨program, hprogram, hexports⟩ := Option.map_eq_some_iff.mp hparse
  have hplaced : placedProps separateProps = program.exportedLets.flatMap placedExports := by
    rw [hexports]
    decide +kernel
  obtain ⟨honly, hall⟩ := (props_eq_exports_iff hprogram).1.mp hplaced
  exact ⟨program, hprogram, honly, hall, by rw [hexports]; rfl⟩

/-- A script that exports two variables by one `let`. -/
def joinedProps : List Char := "\nexport let a = 1, b = 2;\n".toList

/-- The second one is no prop. -/
theorem not_props_eq_exports_joined :
    ∃ program, Program.parse false joinedProps = some program ∧
      program.exportedLets.flatMap (·.names) = ["a", "b"] ∧ propNames joinedProps = ["a"] := by
  have hparse : (Program.parse false joinedProps).map Program.exportedLets =
      some [⟨8, ["a", "b"]⟩] := by decide +kernel
  obtain ⟨program, hprogram, hexports⟩ := Option.map_eq_some_iff.mp hparse
  exact ⟨program, hprogram, by rw [hexports]; rfl, by decide +kernel⟩

/-! ## The script without the words of its props -/

/-- What becomes of a statement in the rewritten script: it binds what it did, and it stays what it
was, or it exported a prop by `let` and now declares the prop. -/
def Rewritten (script : List Char) (read bare : Item script × List Binding) : Prop :=
  bare.2 = read.2 ∧ (bare.1 = read.1 ∨ bare.1 = .other ∧ ∃ d name,
    read.1.exportedLet? = some d ∧ (d.place, name) ∈ placedProps script ∧
      read.2 = [⟨name, .lexical⟩])

/-- An export of variables whose keyword a prop names is one by `let`. -/
lemma exportedLet?_of_placed (span : Script.Span script) {head : Script.Span script}
    (patterns : List Pattern) {name : String} (h : (head.stop, name) ∈ placedProps script) :
    (Item.exportDeclaration span head (.variables patterns)).exportedLet? =
      some ⟨head.stop, Pattern.namesOfList patterns⟩ := by
  obtain ⟨before, l, rest, hscript, -, -, -, hplace, -⟩ := lineDeclares_of_mem h
  refine if_pos ?_
  rw [hplace, drop_place hscript]
  exact List.prefix_append _ _

/-- An exported declaration at the place of a prop binds the prop. -/
lemma names_of_placed (h : Program.parse typescript script = some program)
    (hprops : placedProps script = program.exportedLets.flatMap placedExports) {d : ExportedLet}
    (hd : d ∈ program.exportedLets) {name : String} (hname : (d.place, name) ∈ placedProps script) :
    d.names = [name] := by
  rcases ((placedProps_eq_iff h).mp hprops).2 d hd with hnil | ⟨name', hnames, hline⟩
  · exact absurd hnil (names_ne_nil h hd (lineDeclares_of_mem hname))
  · have hname' : (d.place, name') ∈ placedProps script := by
      rw [hprops]
      refine List.mem_flatMap.mpr ⟨d, hd, List.mem_map_of_mem ?_⟩
      rw [hnames]
      exact List.mem_cons_self
    rw [hnames, placedProps_unique hname hname']

/-- Where the props are the exported variables, the script is read as well without the words that
its props lose, and each statement binds the same names. This is about the tokens of the script; as
a text of its own, what is left may be refused. -/
theorem rewritten_of_props (h : Program.parse typescript script = some program)
    (hprops : placedProps script = program.exportedLets.flatMap placedExports) :
    ∃ read locals, Program.bound? typescript script = some read ∧
      read.map (·.1) = program.items ∧
      Program.withoutExports? typescript ((placedProps script).map Prod.fst) script = some locals ∧
      List.Forall₂ (Rewritten script) read locals := by
  obtain ⟨read, locals, hread, hitems, hlocals, hlocalizes⟩ :=
    Program.withoutExports_of_parse ((placedProps script).map Prod.fst) h
  refine ⟨read, locals, hread, hitems, hlocals, ?_⟩
  have hmem : ∀ r ∈ read, r.1 ∈ program.items := fun r hr =>
    hitems ▸ List.mem_map_of_mem hr
  refine ((List.forall₂_and_left _ _).mpr ⟨hmem, hlocalizes⟩).imp ?_
  rintro ⟨item, bs⟩ bare ⟨hitem, hbinds, hstays | ⟨hother, span, head, patterns, rfl, hplace, hbs⟩⟩
  · exact ⟨hbinds, .inl hstays⟩
  · obtain ⟨⟨place, name⟩, hname, rfl⟩ := List.mem_map.mp hplace
    have hlet := exportedLet?_of_placed span patterns hname
    have hnames := names_of_placed h hprops (List.mem_filterMap.mpr ⟨_, hitem, hlet⟩) hname
    simp only at hnames
    refine ⟨hbinds, .inr ⟨hother, _, name, hlet, hname, ?_⟩⟩
    rw [hbs, hnames]
    rfl

-- Without the word between them, what stands in front of a line can belong to its declaration.
example : (Program.parse true "static\nexport let x;".toList).isSome = true ∧
    withoutPropExports "static\nexport let x;".toList = "static\nlet x;".toList ∧
    (Program.parse true "static\nlet x;".toList).isNone = true := by
  decide +kernel

end LiveBundle.Component
