import LiveBundle.Component.Props
import LiveBundle.Proofs.Script.Tokens
import LiveBundle.Proofs.Text.Frame
import LiveBundle.Proofs.Text.Pieces

/-!
# Lines that declare props

A prop is found by the text of its line alone: `export`, `let` and a name, with white space between
them. Each such line is found, unless its `export` was taken for the name that a line in front of it
ends with.

* `PropLine` is the line as it is written, `PropLine.pattern_eq_some_iff` says when it is found;
* `propLines` are the lines of a script, `placedProps` their names with their places;
* `LineDeclares` says that a line stands somewhere in a script;
* `lineDeclares_of_mem` and `mem_of_lineDeclares` compare the lines that stand in a script with the
  ones that are found.
-/

namespace LiveBundle.Component

open Text (Pattern isBlank isSpaceOrTab writePieces pieces EndsLine span_append
  of_mem_head?_dropWhile)
open PropDeclaration (isNameStart isNamePart)

variable {script s t rest : List Char}

/-! ## Declarations as they are written -/

/-- A line up to the name of a prop: the blanks in front of `export`, the ones behind it and the
ones behind `let`. -/
structure PropLine where
  indent : List Char
  gap : List Char
  space : List Char
  name : List Char
deriving DecidableEq

namespace PropLine

/-- What stands in front of `let`. -/
def head (l : PropLine) : List Char := l.indent ++ "export".toList ++ l.gap

def text (l : PropLine) : List Char := l.head ++ "let".toList ++ l.space ++ l.name

/-- What is left of the line: the word that exports and the blanks behind it are gone, and one blank
stands behind `let`. -/
def asLocal (l : PropLine) : List Char := l.indent ++ "let ".toList ++ l.name

/-- The line is one by which a prop is found. -/
structure Valid (l : PropLine) : Prop where
  indent : ∀ c ∈ l.indent, isSpaceOrTab c = true
  gap_ne : l.gap ≠ []
  gap : ∀ c ∈ l.gap, isBlank c = true
  space_ne : l.space ≠ []
  space : ∀ c ∈ l.space, isBlank c = true
  name : ∃ c cs, l.name = c :: cs ∧ isNameStart c = true ∧ ∀ d ∈ cs, isNamePart d = true

/-- The line in front of a text, if a prop is found there. -/
def ofDeclaration (s : List Char) (d : PropDeclaration) : PropLine :=
  let behindExport := s.drop (d.indent.length + "export".length)
  let gap := behindExport.takeWhile isBlank
  let behindLet := behindExport.drop (gap.length + "let".length)
  ⟨d.indent, gap, behindLet.takeWhile isBlank, d.name⟩

/-- Finds the lines. -/
def pattern : Text.Pattern PropLine := fun lineStart s =>
  (PropDeclaration.pattern lineStart s).map (Prod.map (ofDeclaration s) id)

end PropLine

/-! ## Finding the lines -/

/-- A word is read with all of the white space behind it, of which there must be some. -/
lemma wordAndBlanks?_eq_some_iff {word : List Char} :
    Text.wordAndBlanks? word s = some rest ↔ ∃ gap, s = word ++ gap ++ rest ∧ gap ≠ [] ∧
      (∀ c ∈ gap, isBlank c = true) ∧ ∀ c ∈ rest.head?, isBlank c = false := by
  unfold Text.wordAndBlanks?
  constructor
  · intro h
    split at h
    · rename_i c cs hword
      split at h
      · rename_i hc
        cases h
        refine ⟨c :: cs.takeWhile isBlank, ?_, List.cons_ne_nil _ _, ?_, of_mem_head?_dropWhile⟩
        · rw [List.append_assoc, List.cons_append, List.takeWhile_append_dropWhile]
          exact (List.isPrefixOf?_eq_some_iff_append_eq.mp hword).symm
        · rintro d (_ | ⟨_, hd⟩)
          exacts [hc, List.mem_takeWhile_imp hd]
      · cases h
    · cases h
  · rintro ⟨gap, rfl, hne, hgap, hrest⟩
    obtain ⟨c, cs, rfl⟩ := List.exists_cons_of_ne_nil hne
    have hword : word.isPrefixOf? (word ++ (c :: cs) ++ rest) = some (c :: (cs ++ rest)) :=
      List.isPrefixOf?_eq_some_iff_append_eq.mpr (by simp)
    have hcs : ∀ d ∈ cs, isBlank d = true := fun d hd => hgap d (List.mem_cons_of_mem c hd)
    simp only [hword, if_pos (hgap c List.mem_cons_self), (span_append hcs hrest).2]

/-- The characters that are white space. -/
def whiteSpace : List Char :=
  [0x9, 0xA, 0xB, 0xC, 0xD, 0x20, 0x85, 0xA0, 0x1680, 0x2000, 0x2001, 0x2002, 0x2003, 0x2004,
    0x2005, 0x2006, 0x2007, 0x2008, 0x2009, 0x200A, 0x2028, 0x2029, 0x202F, 0x205F, 0x3000].map
    Char.ofNat

/-- White space is one of finitely many characters. -/
lemma mem_whiteSpace {c : Char} (h : isBlank c = true) : c ∈ whiteSpace := by
  refine List.mem_map.mpr ⟨c.toNat, ?_, Char.ofNat_toNat c⟩
  simp only [isBlank, Bool.or_eq_true, Bool.and_eq_true, decide_eq_true_eq, beq_iff_eq] at h
  simp only [List.mem_cons, List.not_mem_nil, or_false]
  omega

/-- What holds of these characters holds of white space. -/
lemma of_isBlank {P : Char → Bool} (hall : whiteSpace.all P = true) {c : Char}
    (h : isBlank c = true) : P c = true := List.all_eq_true.mp hall c (mem_whiteSpace h)

/-- White space is no part of a name. -/
lemma isNamePart_of_isBlank {c : Char} (h : isBlank c = true) : isNamePart c = false :=
  Bool.not_eq_true' _ ▸ of_isBlank (P := fun c => !isNamePart c) (by decide +kernel) h

/-- A name does not start with white space. -/
lemma isBlank_of_isNameStart {c : Char} (h : isNameStart c = true) : isBlank c = false := by
  by_contra hblank
  rw [Bool.not_eq_false] at hblank
  have hnot := of_isBlank (P := fun c => !isNameStart c) (by decide +kernel) hblank
  rw [h] at hnot
  cases hnot

namespace PropLine

variable {l : PropLine} {lineStart : Bool}

/-- The text of a line with what follows, part by part. -/
lemma text_append (l : PropLine) (rest : List Char) :
    l.text ++ rest = l.indent ++ ("export".toList ++ l.gap ++
      ("let".toList ++ l.space ++ (l.name ++ rest))) := by
  simp only [text, head, List.append_assoc]

/-- Behind the white space the name starts. -/
lemma Valid.head?_name (h : l.Valid) (rest : List Char) :
    ∀ c ∈ (l.name ++ rest).head?, isBlank c = false := by
  obtain ⟨c, cs, hname, hc, -⟩ := h.name
  rw [hname]
  rintro _ ⟨⟩
  exact isBlank_of_isNameStart hc

/-- A line is found where it stands. -/
lemma Valid.pattern_text (h : l.Valid) (hrest : ∀ c ∈ rest.head?, isNamePart c = false) :
    pattern true (l.text ++ rest) = some (l, rest) := by
  obtain ⟨c, cs, hname, hc, hcs⟩ := h.name
  have hindent := span_append (t := "export".toList ++ l.gap ++
    ("let".toList ++ l.space ++ (l.name ++ rest))) h.indent (by rintro _ ⟨⟩; rfl)
  have hgap := span_append (t := "let".toList ++ l.space ++ (l.name ++ rest)) h.gap
    (by rintro _ ⟨⟩; rfl)
  have hspace := span_append h.space (h.head?_name rest)
  have hexport : Text.wordAndBlanks? "export".toList ("export".toList ++ l.gap ++
      ("let".toList ++ l.space ++ (l.name ++ rest))) =
        some ("let".toList ++ l.space ++ (l.name ++ rest)) :=
    wordAndBlanks?_eq_some_iff.mpr ⟨l.gap, rfl, h.gap_ne, h.gap, (by rintro _ ⟨⟩; rfl)⟩
  have hlet : Text.wordAndBlanks? "let".toList ("let".toList ++ l.space ++ (l.name ++ rest)) =
      some (l.name ++ rest) :=
    wordAndBlanks?_eq_some_iff.mpr ⟨l.space, rfl, h.space_ne, h.space, h.head?_name rest⟩
  have hname' := span_append hcs hrest
  have hfound : PropDeclaration.pattern true (l.text ++ rest) =
      some (⟨l.indent, l.name⟩, rest) := by
    rw [text_append, PropDeclaration.pattern]
    simp only [Bool.not_true, Bool.false_eq_true, if_false, hindent, hexport, hlet]
    rw [hname]
    simp only [List.cons_append, hc, if_true, hname']
  have hbehindExport : (l.text ++ rest).drop (l.indent.length + "export".length) =
      l.gap ++ ("let".toList ++ l.space ++ (l.name ++ rest)) := by
    rw [text_append, List.append_assoc, ← List.append_assoc l.indent]
    exact List.drop_left' (List.length_append ..)
  have hbehindLet : (l.gap ++ ("let".toList ++ l.space ++ (l.name ++ rest))).drop
      (l.gap.length + "let".length) = l.space ++ (l.name ++ rest) := by
    rw [List.append_assoc, ← List.append_assoc l.gap]
    exact List.drop_left' (List.length_append ..)
  simp only [pattern, hfound, Option.map_some, Prod.map, id, ofDeclaration, hbehindExport, hgap,
    hbehindLet, hspace]

/-- Where a prop is found, a line stands. -/
lemma exists_line {d : PropDeclaration} (h : PropDeclaration.pattern true s = some (d, rest)) :
    ∃ l : PropLine, l.Valid ∧ s = l.text ++ rest ∧ ∀ c ∈ rest.head?, isNamePart c = false := by
  unfold PropDeclaration.pattern at h
  simp only [Bool.not_true, Bool.false_eq_true, if_false] at h
  split at h
  · cases h
  · rename_i behindExport hexport
    obtain ⟨gap, hbehind, hgap_ne, hgap, -⟩ := wordAndBlanks?_eq_some_iff.mp hexport
    split at h
    · rename_i c cs hlet
      obtain ⟨space, rfl, hspace_ne, hspace, -⟩ := wordAndBlanks?_eq_some_iff.mp hlet
      split at h
      · rename_i hc
        cases h
        refine ⟨⟨s.takeWhile isSpaceOrTab, gap, space, c :: cs.takeWhile isNamePart⟩,
          ⟨fun _ hd => List.mem_takeWhile_imp hd, hgap_ne, hgap, hspace_ne, hspace,
            c, _, rfl, hc, fun _ hd => List.mem_takeWhile_imp hd⟩, ?_, of_mem_head?_dropWhile⟩
        rw [text_append]
        simp only [List.cons_append, List.takeWhile_append_dropWhile]
        rw [← hbehind, List.takeWhile_append_dropWhile]
      · cases h
    · cases h

/-- What is found is a line, and its name is not cut short. -/
lemma pattern_eq_some_iff : pattern lineStart s = some (l, rest) ↔
    lineStart = true ∧ l.Valid ∧ s = l.text ++ rest ∧
      ∀ c ∈ rest.head?, isNamePart c = false := by
  constructor
  · intro h
    obtain ⟨⟨d, rest'⟩, hfound, -⟩ := Option.map_eq_some_iff.mp h
    cases lineStart with
    | false => cases hfound
    | true =>
      obtain ⟨l', hvalid, rfl, hrest⟩ := exists_line hfound
      rw [hvalid.pattern_text hrest] at h
      cases h
      exact ⟨rfl, hvalid, rfl, hrest⟩
  · rintro ⟨rfl, hvalid, rfl, hrest⟩
    exact hvalid.pattern_text hrest

/-- The text of a line is not empty. -/
lemma text_ne_nil (l : PropLine) : l.text ≠ [] := by simp [text, head]

/-- A line is found where its text stands. -/
lemma reads : pattern.Reads text := by
  intro lineStart s l rest h
  obtain ⟨-, -, hs, -⟩ := pattern_eq_some_iff.mp h
  exact ⟨hs, l.text_ne_nil⟩

end PropLine

/-! ## The props of a script -/

/-- A script, cut by the lines by which props are found. -/
def propLines (script : List Char) : List (Char ⊕ PropLine) := pieces PropLine.pattern script

/-- The names of the lines, each with the byte at which its `let` starts; `n` bytes are in front of
the first piece. -/
def placedNames : Nat → List (Char ⊕ PropLine) → List (Nat × String)
  | _, [] => []
  | n, .inl c :: ps => placedNames (n + c.utf8Size) ps
  | n, .inr l :: ps =>
    (n + Text.byteSize l.head, String.ofList l.name) :: placedNames (n + Text.byteSize l.text) ps

/-- The props of a script, each with the byte at which its `let` starts. -/
def placedProps (script : List Char) : List (Nat × String) := placedNames 0 (propLines script)

/-- The pattern of props cuts a script where the lines stand. -/
lemma pieces_pattern (script : List Char) : pieces PropDeclaration.pattern script =
    (propLines script).map (Sum.map id fun l => ⟨l.indent, l.name⟩) := by
  refine Text.cutFrom_map (fun lineStart s => ?_) 0 true script
  rw [PropLine.pattern, Option.map_map]
  cases PropDeclaration.pattern lineStart s <;> rfl

/-- The lines make up the script. -/
lemma writePieces_propLines (script : List Char) :
    writePieces PropLine.text (propLines script) = script :=
  Text.writePieces_pieces PropLine.reads script

/-- The rewritten script has each line as a local declaration. -/
lemma withoutPropExports_eq (script : List Char) :
    withoutPropExports script = writePieces PropLine.asLocal (propLines script) := by
  rw [withoutPropExports, Text.replaceAll, pieces_pattern, Text.writePieces_map]
  rfl

/-- The names of the pieces, without their places, are those of the lines. -/
lemma map_snd_placedNames (n : Nat) (ps : List (Char ⊕ PropLine)) :
    (placedNames n ps).map Prod.snd = (ps.filterMap Sum.getRight?).map fun l =>
      String.ofList l.name := by
  induction ps generalizing n with
  | nil => rfl
  | cons piece ps ih =>
    cases piece with
    | inl c => exact ih _
    | inr l => exact congrArg (List.cons _) (ih _)

/-- Without their places, these are the names that are collected. -/
lemma map_snd_placedProps (script : List Char) :
    (placedProps script).map Prod.snd = propNames script := by
  have hhits {α : Type} (p : Pattern α) (s : List Char) :
      Text.hits p s = (pieces p s).filterMap Sum.getRight? := by
    refine List.filterMap_congr fun piece _ => ?_
    cases piece <;> rfl
  rw [placedProps, map_snd_placedNames, propNames, hhits, pieces_pattern, List.filterMap_map,
    List.map_filterMap, List.map_filterMap]
  refine List.filterMap_congr fun piece _ => ?_
  cases piece <;> rfl

/-- The places of a second part are moved by the size of the first one. -/
lemma placedNames_append (n : Nat) (ps qs : List (Char ⊕ PropLine)) :
    placedNames n (ps ++ qs) = placedNames n ps ++
      placedNames (n + Text.byteSize (writePieces PropLine.text ps)) qs := by
  induction ps generalizing n with
  | nil => rfl
  | cons piece ps ih =>
    cases piece with
    | inl c =>
      rw [List.cons_append, placedNames, ih, placedNames, Text.writePieces_inl, Text.byteSize,
        Nat.add_assoc]
    | inr l =>
      rw [List.cons_append, placedNames, ih, placedNames, Text.writePieces_inr,
        Text.byteSize_append, Nat.add_assoc, List.cons_append]

/-- The `let` of a line starts in its text. -/
lemma PropLine.byteSize_head_lt (l : PropLine) : Text.byteSize l.head < Text.byteSize l.text := by
  have hlet : Text.byteSize "let".toList = 3 := rfl
  simp only [text, Text.byteSize_append, hlet]
  omega

/-- The places of the names are between the ends of the text. -/
lemma le_of_mem_placedNames {n : Nat} {ps : List (Char ⊕ PropLine)} {x : Nat × String}
    (h : x ∈ placedNames n ps) : n ≤ x.1 := by
  induction ps generalizing n with
  | nil => cases h
  | cons piece ps ih =>
    cases piece with
    | inl c => exact Nat.le_trans (Nat.le_add_right _ _) (ih h)
    | inr l =>
      rcases List.mem_cons.mp h with rfl | h
      · exact Nat.le_add_right _ _
      · exact Nat.le_trans (Nat.le_add_right _ _) (ih h)

/-- No two names stand at one place. -/
lemma pairwise_placedNames (n : Nat) (ps : List (Char ⊕ PropLine)) :
    (placedNames n ps).Pairwise fun x y => x.1 < y.1 := by
  induction ps generalizing n with
  | nil => exact .nil
  | cons piece ps ih =>
    cases piece with
    | inl c => exact ih _
    | inr l =>
      refine List.pairwise_cons.mpr ⟨fun x hx => ?_, ih _⟩
      have hplace := le_of_mem_placedNames hx
      have hhead := l.byteSize_head_lt
      show n + Text.byteSize l.head < x.1
      omega

/-- A name is that of a line. -/
lemma mem_placedNames_iff {n : Nat} {ps : List (Char ⊕ PropLine)} {x : Nat × String} :
    x ∈ placedNames n ps ↔ ∃ front l more, ps = front ++ .inr l :: more ∧
      x = (n + Text.byteSize (writePieces PropLine.text front ++ l.head),
        String.ofList l.name) := by
  constructor
  · intro h
    induction ps generalizing n with
    | nil => cases h
    | cons piece ps ih =>
      cases piece with
      | inl c =>
        obtain ⟨front, l, more, rfl, rfl⟩ := ih h
        refine ⟨.inl c :: front, l, more, rfl, ?_⟩
        rw [Text.writePieces_inl, List.cons_append, Text.byteSize, Nat.add_assoc]
      | inr l =>
        rcases List.mem_cons.mp h with rfl | h
        · exact ⟨[], l, ps, rfl, rfl⟩
        · obtain ⟨front, l', more, rfl, rfl⟩ := ih h
          refine ⟨.inr l :: front, l', more, rfl, ?_⟩
          rw [Text.writePieces_inr, List.append_assoc, Text.byteSize_append l.text, Nat.add_assoc]
  · rintro ⟨front, l, more, rfl, rfl⟩
    rw [placedNames_append, placedNames, Text.byteSize_append, Nat.add_assoc]
    exact List.mem_append_right _ List.mem_cons_self

/-! ## Lines that declare -/

/-- A line of the script starts with `export`, `let` and a name, with white space between them; its
`let` starts at byte `place`. -/
def LineDeclares (script : List Char) (place : Nat) (name : String) : Prop :=
  ∃ before l rest, script = before ++ (PropLine.text l ++ rest) ∧ EndsLine before ∧ l.Valid ∧
    (∀ c ∈ rest.head?, isNamePart c = false) ∧ place = Text.byteSize (before ++ l.head) ∧
      name = String.ofList l.name

/-- A line starts behind a text that ends one. -/
lemma startsLine_iff : Text.startsLine true s = true ↔ EndsLine s := by
  induction s using List.reverseRecOn with
  | nil => exact iff_of_true rfl (.inl rfl)
  | append_singleton t c ih =>
    rw [Text.startsLine_append, Text.endsLine_snoc_iff]
    exact decide_eq_true_iff

/-- Each prop is declared by a line. -/
lemma lineDeclares_of_mem {place : Nat} {name : String} (h : (place, name) ∈ placedProps script) :
    LineDeclares script place name := by
  obtain ⟨front, l, more, hpieces, heq⟩ := mem_placedNames_iff.mp h
  obtain ⟨hline, hvalid, -, hrest⟩ :=
    PropLine.pattern_eq_some_iff.mp (Text.match_of_pieces PropLine.reads hpieces)
  obtain ⟨rfl, rfl⟩ := Prod.mk.inj heq
  refine ⟨_, l, _, ?_, startsLine_iff.mp hline, hvalid, hrest, by rw [Nat.zero_add], rfl⟩
  rw [← Text.writePieces_inr, ← Text.writePieces_append, ← hpieces, writePieces_propLines]

/-! ## Lines in other lines -/

/-- A character that is not in the first part of a text is behind that part. -/
lemma exists_behind {a r u v : List Char} {c : Char} (h : a ++ r = u ++ c :: v) (hc : c ∉ a) :
    ∃ u', u = a ++ u' ∧ r = u' ++ c :: v := by
  rcases List.append_eq_append_iff.mp h with ⟨u', hu, hr⟩ | ⟨x, rfl, hx⟩
  · exact ⟨u', hu, hr⟩
  · cases x with
    | nil => exact ⟨[], by simp, hx.symm⟩
    | cons d x =>
      obtain ⟨rfl, -⟩ := List.cons.inj hx
      exact absurd (List.mem_append_right _ List.mem_cons_self) hc

/-- What starts a name may go on in one. -/
lemma isNamePart_of_isNameStart {c : Char} (h : isNameStart c = true) : isNamePart c = true := by
  simp only [isNameStart, Bool.or_eq_true, beq_iff_eq] at h
  rcases h with (h | rfl) | rfl
  · have halphanum : c.isAlphanum = true := by rw [Char.isAlphanum, h, Bool.true_or]
    rw [isNamePart, Text.isWord, if_pos (Script.Lexer.toNat_lt_of_isAlphanum halphanum), h]
    rfl
  · decide
  · decide

/-- Spaces and tabs are white space. -/
lemma isBlank_of_isSpaceOrTab {c : Char} (h : isSpaceOrTab c = true) : isBlank c = true := by
  simp only [isSpaceOrTab, Bool.or_eq_true, beq_iff_eq] at h
  rcases h with rfl | rfl <;> decide

namespace PropLine

variable {l : PropLine}

/-- All of a name is made of the characters of names. -/
lemma Valid.isNamePart (h : l.Valid) : ∀ c ∈ l.name, isNamePart c = true := by
  obtain ⟨c, cs, hname, hc, hcs⟩ := h.name
  rw [hname]
  rintro d (_ | ⟨_, hd⟩)
  exacts [isNamePart_of_isNameStart hc, hcs d hd]

/-- A name stands on one line. -/
lemma Valid.not_mem_name (h : l.Valid) : '\n' ∉ l.name := fun hmem => by
  have hpart := h.isNamePart _ hmem
  rw [isNamePart_of_isBlank (by decide)] at hpart
  cases hpart

/-- Behind a line break in a line there are blanks, and then `let` or the name. -/
lemma Valid.behind_lineBreak (h : l.Valid) {u v : List Char} (htext : l.text = u ++ '\n' :: v) :
    ∃ blanks, (∀ c ∈ blanks, isBlank c = true) ∧
      (v = blanks ++ ("let".toList ++ l.space ++ l.name) ∨ v = blanks ++ l.name) := by
  have hindent : '\n' ∉ l.indent ++ "export".toList := by
    rw [List.mem_append, not_or]
    refine ⟨fun hmem => ?_, by decide⟩
    cases h.indent _ hmem
  have hgap : l.text = (l.indent ++ "export".toList) ++
      (l.gap ++ ("let".toList ++ (l.space ++ l.name))) := by
    simp only [text, head, List.append_assoc]
  rw [hgap] at htext
  obtain ⟨u₁, -, hbehind⟩ := exists_behind htext hindent
  rcases List.append_eq_append_iff.mp hbehind with ⟨u₂, -, hlet⟩ | ⟨x, hx, hv⟩
  · obtain ⟨u₃, -, hspace⟩ := exists_behind hlet (by decide)
    rcases List.append_eq_append_iff.mp hspace with ⟨y, -, hname⟩ | ⟨y, hy, hv⟩
    · exact absurd (hname ▸ List.mem_append_right _ List.mem_cons_self) h.not_mem_name
    · cases y with
      | nil =>
        have hname : l.name = '\n' :: v := hv.symm
        exact absurd (by rw [hname]; exact List.mem_cons_self) h.not_mem_name
      | cons d y =>
        obtain ⟨-, rfl⟩ := List.cons.inj hv
        refine ⟨y, fun c hc => h.space c ?_, .inr rfl⟩
        rw [hy]
        exact List.mem_append_right _ (List.mem_cons_of_mem _ hc)
  · cases x with
    | nil => cases hv
    | cons d x =>
      obtain ⟨-, rfl⟩ := List.cons.inj hv
      refine ⟨x, fun c hc => h.gap c ?_, .inl (by simp)⟩
      rw [hx]
      exact List.mem_append_right _ (List.mem_cons_of_mem _ hc)

end PropLine

/-- A line that begins in another line is taken for the end of it: its `export` is the name. -/
lemma PropLine.Valid.name_eq_export {l l' : PropLine} {u v rest' : List Char} (hl : l.Valid)
    (hl' : l'.Valid) (htext : l'.text = u ++ '\n' :: v)
    (hrest : ∀ c ∈ rest'.head?, PropDeclaration.isNamePart c = false)
    (h : v ++ rest' = l.text ++ rest) :
    l'.name = "export".toList ∧ ∃ c cs, rest' = c :: cs ∧ isBlank c = true := by
  have hindent : ∀ c ∈ l.indent, isBlank c = true :=
    fun c hc => isBlank_of_isSpaceOrTab (hl.indent c hc)
  have hspan := span_append (t := "export".toList ++ l.gap ++
    ("let".toList ++ l.space ++ (l.name ++ rest))) hindent (by rintro _ ⟨⟩; decide)
  rw [l.text_append] at h
  rw [← h] at hspan
  obtain ⟨blanks, hblanks, rfl | rfl⟩ := hl'.behind_lineBreak htext
  · have hlet := span_append (t := "let".toList ++ l'.space ++ l'.name ++ rest') hblanks
      (by rintro _ ⟨⟩; decide)
    rw [← List.append_assoc] at hlet
    have hstart := hlet.2.symm.trans hspan.2
    cases (List.cons.inj hstart).1
  · have hname := span_append hblanks (hl'.head?_name rest')
    rw [← List.append_assoc] at hname
    have hstart := hname.2.symm.trans hspan.2
    rw [List.append_assoc] at hstart
    obtain ⟨d, gap, hgap⟩ := List.exists_cons_of_ne_nil hl.gap_ne
    have hd : isBlank d = true := hl.gap d (by rw [hgap]; exact List.mem_cons_self)
    have hexport := span_append (s := "export".toList) (p := PropDeclaration.isNamePart)
      (t := l.gap ++ ("let".toList ++ l.space ++ (l.name ++ rest)))
      (List.all_eq_true.mp (by decide))
      (by rw [hgap]; rintro _ ⟨⟩; exact isNamePart_of_isBlank hd)
    have hname' := span_append hl'.isNamePart hrest
    rw [hstart] at hname'
    refine ⟨hname'.1.symm.trans hexport.1, d, gap ++ ("let".toList ++ l.space ++ (l.name ++ rest)),
      ?_, hd⟩
    rw [← hname'.2, hexport.2, hgap, List.cons_append]

/-- A line is passed over if `export` in it was taken for the name of a line in front of it. -/
lemma mem_of_lineDeclares {place : Nat} {name : String} (h : LineDeclares script place name) :
    (place, name) ∈ placedProps script ∨
      ∃ before l c rest, script = before ++ (PropLine.text l ++ c :: rest) ∧ l.Valid ∧
        l.name = "export".toList ∧ isBlank c = true ∧
          (Text.byteSize (before ++ l.head), "export") ∈ placedProps script := by
  obtain ⟨before, l, rest, hscript, hline, hvalid, hrest, rfl, rfl⟩ := h
  have hmem {front more : List (Char ⊕ PropLine)} {l : PropLine}
      (hpieces : propLines script = front ++ .inr l :: more) :
      (Text.byteSize (writePieces PropLine.text front ++ l.head), String.ofList l.name) ∈
        placedProps script :=
    mem_placedNames_iff.mpr ⟨front, l, more, hpieces, by rw [Nat.zero_add]⟩
  have htext := writePieces_propLines script
  rw [hscript] at htext
  cases Text.meets_of_writePieces htext with
  | between front hpieces hfront hmore =>
    rw [← hscript] at hpieces
    have hcut := Text.cutFrom_eq_append PropLine.reads hpieces
    rw [hfront, hmore, startsLine_iff.mpr hline] at hcut
    obtain ⟨more, hmatch⟩ := Text.cutFrom_of_match PropLine.reads (hvalid.pattern_text hrest)
    rw [hcut, hmatch] at hpieces
    left
    rw [← hfront]
    exact hmem hpieces
  | @inside front more l' u v hpieces hfront hvalue hmore hu hv =>
    rw [← hscript] at hpieces
    obtain ⟨-, hvalid', -, hrest'⟩ :=
      PropLine.pattern_eq_some_iff.mp (Text.match_of_pieces PropLine.reads hpieces)
    obtain ⟨t, c, rfl⟩ := (List.eq_nil_or_concat u).resolve_left hu
    rw [List.concat_eq_append] at hfront hvalue
    obtain rfl : c = '\n' := by
      rwa [← hfront, ← List.append_assoc, Text.endsLine_snoc_iff] at hline
    rw [List.append_assoc, List.singleton_append] at hvalue
    obtain ⟨hname, d, ds, hmore', hd⟩ := hvalid.name_eq_export hvalid' hvalue hrest' hmore
    refine .inr ⟨writePieces PropLine.text front, l', d, ds, ?_, hvalid', hname, hd, ?_⟩
    · rw [← hmore', ← Text.writePieces_inr, ← Text.writePieces_append, ← hpieces,
        writePieces_propLines]
    · have hexport := hmem hpieces
      rwa [hname] at hexport

end LiveBundle.Component
