import LiveBundle.Proofs.Component.Plain
import LiveBundle.Proofs.Component.Sections
import LiveBundle.Proofs.Text.Frame

/-!
# What a failure of a component points at

A component fails for a block that is not closed or for a brace of its markup. The failure names the
line and the column of that character in the source, also where blocks were blanked in front of it,
and the caret of its frame stands under it.

* `Culprit` says what is wrong with a source, and at which character;
* `Diagnostic.at_pointsAt`: a failure at the offset of a character points at it;
* `sections_and_culprits`: what the markup keeps of the source, and what failures point at.
-/

namespace LiveBundle

open Text (HoldsAt byteSize writePieces)

/-- The place and the frame of a failure are those of a character: the line and the column are the
character's, and the frame ends with its line and a single caret below it, as far to the right as
the character. -/
def Diagnostic.PointsAt (d : Diagnostic) (file source : String) (offset : Nat) (c : Char) : Prop :=
  ∃ l : Text.Line, l.source = source.toList ∧ l.offset = offset ∧ l.char = c ∧
    d.stack = some ("    at " ++ file ++ ":" ++ toString l.number ++ ":" ++ toString l.column) ∧
    ∃ frame shown, d.frame = some frame ∧ Text.fields '\n' frame.toList =
      shown ++ [l.label ++ (l.front ++ l.char :: l.behind),
        List.replicate (l.label.length + l.front.length) ' ' ++ ['^']]

lemma Diagnostic.at_pointsAt {source : String} {offset : Nat} {c : Char}
    (h : HoldsAt source.toList offset c) (hfeed : c ≠ '\n') (hreturn : c ≠ '\r')
    (message file : String) :
    (Diagnostic.at message file source offset).PointsAt file source offset c := by
  obtain ⟨l, hsource, rfl, rfl⟩ := h.exists_line hfeed hreturn
  obtain ⟨shown, hframe⟩ := Text.Line.fields_frame hsource
  refine ⟨l, hsource, rfl, rfl, ?_, Text.frame source l.number l.column, shown, ?_, hframe⟩
  · rw [Diagnostic.at, Text.Line.lineColumn_eq hsource]
  · rw [Diagnostic.at, Text.Line.lineColumn_eq hsource]

namespace Component

open Text.Utf8 (encode)
open Template (Fault)

variable {styleCompiler : Style.Compiler} {source file filename message : String} {offset : Nat}
  {c : Char} {d : Diagnostic} {sections : Sections}

/-- What is wrong with a source, as the message says it: the offset of the character that is at
fault, and that character. -/
inductive Culprit (source : List Char) : Nat → Char → String → Prop
  /-- The opening tag behind characters and closed blocks, without a closing tag of its kind. -/
  | block {front more : List (Char ⊕ Region)} {isScript : Bool}
      {behind name attributes body : List Char}
      (cut : Text.pieces Region.pattern source =
        front ++ .inr (.unclosed isScript ('<' :: behind)) :: more)
      (closed : Sections.AllClosed front)
      (text : source = writePieces Region.text front ++ '<' :: behind)
      (opens : Block.openTag? [Block.scriptName, Block.styleName] ('<' :: behind) =
        some (name, attributes, body))
      (unclosed : Block.untilClose (Block.closingName name) body = none) :
      Culprit source (byteSize (writePieces Region.text front)) '<'
        (Sections.unclosedText (Block.namesScript name))
  /-- The first brace that has a fault: the markup in front of it is read. -/
  | brace {sections : Sections} {fault : Fault} {before behind : List Char} {c : Char}
      (split : Sections.ofPieces (Text.pieces Region.pattern source) = .ok sections)
      (text : sections.markup = before ++ c :: behind)
      (first : ∃ parts, Template.parse before = .ok parts)
      (fault_at : fault.At c behind) : Culprit source (byteSize before) c fault.message

lemma split_eq_ok (h : Sections.split source file = .ok sections) :
    Sections.ofPieces (Text.pieces Region.pattern source.toList) = .ok sections := by
  unfold Sections.split at h
  split at h
  · rename_i sections' hpieces
    cases h
    exact hpieces
  · cases h

/-- A source that cannot be cut has a block that is not closed. -/
lemma split_error (h : Sections.split source file = .error d) :
    ∃ offset message, d = Diagnostic.at message file source offset ∧
      Culprit source.toList offset '<' message := by
  unfold Sections.split at h
  split at h
  · cases h
  · rename_i offset isScript hpieces
    cases h
    obtain ⟨front, text, more, hcut, hclosed, rfl⟩ := Sections.ofPieces_error hpieces
    have hsource := Text.writePieces_pieces Region.reads source.toList
    have hfound := Text.match_of_pieces Region.reads hcut
    obtain ⟨-, hmore, name, attributes, body, hopen, hclose, rfl⟩ := Region.pattern_unclosed hfound
    -- An open block reaches to the end of the source.
    rw [hmore, List.append_nil] at hopen
    rw [hcut, Text.writePieces_append, Text.writePieces_inr, hmore, List.append_nil] at hsource
    obtain ⟨behind, rfl⟩ : ∃ behind, text = '<' :: behind :=
      ⟨_, Block.openTag?_text hopen⟩
    exact ⟨_, _, rfl, .block hcut hclosed hsource.symm hopen hclose⟩

/-- Compiling fails for one of these reasons only. -/
lemma compile_error (h : compile styleCompiler source filename = .error d) :
    ∃ offset c message, d = Diagnostic.at message (Path.fileName filename) source offset ∧
      Culprit source.toList offset c message := by
  cases hsplit : Sections.split source (Path.fileName filename) with
  | error d' =>
    rw [compile_of_uncut hsplit] at h
    cases h
    obtain ⟨offset, message, hd, hculprit⟩ := split_error hsplit
    exact ⟨offset, '<', message, hd, hculprit⟩
  | ok sections =>
    cases hparse : Template.parse sections.markup with
    | error f =>
      obtain ⟨fault, offset⟩ := f
      rw [compile_of_fault hsplit hparse] at h
      cases h
      obtain ⟨before, c, behind, htext, rfl, hfirst, hat⟩ := Template.parse_error_at hparse
      exact ⟨_, c, _, rfl, .brace (split_eq_ok hsplit) htext hfirst hat⟩
    | ok parts =>
      rw [compile_of_ok hsplit hparse] at h
      cases h

namespace Culprit

/-- Only an angle bracket and the braces are at fault. -/
lemma char_mem {source : List Char} (h : Culprit source offset c message) :
    c ∈ ['<', '\x7b', '\x7d'] := by
  cases h with
  | block => decide
  | brace _ _ _ hat => cases hat <;> decide

/-- What is at fault stands in the source, also if it was found in the markup. -/
lemma holdsAt {source : List Char} (h : Culprit source offset c message) :
    HoldsAt source offset c := by
  have hmem := h.char_mem
  cases h with
  | block _ _ htext => exact ⟨_, _, htext, rfl⟩
  | @brace sections _ before behind _ hsplit htext _ _ =>
    have hmarkup : HoldsAt (Sections.blanked (Text.pieces Region.pattern source))
        (byteSize before) c := by
      rw [← (Sections.markup_eq hsplit).1]
      exact ⟨before, behind, htext, rfl⟩
    have hsource := Sections.holdsAt_of_blanked hmarkup (by rintro rfl; revert hmem; decide)
      (by rintro rfl; revert hmem; decide)
    rwa [Text.writePieces_pieces Region.reads] at hsource

end Culprit

/-- The markup of a source that can be cut has as many bytes as the source, its bytes outside of the
blocks, and line feeds where it has them. A source that does not compile has a culprit that the
failure is about, an angle bracket or a brace at which a character of the source begins, and the
failure points at it. -/
theorem sections_and_culprits (source filename : String) :
    (∀ file sections, Sections.split source file = .ok sections →
      (encode sections.markup).length = (encode source.toList).length ∧
      (∀ n : Nat, ¬Sections.Covered (Text.pieces Region.pattern source.toList) n →
        (encode sections.markup)[n]? = (encode source.toList)[n]?) ∧
      ∀ n : Nat, (encode sections.markup)[n]? = some 10 ↔ (encode source.toList)[n]? = some 10) ∧
    ∀ styleCompiler d, compile styleCompiler source filename = .error d →
      ∃ offset c, c ∈ ['<', '\x7b', '\x7d'] ∧ HoldsAt source.toList offset c ∧
        Culprit source.toList offset c d.message ∧
        d.PointsAt (Path.fileName filename) source offset c := by
  constructor
  · intro file sections hsplit
    obtain ⟨hmarkup, hclosed⟩ := Sections.markup_eq (split_eq_ok hsplit)
    have hsource := Text.writePieces_pieces Region.reads source.toList
    have hfeeds := Sections.map_newline_blanked (Text.pieces Region.pattern source.toList)
    rw [hsource, ← hmarkup] at hfeeds
    refine ⟨?_, fun n hn => ?_, fun n => ?_⟩
    · simpa using congrArg List.length hfeeds
    · have hbyte := Sections.getElem?_blanked hclosed hn
      rwa [hsource, ← hmarkup] at hbyte
    · have hfeed := congrArg (·[n]?) hfeeds
      simp only [List.getElem?_map] at hfeed
      have hten (byte? : Option Nat) : byte? = some 10 ↔ byte?.map (· == 10) = some true := by
        simp
      rw [hten, hten, hfeed]
  · intro styleCompiler d h
    obtain ⟨offset, c, message, rfl, hculprit⟩ := compile_error h
    have hmem := hculprit.char_mem
    exact ⟨offset, c, hmem, hculprit.holdsAt, hculprit, Diagnostic.at_pointsAt hculprit.holdsAt
      (by rintro rfl; revert hmem; decide) (by rintro rfl; revert hmem; decide) _ _⟩

/-- A blank expression behind a block with a character of two bytes, in a line that ends with a
carriage return. -/
def blankExpression : String := "<style>é</style>\r\n<p>\x7bx\x7d \x7b \x7d</p>\r\n"

/-- The failure of this component is told as the eighth character of the second line. -/
theorem sections_and_culprits_blank :
    ∃ d, compile (fun css => .ok css) blankExpression "app/App.svelte" = .error d ∧
      d.stack = some "    at App.svelte:2:8" ∧
      ∃ offset c, HoldsAt blankExpression.toList offset c ∧
        d.PointsAt (Path.fileName "app/App.svelte") blankExpression offset c := by
  have hsplit : Sections.split blankExpression (Path.fileName "app/App.svelte") =
      .ok ⟨[], ['é', '\n'], List.replicate 17 ' ' ++ blankExpression.toList.drop 16⟩ := by
    rfl
  have hparse : Template.parse (List.replicate 17 ' ' ++ blankExpression.toList.drop 16) =
      .error (.emptyExpression, 26) := by
    rfl
  have hcompile : compile (fun css => .ok css) blankExpression "app/App.svelte" =
      .error (Diagnostic.at "Empty expression" (Path.fileName "app/App.svelte")
        blankExpression 26) := compile_of_fault hsplit hparse
  obtain ⟨offset, c, -, hholds, -, hpoints⟩ :=
    (sections_and_culprits blankExpression "app/App.svelte").2 _ _ hcompile
  exact ⟨_, hcompile, by decide +kernel, offset, c, hholds, hpoints⟩

end Component

end LiveBundle
