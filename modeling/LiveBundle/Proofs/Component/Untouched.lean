import LiveBundle.Proofs.Component.Rewritten

/-!
# What preprocessing leaves

Preprocessing looks for style blocks in the text of a component, the sections of the component are
found by going through it once. The two agree unless a text in a script looks like a style block: the
search does not know that it is in a script.

* `Region.Becomes` are the regions that are written anew, `exists_related` finds them;
* `cut_related`: they are regions again, at the same places;
* `scriptOf`, `bareMarkup`: the sections beside the styles, from the pieces;
* `preprocess_frame`: script and markup stay if every block that is written anew is a region of its
  own, and the script does not if one begins in a script.
-/

namespace LiveBundle.Component

open Text (writePieces placed)
open Block (styleName scriptName)

variable {styleCompiler : Style.Compiler} {languages : List String} {source filename : String}
  {s t : List Char} {b m r : Block} {n : Nat} {ps : List (Char ⊕ Block)}
  {qs qs' : List (Char ⊕ Region)}

/-! ## Regions that are written anew -/

/-- The region stays, or it is a recognized block and written anew. -/
inductive Region.Becomes (styleCompiler : Style.Compiler) (languages : List String) :
    Region → Region → Prop
  | same (region : Region) : Becomes styleCompiler languages region region
  | rewritten {b : Block} (recognized : b.Recognized languages) (tagged : b.Tagged [styleName])
      (spaced : b.Spaced) : Becomes styleCompiler languages (.closed b)
        (.closed (b.rewritten styleCompiler languages))

/-- Of the blocks that are regions the first is the first region, or all are behind it. -/
lemma begins_or_behind {region : Region} (hne : region.text ≠ [])
    (hplaces : ∀ x ∈ placed Block.text n ps,
      (x.1, .closed x.2) ∈ placed Region.text n (.inr region :: qs)) :
    (∃ b more, ps = .inr b :: more ∧ region = .closed b) ∨
      ∀ x ∈ placed Block.text n ps, n + region.text.length ≤ x.1 := by
  cases ps with
  | nil => exact .inr fun x hx => absurd hx List.not_mem_nil
  | cons piece ps =>
    cases piece with
    | inl c =>
      refine .inr fun x hx => ?_
      have hlt : n + 1 ≤ x.1 := (Text.le_of_mem_placed (n := n + 1) hx).1
      exact (Text.le_of_mem_placed (Text.mem_placed_behind (hplaces x hx) hlt)).1
    | inr b =>
      rcases List.mem_cons.mp (hplaces _ List.mem_cons_self) with heq | hbehind
      · exact .inl ⟨b, ps, rfl, (Prod.mk.inj heq).2.symm⟩
      · have hle : n + region.text.length ≤ n := (Text.le_of_mem_placed hbehind).1
        have hpos := List.length_pos_iff.mpr hne
        omega

/-- Blocks that are written anew are regions at their places. -/
lemma exists_related (styleCompiler : Style.Compiler)
    (hps : ∀ b, .inr b ∈ ps → b.Recognized languages ∧ b.Tagged [styleName] ∧ b.Spaced)
    (hqs : ∀ region, .inr region ∈ qs → region.text ≠ [])
    (htext : writePieces Block.text ps = writePieces Region.text qs)
    (hplaces : ∀ x ∈ placed Block.text n ps, (x.1, .closed x.2) ∈ placed Region.text n qs) :
    ∃ qs', Related (Region.Becomes styleCompiler languages) qs qs' ∧
      writePieces Region.text qs' =
        writePieces (fun b => (b.rewritten styleCompiler languages).text) ps := by
  induction qs generalizing n ps with
  | nil =>
    cases ps with
    | nil => exact ⟨[], .nil, rfl⟩
    | cons piece ps =>
      cases piece with
      | inl c => cases htext
      | inr b => exact absurd (hplaces _ List.mem_cons_self) List.not_mem_nil
  | cons piece qs ih =>
    have hqs' (region : Region) (h : .inr region ∈ qs) : region.text ≠ [] :=
      hqs region (List.mem_cons_of_mem _ h)
    cases piece with
    | inl c =>
      cases ps with
      | nil => cases htext
      | cons piece ps =>
        cases piece with
        | inl d =>
          obtain ⟨rfl, hrest⟩ := List.cons.inj htext
          obtain ⟨qs', hrelated, hwritten⟩ :=
            ih (fun b hb => hps b (List.mem_cons_of_mem _ hb)) hqs' hrest hplaces
          exact ⟨.inl d :: qs', .cons (.inl rfl) hrelated, congrArg (d :: ·) hwritten⟩
        | inr b =>
          -- The region would have to begin with this character.
          have hle : n + 1 ≤ n :=
            (Text.le_of_mem_placed (n := n + 1) (hplaces _ List.mem_cons_self)).1
          exact absurd hle (Nat.not_succ_le_self n)
    | inr region =>
      have hne := hqs region List.mem_cons_self
      have hpos : 0 < region.text.length := List.length_pos_iff.mpr hne
      rcases begins_or_behind hne hplaces with ⟨b, more, rfl, rfl⟩ | hbehind
      · have hrest : writePieces Block.text more = writePieces Region.text qs :=
          List.append_cancel_left htext
        have hplaces' (x) (hx : x ∈ placed Block.text (n + b.text.length) more) :
            (x.1, .closed x.2) ∈ placed Region.text (n + b.text.length) qs := by
          have hlt : n < x.1 :=
            Nat.lt_of_lt_of_le (Nat.lt_add_of_pos_right hpos) (Text.le_of_mem_placed hx).1
          exact Text.mem_placed_behind (hplaces x (List.mem_cons_of_mem _ hx)) hlt
        obtain ⟨qs', hrelated, hwritten⟩ :=
          ih (fun b hb => hps b (List.mem_cons_of_mem _ hb)) hqs' hrest hplaces'
        obtain ⟨hrecognized, htagged, hspaced⟩ := hps b List.mem_cons_self
        refine ⟨_, .cons (.inr (.rewritten hrecognized htagged hspaced)) hrelated, ?_⟩
        rw [Text.writePieces_inr, hwritten, Text.writePieces_inr]
        rfl
      · -- The region is passed over.
        obtain ⟨more, rfl, hmore⟩ := Text.exists_chars htext hbehind
        have hplaces' (x) (hx : x ∈ placed Block.text (n + region.text.length) more) :
            (x.1, .closed x.2) ∈ placed Region.text (n + region.text.length) qs := by
          have hmem : x ∈ placed Block.text n (region.text.map .inl ++ more) := by
            rwa [Text.placed_append, Text.placed_map_inl, Text.writePieces_map_inl]
          have hlt : n < x.1 :=
            Nat.lt_of_lt_of_le (Nat.lt_add_of_pos_right hpos) (hbehind x hmem)
          exact Text.mem_placed_behind (hplaces x hmem) hlt
        obtain ⟨qs', hrelated, hwritten⟩ :=
          ih (fun b hb => hps b (List.mem_append_right _ hb)) hqs' hmore hplaces'
        refine ⟨.inr region :: qs', .cons (.inr (.same region)) hrelated, ?_⟩
        rw [Text.writePieces_inr, hwritten, Text.writePieces_append, Text.writePieces_map_inl]

lemma Region.Becomes.opens {region region' : Region}
    (h : region.Becomes styleCompiler languages region') :
    region = region' ∨ Opens region.text ∧ Opens region'.text := by
  cases h with
  | same => exact .inl rfl
  | rewritten => exact .inr ⟨Block.opens_text _, Block.opens_text _⟩

lemma Block.Tagged.mono {names names' : List (List Char)} (h : b.Tagged names)
    (hsub : names ⊆ names') : b.Tagged names' :=
  ⟨h.name.mono hsub, h.attributes, h.closing, h.body⟩

/-- Regions that are written anew are found again, and no others, if what follows is no different
for the tags in front of it. -/
lemma cut_related {us us' : List (Char ⊕ Region)}
    (h : Related (Region.Becomes styleCompiler languages) qs qs')
    (hcompiler : NeverCloses styleCompiler)
    (hcut : Text.Cut Region.pattern Region.text (qs ++ us)) (hclosed : Sections.AllClosed qs)
    (hcut' : Text.Cut Region.pattern Region.text us')
    (halike : Alike (writePieces Region.text us) (writePieces Region.text us')) :
    Text.Cut Region.pattern Region.text (qs' ++ us') := by
  induction h with
  | nil => exact hcut'
  | cons hpiece hrest ih =>
    rename_i piece piece' qs qs'
    cases hpiece with
    | inl hc =>
      subst hc
      refine ⟨?_, ih hcut.2 hclosed.tail⟩
      have hopen := Region.pattern_eq_none_iff.mp hcut.1
      rw [List.append_eq, Text.writePieces_append] at hopen ⊢
      have hsame := alike_writePieces (fun _ _ => Region.Becomes.opens) hrest halike
      exact Region.pattern_eq_none_iff.mpr (hsame.openTag?_eq_none Block.areNames_both hopen)
    | inr hregion =>
      refine ⟨?_, ih hcut.2 hclosed.tail⟩
      cases hregion with
      | same =>
        obtain ⟨b, rfl⟩ := hclosed _ List.mem_cons_self
        exact Region.pattern_eq_some_iff.mpr ⟨rfl, (Region.pattern_eq_some_iff.mp hcut.1).2⟩
      | rewritten hrecognized htagged hspaced =>
        have hnew := hrecognized.tagged_rewritten htagged hcompiler hspaced
        exact Region.pattern_eq_some_iff.mpr ⟨rfl, hnew.mono (by simp)⟩

/-! ## Sections from pieces -/

/-- The bodies of the scripts, or of the styles. -/
def bodies (isScript : Bool) (qs : List (Char ⊕ Region)) : List Char :=
  qs.flatMap fun
    | .inr (.closed b) => if Block.namesScript b.name = isScript then b.body ++ ['\n'] else []
    | _ => []

/-- The source with spaces in place of the scripts and nothing in place of the styles. -/
def bareMarkup (qs : List (Char ⊕ Region)) : List Char :=
  qs.flatMap fun
    | .inl c => [c]
    | .inr (.closed b) => if Block.namesScript b.name then blank b.text else []
    | .inr (.unclosed _ _) => []

lemma ofPieces_of_allClosed (h : Sections.AllClosed qs) :
    Sections.ofPieces qs = .ok ⟨bodies true qs, bodies false qs, Sections.blanked qs⟩ := by
  induction qs with
  | nil => rfl
  | cons piece qs ih =>
    cases piece with
    | inl c =>
      rw [Sections.ofPieces, ih h.tail]
      rfl
    | inr region =>
      obtain ⟨b, rfl⟩ := h region List.mem_cons_self
      rw [Sections.ofPieces, ih h.tail]
      cases hscript : Block.namesScript b.name <;>
      · simp [bodies, Sections.blanked, writePieces, hscript, Region.text]

/-- The pieces of the regions of a source. -/
def regionPieces (source : String) : List (Char ⊕ Region) :=
  Text.pieces Region.pattern source.toList

lemma regionPieces_cut (source : String) :
    writePieces Region.text (regionPieces source) = source.toList ∧
      Text.Cut Region.pattern Region.text (regionPieces source) :=
  (Text.pieces_eq_iff Region.reads Region.unanchored).mp rfl

lemma split_eq_ok_iff {sections : Sections} : Sections.split source filename = .ok sections ↔
    Sections.AllClosed (regionPieces source) ∧ sections = ⟨bodies true (regionPieces source),
      bodies false (regionPieces source), Sections.blanked (regionPieces source)⟩ := by
  unfold Sections.split
  rw [← regionPieces]
  constructor
  · intro h
    split at h
    · rename_i hpieces
      obtain rfl := Except.ok.inj h
      have hclosed := (Sections.markup_eq hpieces).2
      rw [ofPieces_of_allClosed hclosed] at hpieces
      exact ⟨hclosed, (Except.ok.inj hpieces).symm⟩
    · cases h
  · rintro ⟨hclosed, rfl⟩
    rw [ofPieces_of_allClosed hclosed]

lemma bodies_append (isScript : Bool) (qs us : List (Char ⊕ Region)) :
    bodies isScript (qs ++ us) = bodies isScript qs ++ bodies isScript us := List.flatMap_append

lemma bodies_script (hscript : Block.namesScript b.name = true) (qs : List (Char ⊕ Region)) :
    bodies true (.inr (.closed b) :: qs) = b.body ++ '\n' :: bodies true qs := by
  simp [bodies, hscript]

/-- Writing styles anew changes no other section. -/
lemma related_sections (h : Related (Region.Becomes styleCompiler languages) qs qs')
    (hclosed : Sections.AllClosed qs) : Sections.AllClosed qs' ∧
      bodies true qs' = bodies true qs ∧ bareMarkup qs' = bareMarkup qs := by
  induction h with
  | nil => exact ⟨.nil, rfl, rfl⟩
  | cons hpiece hrest ih =>
    rename_i piece piece' qs qs'
    obtain ⟨hclosed', hscript, hmarkup⟩ := ih hclosed.tail
    cases hpiece with
    | inl hc =>
      subst hc
      exact ⟨hclosed'.inl _, hscript, congrArg (_ :: ·) hmarkup⟩
    | inr hregion =>
      cases hregion with
      | same =>
        obtain ⟨b, rfl⟩ := hclosed _ List.mem_cons_self
        exact ⟨hclosed'.block b, congrArg (_ ++ ·) hscript, congrArg (_ ++ ·) hmarkup⟩
      | rewritten hrecognized htagged hspaced =>
        obtain ⟨front, a, back, -, hrewritten⟩ := hrecognized.exists_rewritten styleCompiler
        have hnew : Block.namesScript styleName = false := rfl
        refine ⟨hclosed'.block _, ?_, ?_⟩
        · rw [hrewritten]
          simpa [bodies, hnew, htagged.name.not_namesScript] using hscript
        · rw [hrewritten]
          simpa [bareMarkup, hnew, htagged.name.not_namesScript] using hmarkup

/-! ## Places of blocks -/

/-- The style blocks that preprocessing finds, with the numbers of characters in front of them. -/
def placedStyles (source : String) : List (Nat × Block) := placed Block.text 0 (stylePieces source)

/-- The regions of a source, with the numbers of characters in front of them. -/
def placedRegions (source : String) : List (Nat × Region) :=
  placed Region.text 0 (regionPieces source)

/-- The block is a region, at its place. -/
def IsRegion (source : String) (x : Nat × Block) : Prop :=
  (x.1, .closed x.2) ∈ placedRegions source

/-- The opening tag of the block is in the body of a script. -/
def InScript (source : String) (x : Nat × Block) : Prop :=
  ∃ k r, (k, .closed r) ∈ placedRegions source ∧ Block.namesScript r.name = true ∧
    k + (Block.openText r.name r.attributes).length ≤ x.1 ∧
    x.1 + (Block.openText x.2.name x.2.attributes).length ≤
      k + (Block.openText r.name r.attributes).length + r.body.length

/-- The pieces of a source with the recognized blocks as the only matches. -/
def recognizedPieces (languages : List String) (source : String) : List (Char ⊕ Block) :=
  Text.sift (Block.Recognized languages) Block.text (stylePieces source)

lemma writePieces_recognizedPieces (languages : List String) (source : String) :
    writePieces Block.text (recognizedPieces languages source) = source.toList := by
  rw [recognizedPieces, Text.writePieces_sift fun _ _ => rfl, (stylePieces_cut source).1]

lemma writePieces_rewritten_recognizedPieces :
    writePieces (fun b => (b.rewritten styleCompiler languages).text)
      (recognizedPieces languages source) =
        (preprocessAll styleCompiler languages source).toList := by
  rw [toList_preprocessAll, recognizedPieces, Text.writePieces_sift]
  intro b hb
  rw [Block.rewritten_of_not hb]

lemma mem_placed_recognizedPieces {x : Nat × Block} :
    x ∈ placed Block.text 0 (recognizedPieces languages source) ↔
      x ∈ placedStyles source ∧ x.2.Recognized languages := Text.mem_placed_sift

lemma of_mem_recognizedPieces
    (hspaced : ∀ b ∈ styleBlocks source, b.Recognized languages → b.Spaced)
    (h : .inr b ∈ recognizedPieces languages source) :
    b.Recognized languages ∧ b.Tagged [styleName] ∧ b.Spaced := by
  obtain ⟨hrecognized, hmem⟩ := Text.mem_sift h
  have hblock := mem_styleBlocks.mpr hmem
  exact ⟨hrecognized, tagged_of_mem hblock, hspaced b hblock hrecognized⟩

lemma Region.text_ne_nil {region : Region} (h : .inr region ∈ regionPieces source) :
    region.text ≠ [] := by
  obtain ⟨front, more, hsplit⟩ := List.append_of_mem h
  have hcut := (regionPieces_cut source).2
  rw [hsplit] at hcut
  exact (Region.reads hcut.of_append.1).2

/-- The regions of a preprocessed source, if every block that is written anew is one. -/
lemma regionPieces_preprocessAll (hclosed : Sections.AllClosed (regionPieces source))
    (hcompiler : NeverCloses styleCompiler)
    (hspaced : ∀ b ∈ styleBlocks source, b.Recognized languages → b.Spaced)
    (hplaces : ∀ x ∈ placedStyles source, x.2.Recognized languages →
      IsRegion source x) :
    Related (Region.Becomes styleCompiler languages) (regionPieces source)
      (regionPieces (preprocessAll styleCompiler languages source)) := by
  obtain ⟨hwrite, hcut⟩ := regionPieces_cut source
  have hplaces' (x) (hx : x ∈ placed Block.text 0 (recognizedPieces languages source)) :
      IsRegion source x := by
    obtain ⟨hmem, hrecognized⟩ := mem_placed_recognizedPieces.mp hx
    exact hplaces x hmem hrecognized
  obtain ⟨qs', hrelated, hwritten⟩ := exists_related styleCompiler
    (fun b => of_mem_recognizedPieces hspaced) (fun region => Region.text_ne_nil)
    ((writePieces_recognizedPieces languages source).trans hwrite.symm) hplaces'
  rw [← List.append_nil (regionPieces source)] at hcut
  have hnil : Text.Cut Region.pattern Region.text [] := trivial
  have hcut' := cut_related hrelated hcompiler hcut hclosed hnil (.refl [])
  rw [List.append_nil] at hcut'
  rw [writePieces_rewritten_recognizedPieces] at hwritten
  have hpieces : regionPieces (preprocessAll styleCompiler languages source) = qs' :=
    (Text.pieces_eq_iff Region.reads Region.unanchored).mpr ⟨hwritten, hcut'⟩
  rwa [hpieces]

/-! ## Blocks in scripts -/

/-- A line feed does not stand where a tag begins. -/
lemma not_both_at {x name name' front : List Char} (hlength : name.length = name'.length)
    (hname : '<' ∉ name) {i : Nat} (htag : (x ++ '<' :: name ++ front)[i]? = some '<')
    (hline : (x ++ '<' :: name' ++ front)[i]? = some '\n') : False := by
  rw [List.append_assoc, List.getElem?_append] at htag hline
  split at htag
  · rename_i hi
    rw [if_pos hi, htag] at hline
    cases hline
  · rename_i hi
    rw [if_neg hi] at hline
    generalize i - x.length = j at htag hline
    cases j with
    | zero => cases hline
    | succ j =>
      rw [List.cons_append, List.getElem?_cons_succ, List.getElem?_append] at htag hline
      split at htag
      · exact hname (List.mem_of_getElem? htag)
      · rename_i hj
        rw [if_neg (hlength ▸ hj), ← hlength, htag] at hline
        cases hline

/-- A closing tag that begins in attributes ends with them. -/
lemma Block.IsClosing.eq_attributes {name closing front e back u v : List Char}
    (h : Block.IsClosing name closing) (hname : '>' ∉ name) (hback : '>' ∉ back) (he : e ≠ [])
    (hend : back ++ ['>'] = front ++ e) (hclose : closing ++ u = e ++ v) : e = closing := by
  obtain ⟨c, rfl, hc⟩ := h.exists_front hname
  obtain ⟨d, last, rfl⟩ := (List.eq_nil_or_concat e).resolve_left he
  rw [List.concat_eq_append] at hend hclose ⊢
  rw [← List.append_assoc] at hend
  obtain ⟨rfl, hlast⟩ := List.append_inj' hend rfl
  cases hlast
  have hd : '>' ∉ d := fun h => hback (List.mem_append_right _ h)
  rw [List.append_assoc, List.append_assoc] at hclose
  rw [(Text.append_cons_inj hc hd hclose).1]

/-- No closing tag of a script begins behind the attribute: it would end with the attributes, and so
it would have been there before. -/
lemma no_closing_behind {front back x y f e closing u v : List Char} {a : LangAttribute}
    (htagged : m.Tagged [styleName]) (hfirst : FirstLang m.attributes front a back)
    (hbody : Block.IsBody scriptName (x ++ (Block.openText m.name m.attributes ++ y)))
    (hclosing : Block.IsClosing scriptName closing) (he : e ≠ [])
    (hend : back ++ ['>'] = f ++ e) (hclose : closing ++ u = e ++ v) : False := by
  have hback : '>' ∉ back := fun h => htagged.attributes.1 (by rw [hfirst.text]; simp [h])
  rw [hclosing.eq_attributes (by decide) hback he hend hclose] at hend
  have hold : x ++ (Block.openText m.name m.attributes ++ y) =
      x ++ '<' :: m.name ++ front ++ a.text ++ f ++ (closing ++ y) := by
    have hend' : back ++ '>' :: y = f ++ (closing ++ y) := by
      simpa using congrArg (· ++ y) hend
    rw [Block.openText, hfirst.text]
    simp [hend']
  have hnone := hbody (closing ++ y) ⟨_, hold.symm⟩
  rw [Block.closeTag?_eq_some_iff.mpr ⟨rfl, hclosing⟩] at hnone
  cases hnone

/-- No tag begins in front of the attribute where the body would end: there was no line feed. -/
lemma no_closing_ahead {x name name' front body f w t : List Char}
    (hlength : name.length = name'.length) (hname : '<' ∉ name)
    (hnew : x ++ '<' :: name ++ front = body ++ '<' :: f)
    (hsame : body ++ '\n' :: w = x ++ '<' :: name' ++ front ++ t) : False := by
  have hat {c : Char} {s : List Char} : (body ++ c :: s)[body.length]? = some c := by
    rw [List.getElem?_append_right (Nat.le_refl _), Nat.sub_self]
    rfl
  have htag := congrArg (·[body.length]?) hnew
  simp only [hat] at htag
  have hinside : body.length < (x ++ '<' :: name' ++ front).length := by
    have hsum := congrArg List.length hnew
    simp only [List.length_append, List.length_cons, hlength] at hsum ⊢
    omega
  have hline := congrArg (·[body.length]?) hsame
  simp only [hat, List.getElem?_append_left hinside] at hline
  exact not_both_at hlength hname htag hline.symm

/-- The body of a script does not stay the same if a block in it loses its attribute. -/
lemma script_changes (hm : m.Recognized languages) (htagged : m.Tagged [styleName])
    {x y body closing u v w w' : List Char}
    (hbody : Block.IsBody scriptName (x ++ (Block.openText m.name m.attributes ++ y)))
    (hclosing : Block.IsClosing scriptName closing)
    (hnew : body ++ (closing ++ u) =
      x ++ Block.openText (m.rewritten styleCompiler languages).name
        (m.rewritten styleCompiler languages).attributes ++ v)
    (hsame : body ++ '\n' :: w =
      x ++ (Block.openText m.name m.attributes ++ (y ++ '\n' :: w'))) : False := by
  have hlonger {e : List Char} (h : body = x ++ Block.openText
      (m.rewritten styleCompiler languages).name
        (m.rewritten styleCompiler languages).attributes ++ e) : False := by
    rw [h, List.append_assoc, List.append_assoc] at hsame
    exact hm.openText_ne htagged styleCompiler _ _ (List.append_cancel_left hsame)
  rcases List.append_eq_append_iff.mp hnew with ⟨e, hshort, hclose⟩ | ⟨e, hlong, -⟩
  swap
  · exact hlonger hlong
  obtain ⟨tail, htail, -⟩ := hclosing.exists_tail (by decide)
  obtain ⟨front, a, back, hfirst, hrewritten⟩ := hm.exists_rewritten styleCompiler
  obtain ⟨word, hword, hspells⟩ := htagged.name
  obtain rfl := List.mem_singleton.mp hword
  cases e with
  | nil => exact hlonger (e := []) (by rw [List.append_nil, hshort, List.append_nil])
  | cons d e =>
    obtain rfl : '<' = d := by
      rw [htail] at hclose
      exact (List.cons.inj hclose).1
    have hparts : x ++ Block.openText (m.rewritten styleCompiler languages).name
        (m.rewritten styleCompiler languages).attributes =
          x ++ '<' :: styleName ++ front ++ (back ++ ['>']) := by
      rw [hrewritten]
      simp [Block.openText]
    -- The closing tag begins behind the place of the attribute or in front of it.
    have hbehind {f : List Char} (hend : back ++ ['>'] = f ++ '<' :: e) : False :=
      no_closing_behind htagged hfirst hbody hclosing (List.cons_ne_nil _ _) hend hclose
    rw [hparts] at hshort
    rcases List.append_eq_append_iff.mp hshort with ⟨f, -, hend⟩ | ⟨f, hfront, hends⟩
    · exact hbehind hend
    · cases f with
      | nil => exact hbehind (f := []) hends.symm
      | cons d f =>
        obtain rfl : '<' = d := (List.cons.inj hends).1
        have hold : body ++ '\n' :: w = x ++ '<' :: m.name ++ front ++
            (a.text ++ back ++ '>' :: (y ++ '\n' :: w')) := by
          rw [hsame, Block.openText, hfirst.text]
          simp
        exact no_closing_ahead hspells.length_eq.symm (by decide) hfront hold

/-- A script around an opening tag. -/
lemma InScript.exists_split {a : List Char} (h : InScript source (a.length, m))
    (htext : source.toList = a ++ (Block.openText m.name m.attributes ++ t)) :
    ∃ front r more x y, regionPieces source = front ++ .inr (.closed r) :: more ∧
      Block.namesScript r.name = true ∧
      a = writePieces Region.text front ++ (Block.openText r.name r.attributes ++ x) ∧
      r.body = x ++ (Block.openText m.name m.attributes ++ y) := by
  have hsplit {a b c d : List Char} (h : a ++ b = c ++ d) (hle : a.length ≤ c.length) :
      ∃ e, c = a ++ e ∧ b = e ++ d := by
    obtain ⟨e, rfl⟩ := List.prefix_of_prefix_length_le ⟨b, h⟩ ⟨d, rfl⟩ hle
    rw [List.append_assoc] at h
    exact ⟨e, rfl, List.append_cancel_left h⟩
  obtain ⟨k, r, hr, hscript, hstart, hend⟩ := h
  obtain ⟨front, more, hpieces, hplace⟩ := Text.exists_of_mem_placed hr
  simp only [Nat.zero_add] at hplace
  have hregions := (regionPieces_cut source).1
  rw [hpieces, Text.writePieces_append, Text.writePieces_inr, Region.text, Block.text_eq,
    List.append_assoc, List.append_assoc, htext, ← List.append_assoc] at hregions
  obtain ⟨x, rfl, hbody⟩ := hsplit hregions (by
    rw [List.length_append]
    omega)
  rw [← List.append_assoc x] at hbody
  obtain ⟨y, hy, -⟩ := hsplit hbody.symm (by
    simp only [List.length_append] at hstart hend ⊢
    omega)
  rw [List.append_assoc] at hy
  exact ⟨front, r, more, x, y, hpieces, hscript, List.append_assoc _ _ _, hy⟩

/-- The region that an opening tag begins. -/
lemma exists_head (hr : r.Tagged [scriptName, styleName])
    (hcut : Text.Cut Region.pattern Region.text qs) (hclosed : Sections.AllClosed qs)
    (htext : writePieces Region.text qs = Block.openText r.name r.attributes ++ t) :
    ∃ r' more, qs = .inr (.closed r') :: more ∧ r'.Tagged [scriptName, styleName] ∧
      r'.name = r.name ∧ r'.body ++ (r'.closing ++ writePieces Region.text more) = t := by
  have hopen : Block.openTag? [scriptName, styleName]
      (Block.openText r.name r.attributes ++ t) = some (r.name, r.attributes, t) :=
    (Block.openTag?_eq_some_iff Block.areNames_both).mpr ⟨rfl, hr.name, hr.attributes⟩
  rw [← htext] at hopen
  cases qs with
  | nil => cases hopen
  | cons piece more =>
    cases piece with
    | inl c =>
      rw [Text.writePieces_inl, Region.pattern_eq_none_iff.mp hcut.1] at hopen
      cases hopen
    | inr region =>
      obtain ⟨r', rfl⟩ := hclosed region List.mem_cons_self
      have htagged := (Region.pattern_eq_some_iff.mp hcut.1).2
      rw [Text.writePieces_inr, Region.text, Block.text_eq, List.append_assoc,
        (Block.openTag?_eq_some_iff Block.areNames_both).mpr
          ⟨rfl, htagged.name, htagged.attributes⟩] at hopen
      obtain ⟨hname, hbehind⟩ := Prod.mk.inj (Option.some.inj hopen)
      refine ⟨r', more, rfl, htagged, hname, ?_⟩
      rw [← (Prod.mk.inj hbehind).2, List.append_assoc]

lemma Related.append {α : Type} {R : α → α → Prop} {qs us vs : List (Char ⊕ α)}
    (h : Related R (qs ++ us) vs) :
    ∃ qs' us', vs = qs' ++ us' ∧ Related R qs qs' ∧ Related R us us' := by
  induction qs generalizing vs with
  | nil => exact ⟨[], vs, rfl, .nil, h⟩
  | cons piece qs ih =>
    cases h with
    | cons hpiece hrest =>
      obtain ⟨qs', us', rfl, hqs, hus⟩ := ih hrest
      exact ⟨_ :: qs', us', rfl, .cons hpiece hqs, hus⟩

lemma Related.map_inl {α : Type} {R : α → α → Prop} {s : List Char} {vs : List (Char ⊕ α)}
    (h : Related R (s.map .inl) vs) : vs = s.map .inl := by
  induction s generalizing vs with
  | nil =>
    cases h
    rfl
  | cons c s ih =>
    cases h with
    | cons hpiece hrest =>
      cases hpiece with
      | inl hc => rw [ih hrest, List.map_cons, hc]

/-- Blocks of their own in front of a place in a script are in front of the script. -/
lemma exists_front (styleCompiler : Style.Compiler) {front more : List (Char ⊕ Region)}
    {x y : List Char}
    (hregions : regionPieces source = front ++ .inr (.closed r) :: more)
    (hnames : Block.namesScript r.name = true) (hbody : r.body = x ++ y)
    (htext : writePieces Block.text ps =
      writePieces Region.text front ++ (Block.openText r.name r.attributes ++ x))
    (hps : ∀ b, .inr b ∈ ps → b.Recognized languages ∧ b.Tagged [styleName] ∧ b.Spaced)
    (hplaces : ∀ z ∈ placed Block.text 0 ps, IsRegion source z) :
    ∃ front', Related (Region.Becomes styleCompiler languages) front front' ∧
      writePieces (fun b => (b.rewritten styleCompiler languages).text) ps =
        writePieces Region.text front' ++ (Block.openText r.name r.attributes ++ x) := by
  -- The text up to the place is cut into the regions in front of the script and characters.
  have hqs (region : Region)
      (h : .inr region ∈ front ++ (Block.openText r.name r.attributes ++ x).map .inl) :
      region.text ≠ [] := by
    rcases List.mem_append.mp h with h | h
    · exact Region.text_ne_nil (hregions ▸ List.mem_append_left _ h)
    · obtain ⟨c, -, hc⟩ := List.mem_map.mp h
      cases hc
  have htext' : writePieces Block.text ps = writePieces Region.text
      (front ++ (Block.openText r.name r.attributes ++ x).map .inl) := by
    rw [Text.writePieces_append, Text.writePieces_map_inl, htext]
  have hplaces' (z) (hz : z ∈ placed Block.text 0 ps) : (z.1, .closed z.2) ∈ placed Region.text 0
      (front ++ (Block.openText r.name r.attributes ++ x).map .inl) := by
    have hregion := hplaces z hz
    rw [IsRegion, placedRegions, hregions, Text.placed_append] at hregion
    rw [Text.placed_append, Text.placed_map_inl, List.append_nil]
    obtain ⟨ahead, behind, hsplit, -⟩ := Text.exists_of_mem_placed hz
    have hmem : .inr z.2 ∈ ps := hsplit ▸ List.mem_append_right _ List.mem_cons_self
    rcases List.mem_append.mp hregion with hfront | hrest
    · exact hfront
    · rcases List.mem_cons.mp hrest with heq | hbehind
      · have hr : z.2 = r := Region.closed.inj (Prod.mk.inj heq).2
        have hstyle := (hps z.2 hmem).2.1.name.not_namesScript
        rw [hr, hnames] at hstyle
        cases hstyle
      · have hle := (Text.le_of_mem_placed hbehind).1
        have hend := (Text.le_of_mem_placed hz).2
        have hopen : 0 < z.2.text.length := by
          obtain ⟨t, ht, -⟩ := z.2.opens_text
          rw [ht]
          exact Nat.succ_pos _
        simp only [htext, Region.text, Block.text_eq, hbody, List.length_append] at hle hend
        rw [Block.text_eq] at hopen
        simp only [List.length_append] at hopen
        omega
  obtain ⟨qs', hrelated, hwritten⟩ := exists_related styleCompiler hps hqs htext' hplaces'
  obtain ⟨front', chars, rfl, hfront, hchars⟩ := hrelated.append
  rw [hchars.map_inl, Text.writePieces_append, Text.writePieces_map_inl] at hwritten
  exact ⟨front', hfront, hwritten.symm⟩

/-- A script whose opening tag stays in a text that is the same but for regions in front of it: how
its body ends, if the scripts of both texts are the same. -/
lemma exists_script {source' : String} {front front' more : List (Char ⊕ Region)}
    (hregions : regionPieces source = front ++ .inr (.closed r) :: more)
    (hnames : Block.namesScript r.name = true) (hcompiler : NeverCloses styleCompiler)
    (hrelated : Related (Region.Becomes styleCompiler languages) front front')
    (htext : source'.toList =
      writePieces Region.text front' ++ (Block.openText r.name r.attributes ++ t))
    (hclosed : Sections.AllClosed (regionPieces source))
    (hclosed' : Sections.AllClosed (regionPieces source'))
    (hscript : bodies true (regionPieces source') = bodies true (regionPieces source)) :
    Block.IsBody scriptName r.body ∧ ∃ body closing u w w', Block.IsClosing scriptName closing ∧
      body ++ (closing ++ u) = t ∧ body ++ '\n' :: w = r.body ++ '\n' :: w' := by
  have hcut := (regionPieces_cut source).2
  rw [hregions] at hcut hclosed hscript
  have hfront : Sections.AllClosed front := fun region h =>
    hclosed region (List.mem_append_left _ h)
  have hr := (Region.pattern_eq_some_iff.mp hcut.of_append.1).2
  -- The text from the opening tag on is cut anew.
  let rest := Text.pieces Region.pattern (Block.openText r.name r.attributes ++ t)
  obtain ⟨hrest, hrestCut⟩ : writePieces Region.text rest = _ ∧
      Text.Cut Region.pattern Region.text rest :=
    (Text.pieces_eq_iff Region.reads Region.unanchored).mp rfl
  have hpieces : regionPieces source' = front' ++ rest := by
    refine (Text.pieces_eq_iff Region.reads Region.unanchored).mpr ⟨?_, ?_⟩
    · rw [Text.writePieces_append, hrest, htext]
    · refine cut_related hrelated hcompiler hcut hfront hrestCut ?_
      rw [hrest, Text.writePieces_inr]
      exact (r.opens_text.append _).alike ((opens_openText _ _).append _)
  rw [hpieces] at hclosed' hscript
  obtain ⟨r', more', hmore, hr', hname, hbehind⟩ :=
    exists_head hr hrestCut (fun region h => hclosed' region (List.mem_append_right _ h)) hrest
  rw [hmore, bodies_append, bodies_append, (related_sections hrelated hfront).2.1,
    bodies_script (hname ▸ hnames), bodies_script hnames, List.append_cancel_left_eq] at hscript
  have hclosing : Block.closingName r.name = scriptName := by
    rw [Block.closingName, hnames, if_pos rfl]
  have hrclosing := hr'.closing
  rw [hname, hclosing] at hrclosing
  exact ⟨hclosing ▸ hr.body, r'.body, r'.closing, _, _, _, hrclosing, hbehind, hscript⟩

/-- The first block that is no region of its own begins in a script, and changes it. -/
lemma placed_of_script (hclosed : Sections.AllClosed (regionPieces source))
    (hcompiler : NeverCloses styleCompiler)
    (hspaced : ∀ b ∈ styleBlocks source, b.Recognized languages → b.Spaced)
    (hplaces : ∀ x ∈ placedStyles source, x.2.Recognized languages →
      IsRegion source x ∨ InScript source x)
    (hclosed' : Sections.AllClosed
      (regionPieces (preprocessAll styleCompiler languages source)))
    (hscript : bodies true (regionPieces (preprocessAll styleCompiler languages source)) =
      bodies true (regionPieces source)) :
    ∀ x ∈ placedStyles source, x.2.Recognized languages →
      IsRegion source x := by
  suffices hall : ∀ x ∈ placed Block.text 0 (recognizedPieces languages source),
      IsRegion source x from
    fun x hx hrecognized => hall x (mem_placed_recognizedPieces.mpr ⟨hx, hrecognized⟩)
  by_contra hnot
  obtain ⟨ahead, m, behind, hsplit, hnot, hahead⟩ := Text.exists_first_placed hnot
  have hpieces {b : Block} (hb : .inr b ∈ ahead ++ .inr m :: behind) :
      b.Recognized languages ∧ b.Tagged [styleName] ∧ b.Spaced :=
    of_mem_recognizedPieces hspaced (hsplit ▸ hb)
  obtain ⟨hrecognized, htagged, -⟩ := hpieces (List.mem_append_right _ List.mem_cons_self)
  have htext : source.toList = writePieces Block.text ahead ++
      (Block.openText m.name m.attributes ++
        (m.body ++ (m.closing ++ writePieces Block.text behind))) := by
    rw [← writePieces_recognizedPieces languages, hsplit, Text.writePieces_append,
      Text.writePieces_inr, Block.text]
    simp
  have hin : InScript source ((writePieces Block.text ahead).length, m) := by
    have hmem : (0 + (writePieces Block.text ahead).length, m) ∈
        placed Block.text 0 (recognizedPieces languages source) := by
      rw [hsplit, Text.placed_append]
      exact List.mem_append_right _ List.mem_cons_self
    have hmem := (mem_placed_recognizedPieces.mp hmem).1
    rw [Nat.zero_add] at hmem hnot
    exact (hplaces _ hmem hrecognized).resolve_left hnot
  obtain ⟨front, r, more, x, y, hregions, hnames, hfront, hbody⟩ := hin.exists_split htext
  obtain ⟨front', hrelated, hwritten⟩ := exists_front styleCompiler hregions hnames hbody
    hfront (fun b hb => hpieces (List.mem_append_left _ hb)) hahead
  have htext' : (preprocessAll styleCompiler languages source).toList =
      writePieces Region.text front' ++ (Block.openText r.name r.attributes ++
        (x ++ Block.openText (m.rewritten styleCompiler languages).name
          (m.rewritten styleCompiler languages).attributes ++
            ((m.rewritten styleCompiler languages).body ++
              (m.rewritten styleCompiler languages).closing ++
                writePieces (fun b => (b.rewritten styleCompiler languages).text) behind))) := by
    rw [← writePieces_rewritten_recognizedPieces, hsplit, Text.writePieces_append,
      Text.writePieces_inr, hwritten, Block.text_eq]
    simp
  obtain ⟨hrbody, body, closing, u, w, w', hclosing, hnew, hsame⟩ :=
    exists_script hregions hnames hcompiler hrelated htext' hclosed hclosed' hscript
  rw [hbody] at hrbody hsame
  rw [List.append_assoc, List.append_assoc] at hsame
  exact script_changes hrecognized htagged hrbody hclosing hnew hsame

/-! ## Sections beside the styles -/

/-- Both sources are cut into sections, and these differ in their styles only. -/
def SameBesideStyles (source source' filename : String) : Prop :=
  ∃ sections sections', Sections.split source filename = .ok sections ∧
    Sections.split source' filename = .ok sections' ∧ sections'.script = sections.script ∧
    bareMarkup (regionPieces source') = bareMarkup (regionPieces source)

lemma SameBesideStyles.script {source' : String} (h : SameBesideStyles source source' filename) :
    Sections.AllClosed (regionPieces source') ∧
      bodies true (regionPieces source') = bodies true (regionPieces source) := by
  obtain ⟨sections, sections', hsplit, hsplit', hscript, -⟩ := h
  obtain ⟨-, rfl⟩ := split_eq_ok_iff.mp hsplit
  obtain ⟨hclosed', rfl⟩ := split_eq_ok_iff.mp hsplit'
  exact ⟨hclosed', hscript⟩

/-- If the blocks that are written anew are all regions, the sections of a component stay but for
its styles. If one of them begins in a script, that script does not stay. -/
theorem preprocess_frame {sections : Sections}
    (hsplit : Sections.split source filename = .ok sections)
    (hcompiler : NeverCloses styleCompiler)
    (hspaced : ∀ b ∈ styleBlocks source, b.Recognized languages → b.Spaced) :
    (needsPreprocessing languages source = false ∨
        (∀ x ∈ placedStyles source, x.2.Recognized languages → IsRegion source x) →
      SameBesideStyles source (preprocess styleCompiler languages source) filename) ∧
    ((∀ x ∈ placedStyles source, x.2.Recognized languages →
        IsRegion source x ∨ InScript source x) →
      (SameBesideStyles source (preprocess styleCompiler languages source) filename ↔
        needsPreprocessing languages source = false ∨
          ∀ x ∈ placedStyles source, x.2.Recognized languages → IsRegion source x)) := by
  obtain ⟨hclosed, hsections⟩ := split_eq_ok_iff.mp hsplit
  have hsame : needsPreprocessing languages source = false ∨
      (∀ x ∈ placedStyles source, x.2.Recognized languages → IsRegion source x) →
        SameBesideStyles source (preprocess styleCompiler languages source) filename := by
    intro hcases
    by_cases hneeds : needsPreprocessing languages source = true
    · have hplaces := hcases.resolve_left (by simp [hneeds])
      have hrelated := regionPieces_preprocessAll hclosed hcompiler hspaced hplaces
      obtain ⟨hclosed', hscript, hmarkup⟩ := related_sections hrelated hclosed
      rw [preprocess, if_pos hneeds]
      refine ⟨sections, _, hsplit, split_eq_ok_iff.mpr ⟨hclosed', rfl⟩, ?_, hmarkup⟩
      rw [hsections]
      exact hscript
    · rw [preprocess, if_neg hneeds]
      exact ⟨sections, sections, hsplit, hsplit, rfl, rfl⟩
  refine ⟨hsame, fun hplaces => ⟨fun h => ?_, hsame⟩⟩
  by_cases hneeds : needsPreprocessing languages source = true
  · rw [preprocess, if_pos hneeds] at h
    obtain ⟨hclosed', hscript⟩ := h.script
    exact .inr (placed_of_script hclosed hcompiler hspaced hplaces hclosed' hscript)
  · exact .inl (Bool.not_eq_true _ ▸ hneeds)

namespace Quoted

/-- A component with a script, an element and a style in a style language. -/
def card : String := "<script>let a;</script><p>a</p><style lang=\"scss\">b</style>"

/-- A component whose script has a text that looks like a style. -/
def script : String := "<script>let a = '<style lang=\"scss\">b</style>';</script>"

/-- A compiler with one output. -/
def compiler : Style.Compiler := fun _ => .ok "p \x7b\x7d"

lemma neverCloses : NeverCloses compiler := neverCloses_const (by decide)

lemma spaced : ∀ b ∈ styleBlocks card, b.Spaced := by
  have hblocks : styleBlocks card =
      [⟨"style".toList, " lang=\"scss\"".toList, ['b'], "</style>".toList⟩] := by decide +kernel
  have hread : takeLang " lang=\"scss\"".toList = some ("scss".toList, []) := by decide +kernel
  intro b hb
  rw [hblocks, List.mem_singleton] at hb
  subst hb
  exact Block.spaced_of_takeLang hread nofun

end Quoted

/-- The style of this component is a region. -/
theorem preprocess_frame_card :
    SameBesideStyles Quoted.card (preprocess Quoted.compiler ["scss"] Quoted.card)
      "Card.svelte" :=
  have hsplit : Sections.split Quoted.card "Card.svelte" = .ok ⟨"let a;\n".toList, "b\n".toList,
      List.replicate 23 ' ' ++ "<p>a</p>".toList ++ List.replicate 28 ' '⟩ := by
    unfold Sections.split
    rfl
  (preprocess_frame hsplit Quoted.neverCloses fun b hb _ => Quoted.spaced b hb).1
    (.inr (by unfold IsRegion; decide +kernel))

/-- What looks like a style in this script is compiled, though no output of the compiler holds a
tag, and the script does not stay. -/
theorem not_preprocess_frame_quoted :
    (∀ body css, Quoted.compiler body = .ok css → '<' ∉ css.toList) ∧
    (Sections.split Quoted.script "Card.svelte").isOk = true ∧
    ¬SameBesideStyles Quoted.script (preprocess Quoted.compiler ["scss"] Quoted.script)
      "Card.svelte" := by
  refine ⟨?_, by decide +kernel, fun h => ?_⟩
  · rintro body css ⟨⟩
    decide
  · have hscript := h.script.2
    revert hscript
    decide +kernel

end LiveBundle.Component
