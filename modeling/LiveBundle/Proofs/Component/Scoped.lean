import LiveBundle.Proofs.Component.Braces
import LiveBundle.Proofs.Component.Plain
import LiveBundle.Proofs.Style.Scan
import LiveBundle.Style.Compile

/-!
# Styles in the scope of their component

The styles of a component are put between two braces behind the attribute of its host. Whether the
second one closes the first depends on the braces of the styles, but for those in strings and
comments: all of them must have their partners, and no string or comment may reach over the end.

* `Closes` says that a brace of a text is closed by another one;
* `closes_iff`: when the braces around styles are partners, `closed_join`: styles that are closed on
  their own may stand below each other;
* `scope_closes_iff` is this for the text that a component hands to the style compiler.
-/

namespace LiveBundle.Component

open Style.Scan
open Template (Balanced)

variable {styleCompiler : Style.Compiler} {source filename : String} {digest : String}
  {styles front inner back : List Char} {ms ms' : List (Char × Kind)} {k : Kind}

/-! ## Braces outside of strings and comments -/

/-- The character is not in a string or a comment. -/
def Counts (k : Kind) : Prop := k ≠ .string ∧ k ≠ .comment

instance : DecidablePred Counts := fun k =>
  inferInstanceAs (Decidable (k ≠ .string ∧ k ≠ .comment))

/-- The braces outside of strings and comments. -/
def braces (ms : List (Char × Kind)) : List Char :=
  (ms.filter fun (c, k) => (c == '\x7b' || c == '\x7d') && decide (Counts k)).map Prod.fst

lemma braces_append (ms ms' : List (Char × Kind)) :
    braces (ms ++ ms') = braces ms ++ braces ms' := by
  rw [braces, List.filter_append, List.map_append]
  rfl

lemma braces_other {c : Char} (hopen : c ≠ '\x7b') (hclose : c ≠ '\x7d') (k : Kind) :
    braces [(c, k)] = [] := by
  simp [braces, hopen, hclose]

/-- The brace behind `front` opens what the one behind `inner` closes. -/
def Closes (front inner back : List Char) : Prop :=
  ∃ ms ms' ms'' k k', marks false .start (front ++ '\x7b' :: inner ++ '\x7d' :: back) =
      ms ++ ('\x7b', k) :: ms' ++ ('\x7d', k') :: ms'' ∧
    ms.length = front.length ∧ ms'.length = inner.length ∧ Counts k ∧ Counts k' ∧
    Balanced (braces ms')

/-- A string or a comment is open. -/
def Hides : Mode → Prop
  | .string _ | .opening | .comment _ => True
  | _ => False

instance : DecidablePred Hides
  | .string _ | .opening | .comment _ => .isTrue trivial
  | .code | .bracket | .address | .lineComment => .isFalse not_false

/-- A brace counts unless a string or a comment is open. -/
lemma counts_close (p : Point) (next : Option Char) :
    Counts (p.read false '\x7d' next).1 ↔ ¬Hides p.mode := by
  obtain ⟨mode, seen⟩ := p
  have hnewline : ¬Breaks seen '\x7d' := fun h => absurd h.1 (by decide)
  have hquote : ¬IsQuote '\x7d' := by decide
  cases mode with
  | code =>
    have hread : Point.read false ⟨.code, seen⟩ '\x7d' next = (.code, .code) :=
      read_plain ⟨hquote, by decide, by decide⟩ rfl
    rw [hread]
    exact iff_of_true (by decide) not_false
  | string quote =>
    refine iff_of_false (fun h => h.1 ?_) (not_not_intro trivial)
    simp only [Point.read, if_neg hnewline]
    split_ifs <;> rfl
  | opening => exact iff_of_false (fun h => h.2 rfl) (not_not_intro trivial)
  | comment star =>
    refine iff_of_false (fun h => h.2 ?_) (not_not_intro trivial)
    simp only [Point.read]
    split_ifs <;> rfl
  | bracket =>
    refine iff_of_true ?_ not_false
    have hspace : ¬Style.Lexer.isSpace '\x7d' = true := by decide
    simp only [Point.read, if_neg hspace, dif_neg hquote]
    decide
  | address =>
    refine iff_of_true ?_ not_false
    simp only [Point.read]
    split_ifs <;> decide
  | lineComment =>
    refine iff_of_true ?_ not_false
    simp only [Point.read]
    decide

/-! ## Styles between two braces -/

/-- What stands in front of the first brace. -/
def scopeFront (digest : String) : List Char := '[' :: (scopeAttribute digest).toList ++ [']', ' ']

/-- What stands between the braces. -/
def scopeInner (styles : List Char) : List Char := '\n' :: styles ++ ['\n']

lemma toList_scopedText (digest : String) (styles : List Char) : (scopedText digest styles).toList =
    scopeFront digest ++ '\x7b' :: scopeInner styles ++ '\x7d' :: ['\n'] := by
  simp [scopedText, scopeFront, scopeInner]

lemma plain_scopeFront (h : ∀ c ∈ digest.toList, c.isAlphanum = true) :
    Plain (scopeFront digest ++ ['\x7b', '\n']) := by
  have hdigest : Plain digest.toList := by
    intro c hc
    have hc := h c hc
    refine ⟨?_, ?_, ?_⟩
    · rintro (rfl | rfl)
      · exact absurd hc (by decide)
      · exact absurd hc (by decide)
    · rintro rfl
      exact absurd hc (by decide)
    · rintro rfl
      exact absurd hc (by decide)
  have hrest : Plain ("[data-pg-".toList ++ "] \x7b\n".toList) := by
    simp [Plain, IsQuote]
  have htext : scopeFront digest ++ ['\x7b', '\n'] =
      "[data-pg-".toList ++ digest.toList ++ "] \x7b\n".toList := by
    simp [scopeFront, scopeAttribute]
  intro c hc
  rw [htext, List.append_assoc, List.mem_append, List.mem_append] at hc
  rcases hc with hc | hc | hc
  · exact hrest c (List.mem_append_left _ hc)
  · exact hdigest c hc
  · exact hrest c (List.mem_append_right _ hc)

/-- The text is read up to the styles, then these, then what is behind them. -/
lemma marks_scoped (h : ∀ c ∈ digest.toList, c.isAlphanum = true) (styles : List Char) :
    ∃ k k' k'', marks false .start
        (scopeFront digest ++ '\x7b' :: scopeInner styles ++ '\x7d' :: ['\n']) =
      (scopeFront digest).map (·, .code) ++ ('\x7b', .code) ::
        (('\n', .code) :: marks false .start styles ++ [('\n', k)]) ++
          ('\x7d', k') :: [('\n', k'')] ∧
      (Counts k' ↔ ¬Hides (Point.start.after false (styles ++ ['\n'])).mode) := by
  let back : List Char := ['\n', '\x7d', '\n']
  have htext : scopeFront digest ++ '\x7b' :: scopeInner styles ++ '\x7d' :: ['\n'] =
      (scopeFront digest ++ ['\x7b', '\n']) ++ (styles ++ back) := by
    simp [scopeInner, back]
  obtain ⟨hmarks, hmode⟩ := @marks_plain false .start _ (plain_scopeFront h) rfl
  have hstart : Point.start.after false (scopeFront digest ++ ['\x7b', '\n']) = .start := by
    have hseen : (Point.start.after false (scopeFront digest ++ ['\x7b', '\n'])).seen = [] := by
      have hline := seen_after_newline false .start (scopeFront digest ++ ['\x7b'])
      rw [List.append_assoc, List.singleton_append] at hline
      exact hline
    exact Point.eq_start hmode hseen
  have hfront : Apart (scopeFront digest ++ ['\x7b', '\n']) (styles ++ back) := by
    have hline := apart_line (scopeFront digest ++ ['\x7b']) (styles ++ back)
    rwa [List.append_assoc, List.singleton_append] at hline
  have hstyles : Apart styles back := apart_newline _ _
  have hbehind : Point.start.after false (styles ++ ['\n']) =
      (Point.start.after false styles).next false '\n' (some '\x7d') := by
    have hnewline (next : Option Char) : '\n' = '/' → next ≠ some '/' ∧ next ≠ some '*' :=
      fun h => absurd h (by decide)
    rw [after_append (apart_newline _ _), Point.after, Point.after, Point.next, Point.next,
      read_eq (hnewline _), read_eq (hnewline (some '\x7d'))]
  obtain ⟨k, k', k'', hback, hclose⟩ : ∃ k k' k'',
      marks false (Point.start.after false styles) back =
        [('\n', k), ('\x7d', k'), ('\n', k'')] ∧
      k' = (((Point.start.after false styles).next false '\n' (some '\x7d')).read false '\x7d'
        (some '\n')).1 := ⟨_, _, _, rfl, rfl⟩
  refine ⟨k, k', k'', ?_, ?_⟩
  · rw [htext, marks_append hfront, hmarks, hstart, marks_append hstyles, hback]
    simp
  · rw [hbehind, hclose]
    exact counts_close _ _

/-- The braces around styles are partners if and only if the braces of the styles have theirs and no
string or comment is open at the end. -/
lemma closes_iff (h : ∀ c ∈ digest.toList, c.isAlphanum = true) :
    Closes (scopeFront digest) (scopeInner styles) ['\n'] ↔
      Balanced (braces (marks false .start styles)) ∧
        ¬Hides (Point.start.after false (styles ++ ['\n'])).mode := by
  obtain ⟨k, k', k'', hmarks, hcounts⟩ := marks_scoped h styles
  have hbraces : braces (('\n', .code) :: marks false .start styles ++ [('\n', k)]) =
      braces (marks false .start styles) := by
    have hfirst := braces_other (c := '\n') (by decide) (by decide) .code
    have hlast := braces_other (c := '\n') (by decide) (by decide) k
    rw [List.cons_append, ← List.singleton_append, braces_append, braces_append, hfirst, hlast,
      List.nil_append, List.append_nil]
  rw [← hcounts, ← hbraces]
  constructor
  · intro ⟨ms, ms', ms'', k₁, k₂, htext, hlength, hlength', _, hclose, hbalanced⟩
    rw [hmarks, List.append_assoc, List.append_assoc] at htext
    obtain ⟨-, hrest⟩ := List.append_inj htext (by rw [List.length_map, hlength])
    obtain ⟨-, hrest⟩ := List.cons.inj hrest
    obtain ⟨hinner, hrest⟩ := List.append_inj hrest (by
      rw [hlength', List.cons_append, List.length_cons, List.length_append, length_marks,
        scopeInner]
      simp)
    obtain ⟨hlast, -⟩ := List.cons.inj hrest
    rw [hinner, (Prod.mk.inj hlast).2]
    exact ⟨hbalanced, hclose⟩
  · intro ⟨hbalanced, hclose⟩
    refine ⟨_, _, _, _, _, hmarks, List.length_map _, ?_, by decide, hclose, hbalanced⟩
    rw [List.cons_append, List.length_cons, List.length_append, length_marks, scopeInner]
    simp

/-! ## Styles below each other -/

/-- The braces of a text have their partners, and it leaves nothing open. -/
def Closed (s : List Char) : Prop :=
  Balanced (braces (marks false .start s)) ∧ (Point.start.after false s).mode = .code

lemma after_newline {s : List Char} (h : (Point.start.after false s).mode = .code) :
    Point.start.after false (s ++ ['\n']) = .start := by
  refine Point.eq_start ?_ (seen_after_newline _ _ _)
  rw [after_append (apart_newline _ _)]
  exact (marks_plain (List.forall_mem_singleton.mpr (by decide)) h).2

lemma Closed.append {s t : List Char} (hs : Closed s) (ht : Closed t) :
    Closed (s ++ '\n' :: t) := by
  have htext : s ++ '\n' :: t = (s ++ ['\n']) ++ t := by simp
  obtain ⟨k, hnewline⟩ : ∃ k, marks false (Point.start.after false s) ['\n'] = [('\n', k)] :=
    ⟨_, rfl⟩
  refine ⟨?_, ?_⟩
  · rw [htext, marks_append (apart_line _ _), after_newline hs.2, marks_append (apart_newline _ _),
      braces_append, braces_append, hnewline, braces_other (by decide) (by decide),
      List.append_nil]
    exact hs.1.append ht.1
  · rw [htext, after_append (apart_line _ _), after_newline hs.2]
    exact ht.2

lemma closed_join {parts : List (List Char)} (h : ∀ part ∈ parts, Closed part) :
    Closed (Text.join ['\n'] parts) := by
  have hnil : Closed [] := ⟨.nil, rfl⟩
  induction parts with
  | nil => exact hnil
  | cons part parts ih =>
    have hpart := h part List.mem_cons_self
    have hrest := ih fun other hother => h other (List.mem_cons_of_mem _ hother)
    cases parts with
    | nil => exact hpart
    | cons other parts =>
      have htext : Text.join ['\n'] (part :: other :: parts) =
          part ++ '\n' :: Text.join ['\n'] (other :: parts) := by
        rw [Text.join, List.append_assoc, List.singleton_append]
      rw [htext]
      exact hpart.append hrest

/-! ## Components -/

/-- The styles of a component that compiles are those of its scoped text. -/
lemma css_eq {compiled : Compiled} (h : compile styleCompiler source filename = .ok compiled) :
    ∃ sections, Sections.split source (Path.fileName filename) = .ok sections ∧
      let digest := Digest.Sha256.fingerprint source
      let styles := Text.trim sections.styles
      (styles = [] → compiled.css = none) ∧
      ∀ css, styles ≠ [] → styleCompiler (scopedText digest styles) = .ok css →
        compiled.css = some css := by
  obtain ⟨sections, parts, hsplit, hparse⟩ := exists_of_compile h
  rw [compile_of_ok hsplit hparse] at h
  obtain rfl := Except.ok.inj h
  refine ⟨sections, hsplit, ?_, ?_⟩
  · intro hstyles
    show scopeStyles _ _ _ = none
    rw [scopeStyles]
    exact if_pos hstyles
  · intro css hstyles hcss
    show scopeStyles _ _ _ = some css
    rw [scopeStyles]
    simp only [if_neg hstyles, hcss]

/-- The styles of a component that compiles are handed over between two braces, and a stylesheet
that comes back is its own. The braces are partners if and only if the braces of the styles have
theirs and no string or comment is open at the end. It is enough if each of some texts that stand
below each other in the styles is closed on its own. -/
theorem scope_closes_iff {compiled : Compiled}
    (h : compile styleCompiler source filename = .ok compiled) :
    ∃ sections, Sections.split source (Path.fileName filename) = .ok sections ∧
      let digest := Digest.Sha256.fingerprint source
      let styles := Text.trim sections.styles
      (styles = [] → compiled.css = none) ∧
      ∀ css, styles ≠ [] → styleCompiler (scopedText digest styles) = .ok css →
        compiled.css = some css ∧
        (scopedText digest styles).toList =
          scopeFront digest ++ '\x7b' :: scopeInner styles ++ '\x7d' :: ['\n'] ∧
        (Closes (scopeFront digest) (scopeInner styles) ['\n'] ↔
          Balanced (braces (marks false .start styles)) ∧
            ¬Hides (Point.start.after false (styles ++ ['\n'])).mode) ∧
        ∀ parts, Text.join ['\n'] parts = styles → (∀ part ∈ parts, Closed part) →
          Closes (scopeFront digest) (scopeInner styles) ['\n'] := by
  obtain ⟨sections, hsplit, hnone, hsome⟩ := css_eq h
  have hdigest := isAlphanum_fingerprint source
  refine ⟨sections, hsplit, hnone, ?_⟩
  intro css hstyles hcss
  refine ⟨hsome css hstyles hcss, toList_scopedText _ _, closes_iff hdigest, ?_⟩
  intro parts hparts hclosed
  have hall := closed_join hclosed
  rw [hparts] at hall
  refine (closes_iff hdigest).mpr ⟨hall.1, ?_⟩
  rw [after_newline hall.2]
  exact not_false

namespace Scope

/-- A component with one rule. -/
def inside : String := "<p>a</p>\n<style>p \x7b top: 0; \x7d</style>"

/-- The rule. -/
def insideStyles : List Char := "p \x7b top: 0; \x7d".toList

/-- A component whose style closes a brace before it opens one. -/
def early : String := "<p>a</p>\n<style>\x7d p \x7b top: 0; \x7d i \x7b</style>"

/-- The style of that component. -/
def earlyStyles : List Char := "\x7d p \x7b top: 0; \x7d i \x7b".toList

/-- The styles of a text that is cut. -/
def stylesOf (source : String) : Option (List Char) :=
  (Sections.split source "App.svelte").toOption.map fun sections => Text.trim sections.styles

lemma trim_eq {sections : Sections} (h : stylesOf source = some styles)
    (hsplit : Sections.split source (Path.fileName "App.svelte") = .ok sections) :
    Text.trim sections.styles = styles := by
  have hname : Path.fileName "App.svelte" = "App.svelte" := by decide
  rw [hname] at hsplit
  rw [stylesOf, hsplit] at h
  exact Option.some.inj h

end Scope

/-- The rule of a component reaches nothing else. -/
theorem scope_closes_iff_inside : ∃ compiled,
    compile Style.compile Scope.inside "App.svelte" = .ok compiled ∧
      compiled.css = some "[data-pg-67f0317c] p \x7b\n  top: 0;\n\x7d\n" ∧
      Closes (scopeFront "67f0317c") (scopeInner Scope.insideStyles) ['\n'] := by
  obtain ⟨compiled, hcompiled⟩ : ∃ compiled,
      compile Style.compile Scope.inside "App.svelte" = .ok compiled := ⟨_, rfl⟩
  obtain ⟨sections, hsplit, -, hscope⟩ := scope_closes_iff hcompiled
  have hdigest : Digest.Sha256.fingerprint Scope.inside = "67f0317c" := by decide +kernel
  have hstyles : Text.trim sections.styles = Scope.insideStyles :=
    Scope.trim_eq (by decide +kernel) hsplit
  have hcss : Style.compile (scopedText "67f0317c" Scope.insideStyles) =
      .ok "[data-pg-67f0317c] p \x7b\n  top: 0;\n\x7d\n" := by decide +kernel
  have hclosed : Closed Scope.insideStyles := by
    unfold Closed
    decide +kernel
  simp only [hdigest, hstyles] at hscope
  obtain ⟨hsome, -, -, hjoin⟩ := hscope _ (by decide) hcss
  refine ⟨compiled, hcompiled, hsome, hjoin [Scope.insideStyles] (by decide) ?_⟩
  intro part hpart
  rwa [List.mem_singleton.mp hpart]

/-- The rule of a component reaches the whole page. -/
theorem not_scope_closes_early : ∃ compiled,
    compile Style.compile Scope.early "App.svelte" = .ok compiled ∧
      Style.compile (scopedText "df4ac47d" Scope.earlyStyles) =
        .ok "p \x7b\n  top: 0;\n\x7d\n" ∧
      compiled.css = some "p \x7b\n  top: 0;\n\x7d\n" ∧
      ¬Closes (scopeFront "df4ac47d") (scopeInner Scope.earlyStyles) ['\n'] := by
  obtain ⟨compiled, hcompiled⟩ : ∃ compiled,
      compile Style.compile Scope.early "App.svelte" = .ok compiled := ⟨_, rfl⟩
  obtain ⟨sections, hsplit, -, hsome⟩ := css_eq hcompiled
  have hdigest : Digest.Sha256.fingerprint Scope.early = "df4ac47d" := by decide +kernel
  have hstyles : Text.trim sections.styles = Scope.earlyStyles :=
    Scope.trim_eq (by decide +kernel) hsplit
  have hcss : Style.compile (scopedText "df4ac47d" Scope.earlyStyles) =
      .ok "p \x7b\n  top: 0;\n\x7d\n" := by decide +kernel
  simp only [hdigest, hstyles] at hsome
  refine ⟨compiled, hcompiled, hcss, hsome _ (by decide) hcss, ?_⟩
  rw [← hdigest, closes_iff (isAlphanum_fingerprint _)]
  exact fun h => absurd h.1 (by decide +kernel)

end LiveBundle.Component
