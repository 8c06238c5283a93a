import LiveBundle.Style.Lexer
import Mathlib.Tactic.Lemma
import Mathlib.Tactic.SplitIfs

/-!
# What the characters of a style text belong to

A character of a style text is a part of a string, of a comment between slash and star, of an
address in the brackets behind `url`, of a comment to the end of its line, or of none of these. A
text is read from its front. What is open at a place, and what has been read of the line, decides on
the next character; only a slash waits for the character behind it.

Strings end with their quote or badly with their line, unless a backslash stands in front. Plain
style sheets have no line comments, so these are told apart by a flag.

* `Point` is where reading stands, `Point.read` reads a character;
* `marks` tells the characters of a text with what they belong to;
* `marks_append`, `after_append`: a text is read part by part.
-/

namespace LiveBundle.Style.Scan

/-- What a character belongs to. -/
inductive Kind where
  | code
  | string
  | comment
  | address
  | lineComment
deriving DecidableEq

/-- The quotes of strings. -/
def IsQuote (c : Char) : Prop := c = '"' ∨ c = '\''

instance : DecidablePred IsQuote := fun c => inferInstanceAs (Decidable (c = '"' ∨ c = '\''))

/-- What is open at a place. -/
inductive Mode where
  | code
  | string (quote : Subtype IsQuote)
  /-- Between the two characters that open a comment. -/
  | opening
  /-- In a comment; whether a slash would close it. -/
  | comment (star : Bool)
  /-- Behind the bracket that opens an address, and white space. -/
  | bracket
  | address
  | lineComment
deriving DecidableEq

/-- A place in a text. -/
structure Point where
  mode : Mode
  /-- What has been read of the line, the latest character first. -/
  seen : List Char

/-- The front of a text. -/
def Point.start : Point := ⟨.code, []⟩

/-- An odd number of backslashes stands in front. -/
def Escaped (seen : List Char) : Prop := (seen.takeWhile (· = '\\')).length % 2 = 1

instance : DecidablePred Escaped := fun _ => inferInstanceAs (Decidable (_ = 1))

/-- A line break that ends a string: no backslash stands in front of it. The two characters of one
line break may stand behind one backslash. -/
def Breaks (seen : List Char) (c : Char) : Prop :=
  Lexer.isNewline c = true ∧ ¬Escaped seen ∧
    ¬(c = '\n' ∧ seen.head? = some '\r' ∧ Escaped seen.tail)

instance (seen : List Char) (c : Char) : Decidable (Breaks seen c) :=
  inferInstanceAs (Decidable (_ ∧ _))

/-- The name `url` stands in front, in any case. -/
def behindUrl : List Char → Bool
  | l :: r :: u :: before =>
    [u, r, l].map Char.toLower == ['u', 'r', 'l'] &&
      !before.head?.any fun c => Lexer.isNameChar c || c == '\\'
  | _ => false

/-- What a character belongs to, and what is open behind it. -/
def Point.read (lineComments : Bool) (p : Point) (c : Char) (next : Option Char) : Kind × Mode :=
  match p.mode with
  | .code =>
    if h : IsQuote c ∧ ¬Escaped p.seen then (.string, .string ⟨c, h.1⟩)
    else if c = '/' ∧ next = some '*' ∧ ¬Escaped p.seen then (.comment, .opening)
    else if lineComments = true ∧ c = '/' ∧ next = some '/' ∧ p.seen.head? ≠ some ':' then
      (.lineComment, .lineComment)
    else if c = '(' ∧ behindUrl p.seen = true then (.address, .bracket)
    else (.code, .code)
  | .string quote =>
    if Breaks p.seen c then (.code, .code)
    else if c = quote.val ∧ ¬Escaped p.seen then (.string, .code)
    else (.string, .string quote)
  | .opening => (.comment, .comment false)
  | .comment star =>
    if star = true ∧ c = '/' then (.comment, .code) else (.comment, .comment (c = '*'))
  | .bracket =>
    if Lexer.isSpace c = true then (.address, .bracket)
    else if h : IsQuote c then (.string, .string ⟨c, h⟩)
    else if c = ')' then (.address, .code)
    else (.address, .address)
  | .address =>
    if c = ')' ∧ ¬Escaped p.seen then (.address, .code) else (.address, .address)
  | .lineComment => if c = '\n' then (.code, .code) else (.lineComment, .lineComment)

/-- The line behind a character. -/
def lineBehind (seen : List Char) (c : Char) : List Char := if c = '\n' then [] else c :: seen

/-- The place behind a character. -/
def Point.next (lineComments : Bool) (p : Point) (c : Char) (next : Option Char) : Point :=
  ⟨(p.read lineComments c next).2, lineBehind p.seen c⟩

/-- The characters of a text, each with what it belongs to. -/
def marks (lineComments : Bool) : Point → List Char → List (Char × Kind)
  | _, [] => []
  | p, c :: cs =>
    (c, (p.read lineComments c cs.head?).1) ::
      marks lineComments (p.next lineComments c cs.head?) cs

/-- The place behind a text. -/
def Point.after (lineComments : Bool) : Point → List Char → Point
  | p, [] => p
  | p, c :: cs => (p.next lineComments c cs.head?).after lineComments cs

variable {lineComments : Bool} {p : Point} {a b s : List Char} {c : Char} {next : Option Char}

/-- Each character has one mark. -/
lemma length_marks (lineComments : Bool) (p : Point) (s : List Char) :
    (marks lineComments p s).length = s.length := by
  induction s generalizing p with
  | nil => rfl
  | cons c cs ih => rw [marks, List.length_cons, List.length_cons, ih]

/-- Only a slash in front of a slash or a star depends on what follows. -/
lemma read_eq (h : c = '/' → next ≠ some '/' ∧ next ≠ some '*') :
    p.read lineComments c next = p.read lineComments c none := by
  obtain ⟨mode, seen⟩ := p
  cases mode with
  | code =>
    have hstar : ¬(c = '/' ∧ next = some '*' ∧ ¬Escaped seen) := fun h' => (h h'.1).2 h'.2.1
    have hslash : ¬(lineComments = true ∧ c = '/' ∧ next = some '/' ∧ seen.head? ≠ some ':') :=
      fun h' => (h h'.2.1).1 h'.2.2.1
    simp only [Point.read, if_neg hstar, if_neg hslash]
    simp
  | _ => rfl

/-- The second text does not begin with what a slash at the end of the first one waits for. -/
def Apart (a b : List Char) : Prop :=
  a.getLast? = some '/' → b.head? ≠ some '/' ∧ b.head? ≠ some '*'

/-- Without its first character, a text is still apart from what follows. -/
lemma Apart.tail (h : Apart (c :: a) b) (ha : a ≠ []) : Apart a b := by
  intro hlast
  refine h ?_
  obtain ⟨front, rfl⟩ := List.getLast?_eq_some_iff.mp hlast
  rw [← List.cons_append, List.getLast?_concat]

/-- What follows a part of a text does not matter to its first character. -/
lemma Apart.read_eq (h : Apart (c :: a) b) :
    p.read lineComments c (a ++ b).head? = p.read lineComments c a.head? := by
  cases a with
  | nil =>
    rw [List.nil_append]
    refine Scan.read_eq fun hc => ?_
    rw [hc] at h
    exact h rfl
  | cons d a => rfl

/-- Behind a text that is apart, reading goes on from the point that it left. -/
lemma marks_append (h : Apart a b) : marks lineComments p (a ++ b) =
    marks lineComments p a ++ marks lineComments (p.after lineComments a) b := by
  induction a generalizing p with
  | nil => rfl
  | cons c a ih =>
    rw [List.cons_append, marks, marks, Point.after, Point.next, Point.next, h.read_eq,
      List.cons_append]
    cases a with
    | nil => rfl
    | cons d a => rw [ih (h.tail (List.cons_ne_nil _ _))]

/-- The point behind two texts is reached one text after the other. -/
lemma after_append (h : Apart a b) : p.after lineComments (a ++ b) =
    (p.after lineComments a).after lineComments b := by
  induction a generalizing p with
  | nil => rfl
  | cons c a ih =>
    rw [List.cons_append, Point.after, Point.after, Point.next, Point.next, h.read_eq]
    cases a with
    | nil => rfl
    | cons d a => rw [ih (h.tail (List.cons_ne_nil _ _))]

/-- No text waits for a line feed. -/
lemma apart_newline (a b : List Char) : Apart a ('\n' :: b) := fun _ => by simp

/-- A text that ends with a line feed waits for nothing. -/
lemma apart_line (a b : List Char) : Apart (a ++ ['\n']) b := by
  intro hlast
  rw [List.getLast?_concat] at hlast
  exact absurd hlast (by decide)

/-- In plain code at the start of a line, reading is where it starts. -/
lemma Point.eq_start (hmode : p.mode = .code) (hseen : p.seen = []) : p = .start := by
  obtain ⟨mode, seen⟩ := p
  obtain rfl : mode = .code := hmode
  obtain rfl : seen = [] := hseen
  rfl

/-- A line begins behind a line feed. -/
lemma seen_after_newline (lineComments : Bool) (p : Point) (s : List Char) :
    (p.after lineComments (s ++ ['\n'])).seen = [] := by
  induction s generalizing p with
  | nil => rfl
  | cons c s ih =>
    rw [List.cons_append, Point.after]
    exact ih _

/-- Nothing is opened by these characters. -/
def Plain (s : List Char) : Prop := ∀ c ∈ s, ¬IsQuote c ∧ c ≠ '/' ∧ c ≠ '('

/-- In plain code, a character other than a quote, a slash or a parenthesis opens nothing. -/
lemma read_plain (hc : ¬IsQuote c ∧ c ≠ '/' ∧ c ≠ '(') (hp : p.mode = .code) :
    p.read lineComments c next = (.code, .code) := by
  unfold Point.read
  rw [hp]
  simp [hc.1, hc.2.1, hc.2.2]

/-- All of a plain text is code. -/
lemma marks_plain (hs : Plain s) (hp : p.mode = .code) :
    marks lineComments p s = s.map (·, .code) ∧ (p.after lineComments s).mode = .code := by
  induction s generalizing p with
  | nil => exact ⟨rfl, hp⟩
  | cons c cs ih =>
    have hread : p.read lineComments c cs.head? = (.code, .code) :=
      read_plain (hs c List.mem_cons_self) hp
    have hnext : (p.next lineComments c cs.head?).mode = .code := by rw [Point.next, hread]
    obtain ⟨hmarks, hafter⟩ := ih (fun d hd => hs d (List.mem_cons_of_mem _ hd)) hnext
    refine ⟨?_, hafter⟩
    rw [marks, hmarks, hread, List.map_cons]

end LiveBundle.Style.Scan
