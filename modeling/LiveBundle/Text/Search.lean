import LiveBundle.Text.CharClass

/-!
# Leftmost matches

A pattern says at each place of a text whether it matches there, and if so with what value and what
text it leaves. `pieces` cuts a text by the matches of a pattern: the leftmost match first, then the
leftmost one behind it, and so on.

* `replaceAll` writes each match anew, `hits` collects the values of the matches.
* `pieces_of_no_match` says that a text without a match is cut into its characters.
-/

namespace LiveBundle.Text

variable {α : Type}

/-- A pattern is asked with the text that begins at a place, and with whether a line begins there.
The answer is a value and the text behind the match; a match is not empty. -/
abbrev Pattern (α : Type) := Bool → List Char → Option (α × List Char)

/-- Cuts a text by the matches of a pattern, after passing over some characters. -/
def cutFrom (p : Pattern α) : Nat → Bool → List Char → List (Char ⊕ α)
  | _, _, [] => []
  | skip + 1, _, c :: cs => cutFrom p skip (c = '\n') cs
  | 0, lineStart, c :: cs =>
    match p lineStart (c :: cs) with
    | some (value, rest) => .inr value :: cutFrom p (cs.length - rest.length) (c = '\n') cs
    | none => .inl c :: cutFrom p 0 (c = '\n') cs

/-- The characters outside all matches, and in place of each match its value. -/
def pieces (p : Pattern α) (s : List Char) : List (Char ⊕ α) := cutFrom p 0 true s

/-- Pieces written as text, matches by `f`. -/
def writePieces (f : α → List Char) (parts : List (Char ⊕ α)) : List Char :=
  parts.flatMap fun
    | .inl c => [c]
    | .inr value => f value

/-- The text with each match written anew. -/
def replaceAll (p : Pattern α) (f : α → List Char) (s : List Char) : List Char :=
  writePieces f (pieces p s)

/-- The values of the matches in order. -/
def hits (p : Pattern α) (s : List Char) : List α :=
  (pieces p s).filterMap fun
    | .inl _ => none
    | .inr value => some value

theorem cutFrom_of_no_match (p : Pattern α) (s : List Char) (start : Bool)
    (h : ∀ t b, t <:+ s → p b t = none) : cutFrom p 0 start s = s.map .inl := by
  induction s generalizing start with
  | nil => rfl
  | cons c cs ih =>
    have hc : p start (c :: cs) = none := h _ _ (List.suffix_refl _)
    have hcs := ih (c = '\n') fun t b ht => h t b (ht.trans (List.suffix_cons c cs))
    simp [cutFrom, hc, hcs]

/-- A text in which a pattern matches nowhere is cut into its characters. -/
theorem pieces_of_no_match (p : Pattern α) (s : List Char)
    (h : ∀ t b, t <:+ s → p b t = none) : pieces p s = s.map .inl :=
  cutFrom_of_no_match p s true h

/-- A word up to case: the text that stands for it, and the rest. Beside the capitals, the long s
stands for `s` and the Kelvin sign for `k`. -/
def wordUpToCase? : List Char → List Char → Option (List Char × List Char)
  | [], s => some ([], s)
  | _ :: _, [] => none
  | w :: ws, c :: cs =>
    if c.toLower = w ∨ (w = 's' ∧ c.toNat = 0x17F) ∨ (w = 'k' ∧ c.toNat = 0x212A) then
      (wordUpToCase? ws cs).map fun (matched, rest) => (c :: matched, rest)
    else none

/-- A space or a tab. -/
def isSpaceOrTab (c : Char) : Bool := c == ' ' || c == '\t'

/-- The text behind a word and at least one white-space character. -/
def wordAndBlanks? (word s : List Char) : Option (List Char) :=
  match word.isPrefixOf? s with
  | some (c :: rest) => if isBlank c then some (rest.dropWhile isBlank) else none
  | _ => none

end LiveBundle.Text
