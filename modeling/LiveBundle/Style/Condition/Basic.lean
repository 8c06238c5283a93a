import LiveBundle.Style.Value

/-!
# Conditions

Rules may depend on conditions: tests of features and of what the browser supports, joined by *not*,
*and* and *or*. Comparisons are written with `min-` and `max-` for the sake of browsers that know
nothing else; where they exclude their bound, as the negation of the opposite comparison.

* `Condition.text` writes a condition.
* `Condition.read` reads one, given what may stand at its leaves.
-/

namespace LiveBundle.Style

/-- How a feature is compared with a value. -/
inductive Comparison where
  | less
  | atMost
  | equal
  | atLeast
  | greater
deriving DecidableEq, Repr

namespace Comparison

/-- The comparison with its sides exchanged. -/
def opposite : Comparison → Comparison
  | less => greater
  | atMost => atLeast
  | equal => equal
  | atLeast => atMost
  | greater => less

/-- The comparison that holds where this one does not. -/
def negated? : Comparison → Option Comparison
  | less => some atLeast
  | atMost => some greater
  | equal => none
  | atLeast => some less
  | greater => some atMost

/-- Whether it excludes its bound. -/
def isStrict (c : Comparison) : Bool := c == less || c == greater

/-- Whether it asks for small values. -/
def isUpper (c : Comparison) : Bool := c == less || c == atMost

/-- Whether it asks for large values. -/
def isLower (c : Comparison) : Bool := c == greater || c == atLeast

end Comparison

/-- A test of a feature. -/
inductive Feature where
  | has (name : String)
  | is (name : String) (value : Value)
  | compare (name : String) (comparison : Comparison) (value : Value)
  /-- Two comparisons of the feature, each with the feature on its left. -/
  | between (name : String) (first : Comparison) (low : Value) (second : Comparison) (high : Value)
deriving Repr, Inhabited

/-- A condition. -/
inductive Condition where
  | feature (f : Feature)
  /-- A test that is written as it stands. -/
  | verbatim (text : String)
  | negation (c : Condition)
  | conjunction (cs : List Condition)
  | disjunction (cs : List Condition)
deriving Repr, Inhabited

/-! ## Writing -/

/-- The name of a feature with a mark for its bounds, which stands behind the prefix of a vendor. -/
def boundName (mark name : String) : String :=
  match Text.stripPrefix? "-webkit-" name with
  | some rest => "-webkit-" ++ mark ++ rest
  | none => mark ++ name

/-- A comparison; one that excludes its bound is a negation. -/
def comparisonText (name : String) (c : Comparison) (value : Value) : String :=
  let bound (mark : String) : String := "(" ++ boundName mark name ++ ": " ++ value.text ++ ")"
  match c with
  | .less => "not " ++ bound "min-"
  | .atMost => bound "max-"
  | .equal => bound ""
  | .atLeast => bound "min-"
  | .greater => "not " ++ bound "max-"

namespace Feature

/-- One of two comparisons. -/
def boundText (name : String) (c : Comparison) (value : Value) : String :=
  if c.isStrict then "(" ++ comparisonText name c value ++ ")" else comparisonText name c value

/-- A test as text. -/
def text : Feature → String
  | has name => "(" ++ name ++ ")"
  | is name value => "(" ++ name ++ ": " ++ value.text ++ ")"
  | compare name c value => comparisonText name c value
  | between name first low second high =>
    boundText name first low ++ " and " ++ boundText name second high

end Feature

namespace Condition

/-- A text in brackets if they are needed. -/
def bracketed (needed : Bool) (text : String) : String :=
  if needed then "(" ++ text ++ ")" else text

/-- Whether a condition needs brackets inside a conjunction (`some true`), a disjunction
(`some false`) or a negation. -/
def needsBrackets (parent : Option Bool) : Condition → Bool
  | feature (.compare _ c _) => c.isStrict
  | feature (.between ..) => parent != some true
  | negation _ => true
  | conjunction _ => parent != some true
  | disjunction _ => parent != some false
  | _ => false

mutual

/-- A condition as text. -/
def text : Condition → String
  | feature f => f.text
  | verbatim text => text
  | negation c => "not " ++ bracketed (needsBrackets none c) (text c)
  | conjunction cs => joined true cs
  | disjunction cs => joined false cs

/-- Conditions with *and* or *or* between them. -/
def joined (isAnd : Bool) : List Condition → String
  | [] => ""
  | [c] => bracketed (needsBrackets (some isAnd) c) (text c)
  | c :: cs =>
    bracketed (needsBrackets (some isAnd) c) (text c) ++ (if isAnd then " and " else " or ") ++
      joined isAnd cs

end

/-- The negation of a condition of features: a double one vanishes, a comparison is turned round. -/
def negated : Condition → Condition
  | negation c => c
  | feature (.compare name c value) =>
    match c.negated? with
    | some c => feature (.compare name c value)
    | none => negation (feature (.compare name c value))
  | c => negation c

/-! ## Reading -/

/-- What reads the leaves of a condition. -/
structure Leaves where
  /-- A test in brackets that is no condition in brackets, or a function. -/
  leaf : Piece → Option Condition
  /-- Whether a negation is simplified. -/
  simplifies : Bool

mutual

/-- A condition; without `allowsOr` it is no disjunction. The first argument bounds its depth. -/
def reader (leaves : Leaves) : Nat → Bool → Reader Condition
  | 0, _ => Reader.fail
  | fuel + 1, allowsOr =>
    (do
      Reader.word "not"
      let c ← operand leaves fuel
      return if leaves.simplifies then c.negated else negation c) <|>
    (do
      let first ← operand leaves fuel
      match ← Reader.optional (Reader.oneOf ["and", "or"]) with
      | none => return first
      | some word =>
        Reader.require (allowsOr || word == "and")
        let second ← operand leaves fuel
        let more ← Reader.many (do Reader.word word; operand leaves fuel)
        let all := first :: second :: more
        return if word == "and" then conjunction all else disjunction all)

/-- A condition in brackets, or a leaf. -/
def operand (leaves : Leaves) : Nat → Reader Condition
  | 0 => Reader.fail
  | fuel + 1 => do
    let p ← Reader.piece
    match p with
    | .block .paren inner =>
      match Reader.whole (reader leaves fuel true) inner with
      | some c => return c
      | none => Reader.ofOption (leaves.leaf p)
    | .function .. => Reader.ofOption (leaves.leaf p)
    | _ => Reader.fail

end

/-- A condition. -/
def read (leaves : Leaves) (allowsOr : Bool) : Reader Condition := fun ps =>
  reader leaves (2 * weightOf ps + 2) allowsOr ps

end Condition

end LiveBundle.Style
