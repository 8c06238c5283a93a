import LiveBundle.Text.Utf8

/-!
# Globs

Patterns on paths. `?` stands for one byte and `*` for any bytes, slashes included; two stars stand
for whole segments; classes are in brackets and alternatives in braces. A backslash takes the
character behind it literally.

* `Glob.parse` reads a pattern, or says why it is none.
* `Glob.isMatch` tests a path; the bytes of its UTF-8 encoding are matched.
-/

namespace LiveBundle

/-- A part of a pattern. -/
inductive Glob.Token where
  | literal (c : Char)
  | any
  | zeroOrMore
  /-- Two stars in front: nothing, or segments up to a slash. -/
  | leadingSegments
  /-- Two stars at the end: a slash and whatever follows. -/
  | trailingSegments
  /-- Two stars between slashes: one slash, or two with segments between them. -/
  | innerSegments
  | oneOf (negated : Bool) (ranges : List (Char × Char))
  | alternatives (branches : List (List Glob.Token))

/-- A pattern. -/
structure Glob where
  tokens : List Glob.Token

/-- Why a text is no pattern. -/
inductive Glob.Fault where
  | unclosedClass
  | invalidRange (lo hi : Char)
  | unopenedAlternatives
  | unclosedAlternatives
  | danglingEscape
deriving DecidableEq, Repr

/-- The wording of a fault. -/
def Glob.Fault.message : Glob.Fault → String
  | .unclosedClass => "unclosed character class; missing ']'"
  | .invalidRange lo hi =>
    "invalid range; '" ++ String.ofList [lo] ++ "' > '" ++ String.ofList [hi] ++ "'"
  | .unopenedAlternatives =>
    "unopened alternate group; missing '\x7b' (maybe escape '\x7d' with '[\x7d]'?)"
  | .unclosedAlternatives =>
    "unclosed alternate group; missing '\x7d' (maybe escape '\x7b' with '[\x7b]'?)"
  | .danglingEscape => "dangling '\\'"

namespace Glob

/-! ## Matching -/

/-- The texts that begin behind a slash of a text. -/
def behindSlashes : List Nat → List (List Nat)
  | [] => []
  | b :: rest => if b = '/'.toNat then rest :: behindSlashes rest else behindSlashes rest

/-- All texts that a text ends with. -/
def endings : List Nat → List (List Nat)
  | [] => [[]]
  | b :: rest => (b :: rest) :: endings rest

/-- The bytes between two characters: those of the first one but the last, the range from its last
byte to the first byte of the other one, and the rest of the other one. -/
def byteRanges (lo hi : Char) : List (Nat × Nat) :=
  let singles (bytes : List Nat) : List (Nat × Nat) := bytes.map fun b => (b, b)
  let bytes := Text.Utf8.charBytes lo
  if lo = hi then singles bytes
  else match bytes.getLast?, Text.Utf8.charBytes hi with
    | some last, first :: rest => singles bytes.dropLast ++ (last, first) :: singles rest
    | _, _ => []

/-- Whether a byte belongs to a class. -/
def inClass (negated : Bool) (ranges : List (Char × Char)) (b : Nat) : Bool :=
  (ranges.any fun (lo, hi) => (byteRanges lo hi).any fun (l, h) => l ≤ b && b ≤ h) != negated

mutual

/-- Whether a part stands for no text because it has only empty alternatives. -/
def Token.isVoid : Token → Bool
  | .alternatives branches => allVoid branches
  | _ => false

/-- Whether each part of a branch is void. -/
def isVoidBranch : List Token → Bool
  | [] => true
  | t :: ts => t.isVoid && isVoidBranch ts

/-- Whether each branch is void. -/
def allVoid : List (List Token) → Bool
  | [] => true
  | b :: bs => isVoidBranch b && allVoid bs

end

mutual

/-- Whether a part matches the front of a text so that the rest passes a test. -/
def matchToken : Token → (List Nat → Bool) → List Nat → Bool
  | .literal c, test, s =>
    match (Text.Utf8.charBytes c).isPrefixOf? s with
    | some rest => test rest
    | none => false
  | .any, test, s =>
    match s with
    | _ :: rest => test rest
    | [] => false
  | .zeroOrMore, test, s => (endings s).any test
  | .leadingSegments, test, s => test s || (behindSlashes s).any test
  | .trailingSegments, test, s =>
    match s with
    | b :: rest => b = '/'.toNat && (endings rest).any test
    | [] => false
  | .innerSegments, test, s =>
    match s with
    | b :: rest => b = '/'.toNat && (test rest || (behindSlashes rest).any test)
    | [] => false
  | .oneOf negated ranges, test, s =>
    match s with
    | b :: rest => inClass negated ranges b && test rest
    | [] => false
  | .alternatives branches, test, s =>
    if allVoid branches then test s else matchAny branches test s

/-- Whether parts match the front of a text one after the other so that the rest passes a test. -/
def matchAll : List Token → (List Nat → Bool) → List Nat → Bool
  | [], test, s => test s
  | t :: ts, test, s => matchToken t (matchAll ts test) s

/-- Whether one of the branches matches; void branches do not count. -/
def matchAny : List (List Token) → (List Nat → Bool) → List Nat → Bool
  | [], _, _ => false
  | b :: bs, test, s => (!isVoidBranch b && matchAll b test s) || matchAny bs test s

end

/-- Whether a path matches a pattern. The pattern of two stars alone matches every path. -/
def isMatch (g : Glob) (path : String) : Bool :=
  match g.tokens with
  | [.leadingSegments] => true
  | tokens => matchAll tokens List.isEmpty (Text.Utf8.encode path.toList)

/-! ## Reading -/

/-- A pattern that is being read: its parts so far in reverse, and for each open brace the finished
branches and the parts in front of it, both in reverse. -/
structure Builder where
  current : List Token := []
  braces : List (List (List Token) × List Token) := []

/-- Adds a part. -/
def Builder.push (b : Builder) (t : Token) : Builder := { b with current := t :: b.current }

/-- Adds the end of a range to the ranges read so far. -/
def endRange (c : Char) : List (Char × Char) → Except Fault (List (Char × Char))
  | (lo, _) :: rest => if c < lo then .error (.invalidRange lo c) else .ok ((lo, c) :: rest)
  | [] => .ok [(c, c)]

/-- Reads a class behind its bracket and its mark of negation: the ranges in reverse and the rest.
A bracket or a hyphen that comes first stands for itself, and so does a hyphen that comes last. -/
def readClass : Bool → Bool → List (Char × Char) → List Char →
    Except Fault (List (Char × Char) × List Char)
  | _, _, _, [] => .error .unclosedClass
  | first, inRange, ranges, c :: cs =>
    if c = ']' && !first then
      .ok (if inRange then ('-', '-') :: ranges else ranges, cs)
    else if c = '-' && !first && !inRange then readClass false true ranges cs
    else if inRange then
      match endRange c ranges with
      | .ok ranges => readClass false false ranges cs
      | .error e => .error e
    else readClass false false ((c, c) :: ranges) cs

/-- Adds what two stars mean, seen from the character in front of them: segments where they fill a
segment, else any bytes. Gives the rest of the pattern, too. -/
def Builder.doubleStar (b : Builder) (before : Option Char) (rest : List Char) :
    Builder × List Char :=
  let plain := (b.push .zeroOrMore).push .zeroOrMore
  if b.current.isEmpty then
    match rest with
    | [] => (b.push .leadingSegments, [])
    | '/' :: rest => (b.push .leadingSegments, rest)
    | rest => (plain, rest)
  else if before != some '/' then (plain, rest)
  else
    let replaceLast (t : Token) : Builder :=
      match b.current with
      | .leadingSegments :: _ | .trailingSegments :: _ => b
      | _ :: older => { b with current := t :: older }
      | [] => b
    match rest with
    | [] => (replaceLast .trailingSegments, [])
    | '/' :: rest => (replaceLast .innerSegments, rest)
    | c :: rest =>
      if (c = ',' || c = '\x7d') && !b.braces.isEmpty then
        (replaceLast .trailingSegments, c :: rest)
      else (plain, c :: rest)

/-- Reads the rest of a pattern behind a character. -/
def readFrom : Nat → Option Char → Builder → List Char → Except Fault Builder
  | 0, _, b, _ => .ok b
  | _, _, b, [] => .ok b
  | fuel + 1, before, b, c :: cs =>
    match c with
    | '?' => readFrom fuel (some c) (b.push .any) cs
    | '*' =>
      match cs with
      | '*' :: rest =>
        let (b, behind) := b.doubleStar before rest
        let last := if behind.length < rest.length then '/' else '*'
        readFrom fuel (some last) b behind
      | _ => readFrom fuel (some c) (b.push .zeroOrMore) cs
    | '[' =>
      let (negated, cs) := match cs with
        | '!' :: rest | '^' :: rest => (true, rest)
        | _ => (false, cs)
      match readClass true false [] cs with
      | .ok (ranges, rest) => readFrom fuel (some ']') (b.push (.oneOf negated ranges.reverse)) rest
      | .error e => .error e
    | '\x7b' => readFrom fuel (some c) ⟨[], ([], b.current) :: b.braces⟩ cs
    | '\x7d' =>
      match b.braces with
      | [] => .error .unopenedAlternatives
      | (branches, outer) :: braces =>
        let t := Token.alternatives (b.current.reverse :: branches).reverse
        readFrom fuel (some c) ⟨t :: outer, braces⟩ cs
    | ',' =>
      match b.braces with
      | [] => readFrom fuel (some c) (b.push (.literal ',')) cs
      | (branches, outer) :: braces =>
        readFrom fuel (some c) ⟨[], (b.current.reverse :: branches, outer) :: braces⟩ cs
    | '\\' =>
      match cs with
      | [] => .error .danglingEscape
      | d :: rest => readFrom fuel (some d) (b.push (.literal d)) rest
    | c => readFrom fuel (some c) (b.push (.literal c)) cs

/-- Reads a pattern. -/
def parse (text : String) : Except Fault Glob :=
  match readFrom text.length none {} text.toList with
  | .ok b => if b.braces.isEmpty then .ok ⟨b.current.reverse⟩ else .error .unclosedAlternatives
  | .error e => .error e

end Glob

end LiveBundle
