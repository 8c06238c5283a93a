import LiveBundle.Style.Selector.Basic
import LiveBundle.Style.Lexer
import LiveBundle.Style.Verbatim

/-!
# Reading selectors

Reads selectors from pieces. White space is a combinator unless another one stands beside it. Inside
a rule a selector is relative to the surrounding one: if it does not mention it, it selects among
its descendants, and it may start with a combinator.

* `Selector.list?` reads a list of selectors, `Selector.relativeList?` one inside a rule.
-/

namespace LiveBundle.Style

namespace Selector

/-- Reads a selector from pieces that have to be used up. -/
abbrev ReadOne := List Piece → Option Selector

/-- The text of pieces without comments. -/
def plainSource (ps : List Piece) : List Char :=
  ps.flatMap fun
    | .token .comment _ => []
    | p => p.source.toList

/-! ## Places among siblings -/

/-- A whole number that may have a sign. -/
def signedNumber? (s : List Char) : Option Int :=
  let (negative, digits) := match s with
    | '-' :: rest => (true, rest)
    | '+' :: rest => (false, rest)
    | rest => (false, rest)
  if digits.isEmpty || !digits.all Char.isDigit then none
  else
    let n : Int := Lexer.digitsValue digits
    some (if negative then -n else n)

/-- The number behind `n`: nothing, or a sign, blanks and digits. -/
def offset? (s : List Char) : Option Int :=
  match s.dropWhile Lexer.isSpace with
  | [] => some 0
  | sign :: rest =>
    if sign = '+' ∨ sign = '-' then
      let digits := rest.dropWhile Lexer.isSpace
      if digits.isEmpty || !digits.all Char.isDigit then none
      else
        let n : Int := Lexer.digitsValue digits
        some (if sign = '-' then -n else n)
    else none

/-- The places `a · n + b` of a text. -/
def places? (text : List Char) : Option (Int × Int) :=
  let s := Text.trim (text.map Char.toLower)
  if s = "even".toList then some (2, 0)
  else if s = "odd".toList then some (2, 1)
  else
    match Text.splitAt? 'n' s with
    | none => (signedNumber? s).map (0, ·)
    | some (factor, rest) =>
      let a? := match factor with
        | [] => some 1
        | ['+'] => some 1
        | ['-'] => some (-1)
        | factor => signedNumber? factor
      match a?, offset? rest with
      | some a, some b => some (a, b)
      | _, _ => none

/-- The pieces in front of the word `of`, and those behind it. -/
def splitAtOf : List Piece → List Piece × Option (List Piece)
  | [] => ([], none)
  | p :: ps =>
    match p with
    | .token (.ident name) _ =>
      if Text.asciiLower name = "of" then ([], some ps)
      else
        let (before, behind) := splitAtOf ps
        (p :: before, behind)
    | _ =>
      let (before, behind) := splitAtOf ps
      (p :: before, behind)

/-! ## Attributes -/

/-- The name of an attribute with its namespace. -/
def attributeName : Reader String := fun ps =>
  match skipBlank ps with
  | .token (.ident ns) _ :: .token (.delim '|') _ :: .token (.ident name) _ :: rest =>
    some (identText ns ++ "|" ++ identText name, rest)
  | .token (.delim '*') _ :: .token (.delim '|') _ :: .token (.ident name) _ :: rest =>
    some ("*|" ++ identText name, rest)
  | .token (.delim '|') _ :: .token (.ident name) _ :: rest => some (identText name, rest)
  | .token (.ident name) _ :: rest => some (identText name, rest)
  | _ => none

/-- The operator of an attribute test. -/
def attributeOperator : Reader String := do
  match ← Reader.token with
  | .delim '=' => return "="
  | .comparison c => return String.ofList [c, '=']
  | _ => Reader.fail

/-- A name or a string. -/
def nameOrString : Reader String := do
  match ← Reader.token with
  | .ident name => return name
  | .string s => return s
  | _ => Reader.fail

/-- What stands in square brackets. -/
def attributeTest : Reader Component := do
  let name ← attributeName
  if ← Reader.atEnd then return .hasAttribute name
  let operator ← attributeOperator
  let value ← nameOrString
  let caseRule ← if ← Reader.atEnd then pure CaseRule.default
    else Reader.lookup [("i", CaseRule.insensitive), ("s", CaseRule.sensitive)]
  return .testAttribute name operator value caseRule

/-! ## Components -/

/-- The parts that may be written with one colon. -/
def singleColonParts : List String := ["before", "after", "first-line", "first-letter"]

/-- The states that belong to scroll bars. -/
def scrollbarStates : List String := [
  "horizontal", "vertical", "decrement", "increment", "start", "end", "double-button",
  "single-button", "no-button", "corner-present", "window-inactive"]

/-- The states that a user brings about. -/
def userStates : List String := ["active", "hover", "focus", "focus-within", "focus-visible"]

/-- The states with a known name, in lower case. -/
def knownStates : List String := Component.supportedStates ++ userStates ++ scrollbarStates ++ [
  "current", "past", "future", "playing", "paused", "seeking", "buffering", "stalled", "muted",
  "volume-locked", "fullscreen", "-webkit-full-screen", "-moz-full-screen", "-ms-fullscreen",
  "open", "closed", "modal", "picture-in-picture", "popover-open", "defined",
  "-webkit-any-link", "-moz-any-link", "local-link", "target-within", "-moz-read-only",
  "-moz-read-write", "-moz-placeholder-shown", "-ms-placeholder-shown", "blank", "user-valid",
  "user-invalid", "autofill", "-webkit-autofill", "-o-autofill", "active-view-transition"]

/-- A state or part in lower case if its name is known. -/
def canonicalName (known : List String) (name : String) : String :=
  let lower := Text.asciiLower name
  if known.contains lower then lower else name

/-- Where in a selector the reading has got to. -/
structure Progress where
  /-- Whether a known part of an element was named. -/
  behindPart : Bool := false
  /-- Whether that part belongs to a scroll bar. -/
  behindScrollbar : Bool := false

/-- Whether a state may be tested here. -/
def allowsState (progress : Progress) (name : String) : Bool :=
  if progress.behindScrollbar then true
  else if progress.behindPart then
    userStates.contains name || name == "only-child" || name == "-webkit-autofill"
  else !scrollbarStates.contains name

/-- The places among siblings by the name of the test. -/
def placeNamed? : String → Option Place
  | "nth-child" => some .child
  | "nth-last-child" => some .lastChild
  | "nth-of-type" => some .ofType
  | "nth-last-of-type" => some .lastOfType
  | _ => none

/-- Reads the parts between commas. -/
def listOf (one : ReadOne) (ps : List Piece) : Option (List Selector) :=
  (Reader.splitAtCommas ps).mapM one

/-- Reads the parts between commas and leaves out those that cannot be read. -/
def forgivingListOf (one : ReadOne) (ps : List Piece) : List Selector :=
  (Reader.splitAtCommas ps).filterMap one

/-- A state with arguments. `one` reads a selector, `relative` one that may start with a
combinator. -/
def stateCall? (one relative : ReadOne) (name : String) (inner : List Piece) :
    Option Component :=
  let lower := Text.asciiLower name
  match placeNamed? lower with
  | some place =>
    let (before, behind) := splitAtOf inner
    match places? (plainSource before), behind with
    | some (a, b), none => some (.nth place a b [])
    | some (a, b), some behind => (listOf one behind).map (.nth place a b ·)
    | none, _ => none
  | none =>
    match lower with
    | "is" => some (.choice .matching (forgivingListOf one inner))
    | "where" => some (.choice .whereMatching (forgivingListOf one inner))
    | "not" => (listOf one inner).map (.choice .excluding ·)
    | "has" => (listOf relative inner).map (.choice .having ·)
    | "host" => (listOf one inner).map (.choice .host ·)
    | "-webkit-any" => (listOf one inner).map (.choice (.any "-webkit-") ·)
    | "-moz-any" => (listOf one inner).map (.choice (.any "-moz-") ·)
    | "lang" =>
      ((Reader.splitAtCommas inner).mapM (Reader.whole nameOrString)).map fun names =>
        .stateCall "lang" (names.map identText)
    | "dir" => (Reader.whole (Reader.oneOf ["ltr", "rtl"]) inner).map (.stateCall "dir" [·])
    | _ => if areSound inner then some (.stateCall name [sourceOf inner]) else none

/-- A part with arguments. -/
def partCall? (one : ReadOne) (name : String) (inner : List Piece) : Option Component :=
  match Text.asciiLower name with
  | "slotted" => (one inner).map fun s => .choice .slotted [s]
  | "cue" => (one inner).map fun s => .choice .cue [s]
  | "cue-region" => (one inner).map fun s => .choice .cueRegion [s]
  | "part" =>
    (Reader.whole (Reader.many1 Reader.name) inner).map fun names =>
      .partCall "part" (Text.joinWith " " (names.map identText))
  | _ => if areSound inner then some (.partCall name (sourceOf inner)) else none

/-- What stands behind the colons of a state or part. -/
def named? (one relative : ReadOne) (progress : Progress) (double : Bool) :
    List Piece → Option (Component × List Piece)
  | .token (.ident name) _ :: rest =>
    let lower := Text.asciiLower name
    if double || singleColonParts.contains lower then
      some (.part (canonicalName Component.knownParts name), rest)
    else if allowsState progress lower then
      some (.state (canonicalName knownStates name), rest)
    else none
  | .function name _ inner :: rest =>
    if double then (partCall? one name inner).map (·, rest)
    else if progress.behindPart then none
    else (stateCall? one relative name inner).map (·, rest)
  | _ => none

/-- The next component of a compound, if there is one; an outer failure refuses the selector. -/
def simple? (one relative : ReadOne) (progress : Progress) :
    List Piece → Option (Option (Component × List Piece))
  | .token (.hash name true) _ :: rest =>
    if progress.behindPart then none else some (some (.id name, rest))
  | .token (.delim '.') _ :: rest =>
    if progress.behindPart then none
    else
      match rest with
      | .token (.ident name) _ :: rest => some (some (.className name, rest))
      | _ => none
  | .block .square inner :: rest =>
    if progress.behindPart then none
    else (Reader.whole attributeTest inner).map fun c => some (c, rest)
  | .token (.delim '&') _ :: rest => some (some (.nesting, rest))
  | .token .colon _ :: .token .colon _ :: rest => some <$> named? one relative progress true rest
  | .token .colon _ :: rest => some <$> named? one relative progress false rest
  | _ => some none

/-- The type at the start of a compound, with its namespace. -/
def type? : List Piece → Option (List Component × List Piece)
  | .token (.ident ns) _ :: .token (.delim '|') _ :: rest => local? (some (.inNamespace ns)) rest
  | .token (.delim '*') _ :: .token (.delim '|') _ :: rest => local? (some (.inNamespace "*")) rest
  | .token (.delim '|') _ :: rest => local? (some (.inNamespace "")) rest
  | ps => local? none ps
where
  /-- The type itself. -/
  local? (ns : Option Component) : List Piece → Option (List Component × List Piece)
    | .token (.ident name) _ :: rest => some (ns.toList ++ [.type name], rest)
    | .token (.delim '*') _ :: rest => some (ns.toList ++ [.universal], rest)
    | rest => if ns.isSome then none else some ([], rest)

/-- The progress behind a component. -/
def Progress.after (progress : Progress) (c : Component) : Progress :=
  match c with
  | .part name =>
    { behindPart := progress.behindPart || c.isKnownPart
      behindScrollbar := progress.behindScrollbar || Text.hasPrefix "-webkit-scrollbar" name ||
        name == "-webkit-resizer" }
  | c => { progress with behindPart := progress.behindPart || c.isKnownPart }

/-- The later components of a compound. -/
def simples (one relative : ReadOne) : Nat → Progress → List Piece →
    Option (List Component × Progress × List Piece)
  | 0, progress, ps => some ([], progress, ps)
  | fuel + 1, progress, ps =>
    match simple? one relative progress ps with
    | none => none
    | some none => some ([], progress, ps)
    | some (some (c, rest)) =>
      (simples one relative fuel (progress.after c) rest).map fun (cs, progress, rest) =>
        (c :: cs, progress, rest)

/-- A compound: the tests of one element. -/
def compound (one relative : ReadOne) (ps : List Piece) :
    Option (List Component × Progress × List Piece) :=
  let (nesting, ps) := match skipBlank ps with
    | .token (.delim '&') _ :: rest => ([Component.nesting], rest)
    | ps => ([], ps)
  match type? ps with
  | none => none
  | some (types, rest) =>
    match simples one relative (rest.length + 1) {} rest with
    | none => none
    | some (cs, progress, rest) =>
      let all := nesting ++ types ++ cs
      if all.isEmpty then none else some (all, progress, rest)

/-- The combinator with this sign. -/
def combinatorOf? : Piece → Option Combinator
  | .token (.delim '>') _ => some .child
  | .token (.delim '+') _ => some .nextSibling
  | .token (.delim '~') _ => some .laterSibling
  | _ => none

/-- The compounds of a selector with the combinators between them. -/
def compounds (one relative : ReadOne) : Nat → ReadOne
  | 0, _ => none
  | fuel + 1, ps =>
    match compound one relative ps with
    | none => none
    | some (cs, progress, rest) =>
      match skipBlank rest with
      | [] => some cs
      | p :: more =>
        if progress.behindPart then none
        else
          let next? := match combinatorOf? p with
            | some c => some (c, more)
            | none =>
              if (rest.head?.map Piece.isBlank).getD false then
                some (Combinator.descendant, p :: more)
              else none
          match next? with
          | none => none
          | some (c, more) =>
            (compounds one relative fuel more).map fun tail => cs ++ .combinator c :: tail

mutual

/-- A selector; `fuel` bounds the depth of lists inside tests. -/
def one : Nat → ReadOne
  | 0 => fun _ => none
  | fuel + 1 => fun ps => compounds (one fuel) (relative fuel) (ps.length + 1) ps

/-- A selector that may start with a combinator. -/
def relative : Nat → ReadOne
  | 0 => fun _ => none
  | fuel + 1 => fun ps =>
    match skipBlank ps with
    | p :: rest =>
      match combinatorOf? p with
      | some c =>
        (compounds (one fuel) (relative fuel) (rest.length + 1) rest).map (.combinator c :: ·)
      | none => compounds (one fuel) (relative fuel) (ps.length + 1) ps
    | [] => none

end

mutual

/-- Whether the component mentions the surrounding element. -/
def mentionsNesting : Component → Bool
  | .nesting => true
  | .choice _ selectors => anyListMentions selectors
  | _ => false

/-- Whether one of the components mentions the surrounding element. -/
def anyMentions : List Component → Bool
  | [] => false
  | c :: cs => mentionsNesting c || anyMentions cs

/-- Whether one of the selectors mentions the surrounding element. -/
def anyListMentions : List (List Component) → Bool
  | [] => false
  | s :: ss => anyMentions s || anyListMentions ss

end

/-- A selector inside a rule, made absolute by the surrounding element. -/
def absolute : Selector → Selector
  | .combinator c :: rest => .nesting :: .combinator c :: rest
  | s => if anyMentions s then s else .nesting :: .combinator .descendant :: s

/-- A list of selectors at the top level. -/
def list? (ps : List Piece) : Option (List Selector) := listOf (one (weightOf ps + 1)) ps

/-- A list of selectors inside a rule. -/
def relativeList? (ps : List Piece) : Option (List Selector) :=
  (listOf (relative (weightOf ps + 1)) ps).map (·.map absolute)

end Selector

end LiveBundle.Style
