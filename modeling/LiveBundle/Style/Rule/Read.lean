import LiveBundle.Style.Condition.Media
import LiveBundle.Style.Condition.Supports
import LiveBundle.Style.Rule.Basic
import LiveBundle.Style.Rule.Definition
import LiveBundle.Style.Selector.Read
import LiveBundle.Style.Selector.Write

/-!
# Reading rules

Reads a style sheet from its pieces. Inside a style rule a name may begin a declaration or another
rule; it is read as a declaration if possible. Declarations behind inner rules form a rule of their
own, so that their order is kept. A single item that is neither refuses the whole sheet.

* `Rule.sheet?` reads a sheet.
-/

namespace LiveBundle.Style

namespace Rule

/-! ## Headers -/

/-- An at-rule behind its name: the pieces up to a block or a semicolon, the block if there is one,
and what follows. -/
def splitAtRule : List Piece → List Piece × Option (List Piece) × List Piece
  | [] => ([], none, [])
  | p :: ps =>
    match p with
    | .token .semicolon _ => ([], none, ps)
    | .block .curly inner => ([], some inner, ps)
    | p =>
      let (header, block, rest) := splitAtRule ps
      (p :: header, block, rest)

/-- The name of a layer: names with points between them. -/
def layerName : Reader String := do
  let first ← Reader.name
  let more ← Reader.many directly
  return Text.joinWith "." ((first :: more).map identText)
where
  /-- A point and a name directly behind. -/
  directly : Reader String := do
    match ← Reader.rawPiece with
    | .token (.delim '.') _ =>
      match ← Reader.rawPiece with
      | .token (.ident name) _ => return name
      | _ => Reader.fail
    | _ => Reader.fail

/-- The names of layers between commas; there may be none. -/
def layerNames? (ps : List Piece) : Option (List String) :=
  if (skipBlank ps).isEmpty then some [] else Reader.whole (Reader.commaList layerName) ps

/-- The name and the condition of a surrounding box. -/
def containerHeader : Reader String := do
  let name ← Reader.optional (do
    let n ← Reader.name
    Reader.require (!(["none", "and", "not", "or"].contains (Text.asciiLower n)))
    return identText n)
  let condition ← if ← Reader.atEnd then pure none else some <$> Condition.ofContainer
  Reader.require (name.isSome || condition.isSome)
  return Text.joinWith " " (("@container" :: name.toList) ++ (condition.map Condition.text).toList)

/-- The limits of a scope. -/
def scopeHeader : Reader String := do
  let start ← Reader.optional limit
  let stop ← Reader.optional (do Reader.word "to"; limit)
  return Text.joinWith " " ("@scope" :: start.toList ++ (stop.map ("to " ++ ·)).toList)
where
  /-- Selectors in brackets. -/
  limit : Reader String := do
    match ← Reader.piece with
    | .block .paren inner =>
      let selectors ← Reader.ofOption (Selector.list? inner)
      return "(" ++ selectorListText none selectors ++ ")"
    | _ => Reader.fail

/-- The states of a page. -/
def pageStates : List String := ["first", "last", "left", "right", "blank"]

/-- A kind of page: a name and states. -/
def pageKind : Reader String := do
  let name ← Reader.optional Reader.name
  let states ← Reader.many (do Reader.colon; Reader.oneOf pageStates)
  Reader.require (name.isSome || !states.isEmpty)
  return ((name.map identText).getD "") ++ Text.joinWith "" (states.map (":" ++ ·))

/-- The kinds of pages of a rule. -/
def pageHeader (ps : List Piece) : Option String :=
  if (skipBlank ps).isEmpty then some "@page"
  else (Reader.whole (Reader.commaList pageKind) ps).map fun kinds =>
    "@page " ++ Text.joinWith ", " kinds

/-- The boxes in the margins of a page. -/
def marginBoxes : List String :=
  ["top-left-corner", "top-left", "top-center", "top-right", "top-right-corner",
    "bottom-left-corner", "bottom-left", "bottom-center", "bottom-right", "bottom-right-corner",
    "left-top", "left-middle", "left-bottom", "right-top", "right-middle", "right-bottom"]

/-- The declarations of a page and the boxes in its margins. The first argument bounds their number.
-/
def pageItems : Nat → Block → List (String × Block) → List Piece →
    Option (Block × List (String × Block))
  | 0, block, margins, _ => some (block, margins.reverse)
  | fuel + 1, block, margins, ps =>
    match ps.dropWhile Piece.isFiller with
    | [] => some (block, margins.reverse)
    | .token (.atKeyword name) _ :: rest =>
      match splitAtRule rest with
      | (header, some inner, rest) =>
        if marginBoxes.contains (Text.asciiLower name) && (skipBlank header).isEmpty then
          match declarations? inner with
          | some box => pageItems fuel block (("@" ++ Text.asciiLower name, box) :: margins) rest
          | none => none
        else none
      | _ => none
    | .token (.ident name) _ :: rest =>
      let (declaration, rest) := splitAtSemicolon rest
      match (behindColon? declaration).bind (Declaration.read? name) with
      | some (d, important) => pageItems fuel (block.add d important) margins rest
      | none => none
    | _ => none

/-- The address, the layer, the condition on the browser and the media of an imported sheet. -/
def importedSheet (ps : List Piece) : Option Rule := do
  let (address, ps) ← (Reader.string <|> Reader.url) ps
  let (layer, ps) ← (Reader.optional
    ((do Reader.word "layer"; return none) <|>
      (some <$> Reader.callOf "layer" layerName))) ps
  let (support, ps) ← (Reader.optional
    (Reader.callOf "supports" (Condition.ofSupport <|> Condition.ofDeclaration))) ps
  let media ← MediaQuery.list? ps
  let layerText := match layer with
    | some (some name) => [" layer(" ++ name ++ ")"]
    | some none => [" layer"]
    | none => []
  let supportText := support.map fun
    | .verbatim text => " supports" ++ text
    | c => " supports(" ++ c.text ++ ")"
  return .imported
    (Text.concat (["@import " ++ quoted address] ++ layerText ++ supportText.toList ++
      if media.isEmpty then [] else [" " ++ MediaQuery.listText media])) layer.join

/-- A namespace, which may have a name. -/
def namespaceRule : Reader Rule := do
  let name ← Reader.optional Reader.name
  let address ← Reader.string <|> Reader.url
  return .namespaced (Text.joinWith " " (("@namespace" :: (name.map identText).toList) ++
    [quoted address]))

/-! ## Rules -/

/-- Rules with a declaration more. It goes into the block in front of them, or into declarations at
their end. The rules come with the last one first. -/
def addDeclaration (block : Block) (rules : List Rule) (d : Declaration) (important : Bool) :
    Block × List Rule :=
  match rules with
  | [] => (block.add d important, [])
  | .bare last :: rest => (block, .bare (last.add d important) :: rest)
  | rules => (block, .bare (Block.empty.add d important) :: rules)

/-- The rules of a group. Declarations in front of them are a rule, too. -/
def grouped : Block × List Rule → List Rule
  | (block, rules) => if block.isEmpty then rules else .bare block :: rules

/-- The prefix with which the frames of an animation are given. -/
def keyframeVendor? (name : String) : Option Vendor :=
  Vendor.all.find? fun v => v.mark ++ "keyframes" == name

/-- A rule of unknown name, kept as it stands. -/
def unknownRule (name : String) (header : List Piece) (block : Option (List Piece)) :
    Option Rule := do
  let header ← verbatim? (trimBlank header)
  let block ← match block with
    | some inner => some <$> verbatim? inner
    | none => some none
  let front := "@" ++ name ++ (if header.isEmpty then "" else " " ++ verbatimText header)
  return .verbatim front (block.map verbatimText)

/-- The rules that hold definitions; these do not stand inside style rules. -/
def definition? (name : String) (header inner : List Piece) : Option Rule :=
  match name with
  | "font-face" =>
    if (skipBlank header).isEmpty then (fontFace? inner).map (.definition "@font-face" false ·)
    else none
  | "property" => do
    let property ← Reader.whole Reader.dashedName header
    return .definition ("@property " ++ identText property) true (← propertyForm? inner)
  | "counter-style" => do
    let style ← Reader.whole Reader.name header
    return .definition ("@counter-style " ++ identText style) false
      ((← declarations? inner).lines 0)
  | "font-palette-values" => do
    let palette ← Reader.whole Reader.dashedName header
    return .definition ("@font-palette-values " ++ identText palette) false
      ((← declarations? inner).lines 0)
  | "page" => do
    let (block, margins) ← pageItems inner.length Block.empty [] inner
    return .page (← pageHeader header) block margins
  | name => do
    let vendor ← keyframeVendor? name
    return .keyframes [vendor] (← Reader.whole animationText header) (← frames? inner)

/-- The names of the rules that hold definitions. -/
def isDefinition (name : String) : Bool :=
  ["font-face", "property", "counter-style", "font-palette-values", "page"].contains name ||
    (keyframeVendor? name).isSome

/-- The kind and the header of a group of rules. -/
def groupHeader? (name : String) (header : List Piece) : Option (Group × String) :=
  match name with
  | "media" => (MediaQuery.list? header).map fun qs =>
    (if !qs.isEmpty && qs.all MediaQuery.neverHolds then .never else .condition,
      "@media " ++ MediaQuery.listText qs)
  | "supports" => (Reader.whole Condition.ofSupport header).map fun c =>
    (.condition, "@supports " ++ c.text)
  | "container" => (Reader.whole containerHeader header).map (Group.condition, ·)
  | "layer" => do
    match ← layerNames? header with
    | [] => some (.layer none, "@layer")
    | [name] => some (.layer (some name), "@layer " ++ name)
    | _ => none
  | "starting-style" =>
    if (skipBlank header).isEmpty then some (.other, "@starting-style") else none
  | "scope" => (Reader.whole scopeHeader header).map (Group.other, ·)
  | "-moz-document" =>
    let address := Reader.callOf "url-prefix" (do let _ ← Reader.optional Reader.string)
    (Reader.whole address header).map fun _ => (.other, "@-moz-document url-prefix()")
  | _ => none

/-- The names of groups of rules. -/
def groupNames : List String := ["media", "supports", "container", "layer", "starting-style",
  "scope", "-moz-document"]

mutual

/-- The declarations and rules of a block. `inRule` says whether they stand inside a style rule. The
second argument bounds the number of tokens, the rules come with the last one first. -/
def items (inRule : Bool) : Nat → Block → List Rule → List Piece → Option (Block × List Rule)
  | 0, _, _, _ => none
  | fuel + 1, block, rules, ps =>
    match ps.dropWhile Piece.isFiller with
    | [] => some (block, rules.reverse)
    | .token (.atKeyword name) _ :: rest =>
      match atRule inRule fuel name rest with
      | some (rule, rest) => items inRule fuel block (rule :: rules) rest
      | none => none
    | p :: rest =>
      let declaration? := match p with
        | .token (.ident name) _ =>
          if inRule then
            (behindColon? (splitAtSemicolon rest).1).bind (Declaration.read? name)
          else none
        | _ => none
      match declaration? with
      | some (d, important) =>
        let (block, rules) := addDeclaration block rules d important
        items inRule fuel block rules (splitAtSemicolon rest).2
      | none =>
        match styleRule inRule fuel (p :: rest) with
        | some (rule, rest) => items inRule fuel block (rule :: rules) rest
        | none => none

/-- A style rule, and what follows. -/
def styleRule (inRule : Bool) : Nat → List Piece → Option (Rule × List Piece)
  | 0, _ => none
  | fuel + 1, ps =>
    match splitAtBlock inRule ps with
    | (_, none) => none
    | (front, some (inner, rest)) =>
      match if inRule then Selector.relativeList? front else Selector.list? front with
      | some selectors =>
        (items true fuel Block.empty [] inner).map fun (block, rules) =>
          (.style selectors block rules, rest)
      | none => none

/-- A rule with a name behind `@`, and what follows. -/
def atRule (inRule : Bool) : Nat → String → List Piece → Option (Rule × List Piece)
  | 0, _, _ => none
  | fuel + 1, name, ps =>
    let lower := Text.asciiLower name
    match splitAtRule ps with
    | (header, none, rest) =>
      if lower = "layer" then
        match layerNames? header with
        | some (first :: more) => if inRule then none else some (.layers (first :: more), rest)
        | _ => none
      else if groupNames.contains lower || isDefinition lower then none
      else (unknownRule name header none).map (·, rest)
    | (header, some inner, rest) =>
      if groupNames.contains lower then
        match groupHeader? lower header with
        | some (kind, text) =>
          (items inRule fuel Block.empty [] inner).map fun content =>
            (.group kind text (grouped content), rest)
        | none => none
      else if lower = "nest" && inRule then
        match Selector.relativeList? header with
        | some selectors =>
          (items true fuel Block.empty [] inner).map fun (block, rules) =>
            (.style selectors block rules, rest)
        | none => none
      else if isDefinition lower then
        if inRule then none else (definition? lower header inner).map (·, rest)
      else (unknownRule name header (some inner)).map (·, rest)

end

/-! ## Sheets -/

/-- How far a sheet has got: what stands in front of all other rules has a fixed order. -/
inductive Stage where
  | start
  | layers
  | imports
  | namespaces
  | body
deriving DecidableEq, Repr

/-- The stage behind a rule. -/
def Stage.after (stage : Stage) : Rule → Stage
  | .imported .. => .imports
  | .namespaced _ => .namespaces
  | .layers _ => if stage = .start ∨ stage = .layers then .layers else .body
  | .verbatim _ none => stage
  | _ => .body

/-- Whether a rule with this name is an imported sheet or a namespace that comes too late. -/
def Stage.refuses (stage : Stage) (name : String) : Bool :=
  match stage with
  | .body => name == "import" || name == "namespace"
  | .namespaces => name == "import"
  | _ => false

/-- The rules that stand at the top level only. -/
def topRule? (name : String) (ps : List Piece) : Option (Option Rule × List Piece) :=
  match splitAtRule ps with
  | (header, none, rest) =>
    match name with
    | "import" => (importedSheet header).map fun rule => (some rule, rest)
    | "namespace" => (Reader.whole namespaceRule header).map fun rule => (some rule, rest)
    | "charset" => (Reader.whole Reader.string header).map fun _ => (none, rest)
    | _ => none
  | _ => none

/-- Whether a piece may stand between the rules of a sheet. -/
def isBetween : Piece → Bool
  | .token .documentComment _ => true
  | p => p.isBlank

/-- The rules of a sheet. The first argument bounds the number of tokens. -/
def rulesFrom : Nat → Stage → List Piece → Option (List Rule)
  | 0, _, _ => none
  | fuel + 1, stage, ps =>
    match ps.dropWhile isBetween with
    | [] => some []
    | .token (.atKeyword name) _ :: rest =>
      let lower := Text.asciiLower name
      if ["import", "namespace", "charset"].contains lower then
        if stage.refuses lower then none
        else
          match topRule? lower rest with
          | some (some rule, rest) => (rulesFrom fuel (stage.after rule) rest).map (rule :: ·)
          | some (none, rest) => rulesFrom fuel stage rest
          | none => none
      else
        match atRule false fuel name rest with
        | some (rule, rest) => (rulesFrom fuel (stage.after rule) rest).map (rule :: ·)
        | none => none
    | ps =>
      match styleRule false fuel ps with
      | some (rule, rest) => (rulesFrom fuel .body rest).map (rule :: ·)
      | none => none

/-- The pieces behind the encoding that a sheet may start with. -/
def behindCharset (ps : List Piece) : List Piece :=
  match ps.dropWhile isBetween with
  | .token (.atKeyword name) source :: rest =>
    if Text.asciiLower name = "charset" then (splitAtRule rest).2.2
    else .token (.atKeyword name) source :: rest
  | ps => ps

/-- The rules of a sheet. -/
def sheet? (ps : List Piece) : Option (List Rule) :=
  rulesFrom (weightOf ps + 1) .start (behindCharset ps)

end Rule

end LiveBundle.Style
