import LiveBundle.Style.Value

/-!
# Verbatim values

What no grammar is known for is kept piece by piece: custom properties, properties with variables,
rules of unknown name. Numbers, strings, addresses and colors are still written in their usual form,
everything else as it stands. Blanks around the whole are cut off unless there is nothing else.

* `verbatim?` refuses pieces that no style sheet may hold.
* `verbatimText` writes them.
-/

namespace LiveBundle.Style

/-- Removes a blank at the front and one at the end, if there are other pieces. -/
def trimOne (ps : List Piece) : List Piece :=
  if ps.length < 2 then ps
  else
    let ps := match ps with
      | p :: rest => if p.isBlank then rest else ps
      | [] => ps
    match ps.reverse with
    | p :: rest => if p.isBlank then rest.reverse else ps
    | [] => ps

/-- The color that a function call is, if it is one. -/
def colorCall? (name : String) (inner : List Piece) : Option Color :=
  Reader.whole (Color.arguments (Text.asciiLower name)) inner

/-- The parts of `var()`: its name, and what stands behind the first comma. -/
def variableParts? (inner : List Piece) : Option (String × Option (List Piece)) :=
  match skipBlank inner with
  | .token (.ident name) _ :: rest =>
    if !Text.hasPrefix "--" name then none
    else
      match skipBlank rest with
      | [] => some (name, none)
      | .token .comma _ :: fallback => some (name, some fallback)
      | _ => none
  | _ => none

mutual

/-- Whether a piece may stand in a style sheet. -/
def Piece.isSound : Piece → Bool
  | .token t _ =>
    match t with
    | .badString => false
    | .badUrl => false
    | .closing _ => false
    | _ => true
  | .block _ inner => areSound inner
  | .function name _ inner =>
    if Text.asciiLower name == "url" then (Reader.whole Reader.string inner).isSome
    else if name == "var" then (variableParts? inner).isSome && areSound inner
    else areSound inner

/-- Whether all of some pieces may stand in a style sheet. -/
def areSound : List Piece → Bool
  | [] => true
  | p :: ps => p.isSound && areSound ps

end

/-- The pieces of a value that is kept as it is; nothing if one of them may not stand there. -/
def verbatim? (ps : List Piece) : Option (List Piece) :=
  if areSound ps then some (trimOne ps) else none

/-- A number with a unit. -/
def dimensionText (q : Rat) (unit : String) : String :=
  let lower := Text.asciiLower unit
  match Dimension.ofUnit? lower with
  | some .fraction => Decimal.write q ++ unitText unit
  | some _ => (Measure.quantity q lower).text
  | none => Decimal.write q ++ unitText unit

/-- A token in its usual form. -/
def Token.text (source : String) : Token → String
  | .ident name => identText name
  | .atKeyword name => "@" ++ identText name
  | .hash name _ =>
    match Color.ofHex? name.toList with
    | some c => c.text
    | none => "#" ++ identTail name
  | .string s => quoted s
  | .url a => address a
  | .number n => Decimal.write n.value
  | .percentage n =>
    (if n.signed && 0 ≤ n.value then "+" else "") ++ Decimal.writeFull n.value ++ "%"
  | .dimension n unit => dimensionText n.value unit
  | .comment => " "
  | _ => source

mutual

/-- A piece in its usual form. -/
def Piece.text : Piece → String
  | .token t source => t.text source
  | .block b inner =>
    String.singleton b.opening ++ piecesText inner ++ String.singleton b.closing
  | .function name _ inner =>
    match colorCall? name inner with
    | some c => c.text
    | none =>
      if Text.asciiLower name == "url" then address ((Reader.whole Reader.string inner).getD "")
      else if name == "var" then "var(" ++ variableText inner ++ ")"
      else identText name ++ "(" ++ argumentText inner ++ ")"

/-- Pieces in their usual form. -/
def piecesText : List Piece → String
  | [] => ""
  | p :: ps => p.text ++ piecesText ps

/-- The inner pieces of a function, without a blank in front. -/
def argumentText : List Piece → String
  | [] => ""
  | [p] => p.text
  | p :: ps => if p.isBlank then innerText ps else p.text ++ innerText ps

/-- Pieces without a blank at the end. -/
def innerText : List Piece → String
  | [] => ""
  | [p] => if p.isBlank then "" else p.text
  | p :: ps => p.text ++ innerText ps

/-- The inner pieces of `var()`. -/
def variableText : List Piece → String
  | [] => ""
  | p :: ps =>
    match p with
    | .token .comma _ => ", " ++ argumentText ps
    | .token (.ident name) _ => identText name ++ variableText ps
    | _ => variableText ps

end

/-- A verbatim value as text. -/
def verbatimText (ps : List Piece) : String := piecesText ps

end LiveBundle.Style
