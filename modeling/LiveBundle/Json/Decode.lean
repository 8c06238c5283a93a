import LiveBundle.Json.Reader
import LiveBundle.Json.Basic
import LiveBundle.Text.Escaped
import LiveBundle.Dict

/-!
# Reading records

Readers for values of a fixed shape. A record is written as an object whose members may come in any
order, or as the list of its fields in their order; unknown members are passed over. A value of a
wrong kind is reported with what was found and what was expected.
-/

namespace LiveBundle.Json.Reader

variable {α β σ : Type}

/-- A number as it is named in a fault. -/
def numberKind : Number → String
  | .nat n => "integer `" ++ toString n ++ "`"
  | .negative n => "integer `-" ++ toString n ++ "`"
  | .float x => "floating point `" ++ floatText x ++ "`"

/-- Reports that the next value is not of the expected kind; scalars are read first. -/
def wrongKind (expected : String) : Reader α := located do
  match ← peek with
  | none => failNext .expectedValue
  | some c =>
    if c = 'n' then do
      advance
      word ['u', 'l', 'l']
      fail (.invalidType "null" expected)
    else if c = 't' then do
      advance
      word ['r', 'u', 'e']
      fail (.invalidType "boolean `true`" expected)
    else if c = 'f' then do
      advance
      word ['a', 'l', 's', 'e']
      fail (.invalidType "boolean `false`" expected)
    else if c = '-' then do
      advance
      let n ← number true
      fail (.invalidType (numberKind n) expected)
    else if c.isDigit then do
      let n ← number false
      fail (.invalidType (numberKind n) expected)
    else if c = '"' then do
      let s ← quoted
      fail (.invalidType ("string " ++ Text.Escaped.quoted s) expected)
    else if c = '[' then fail (.invalidType "sequence" expected)
    else if c = '{' then fail (.invalidType "map" expected)
    else failNext .expectedValue

/-- A string. -/
def string : Reader String := do
  match ← peekToken with
  | none => failNext .eofInValue
  | some c => if c = '"' then quoted else wrongKind "a string"

/-- A truth value. -/
def bool : Reader Bool := do
  match ← peekToken with
  | none => failNext .eofInValue
  | some c =>
    if c = 't' then do
      advance
      word ['r', 'u', 'e']
      pure true
    else if c = 'f' then do
      advance
      word ['a', 'l', 's', 'e']
      pure false
    else wrongKind "a boolean"

/-- A value that may be `null`. -/
def optional (r : Reader α) : Reader (Option α) := do
  if (← peekToken) = some 'n' then do
    advance
    word ['u', 'l', 'l']
    pure none
  else
    let a ← r
    pure (some a)

/-- A dictionary, with `depth` levels of nesting left. -/
def dict (depth : Nat) (item : Nat → Reader α) : Reader (Dict α) := located do
  match ← peekToken with
  | none => failNext .eofInValue
  | some c =>
    if c = '{' then
      object depth Dict.empty (fun depth key acc => do
        colon
        pure (acc.insert key (← item depth))) Reader.pure
    else wrongKind "a map"

/-- A field of a record that is collected in values of type `σ`. -/
structure Member (σ : Type) where
  name : String
  /-- Whether the field may not be left out. -/
  required : Bool
  /-- Reads the field, with some levels of nesting left. -/
  read : Nat → σ → Reader σ

/-- The description of a record in faults. -/
def recordKind (name : String) : String := "struct " ++ name

/-- Reads fields in their order as items of a list. -/
def positional (expected : String) : List (Member σ) → Nat → Nat → σ → Reader σ
  | [], _, _, acc => pure acc
  | field :: fields, index, depth, acc => do
    if ← hasItem (index = 0) then
      positional expected fields (index + 1) depth (← field.read depth acc)
    else if field.required then fail (.invalidLength index expected)
    else positional expected fields (index + 1) depth acc

/-- Reads the member `key` of a record; the names of the fields read so far are kept beside the
record. -/
def recordMember (fields : List (Member σ)) (depth : Nat) (key : String)
    (acc : List String × σ) : Reader (List String × σ) :=
  match fields.find? (·.name = key) with
  | none => do
    colon
    ignored
    pure acc
  | some field =>
    if acc.1.contains key then fail (.duplicateField key)
    else do
      colon
      pure (key :: acc.1, ← field.read depth acc.2)

/-- Ends a record whose members are read; the first required field that is missing is a fault. -/
def complete (fields : List (Member σ)) (acc : List String × σ) : Reader σ :=
  match fields.find? fun field => field.required && !acc.1.contains field.name with
  | some field => fail (.missingField field.name)
  | none => pure acc.2

/-- Reads a record, with `depth` levels of nesting left. -/
def record (name : String) (fields : List (Member σ)) (start : σ) (depth : Nat) : Reader σ :=
  located do
    match ← peekToken with
    | none => failNext .eofInValue
    | some c =>
      if c = '[' then
        let elements := if fields.length = 1 then " element" else " elements"
        let expected := recordKind name ++ " with " ++ toString fields.length ++ elements
        match depth with
        | 0 => failNext .recursionLimit
        | depth + 1 => do
          advance
          closing (positional expected fields 0 depth start) endList
      else if c = '{' then
        object depth ([], start) (recordMember fields) (complete fields)
      else wrongKind (recordKind name)

end LiveBundle.Json.Reader
