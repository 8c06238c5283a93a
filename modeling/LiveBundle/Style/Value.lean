import LiveBundle.Style.Color.Basic
import LiveBundle.Style.Math

/-!
# Values

The value of a property once its grammar is known: words, measures, calculations, colors, strings,
addresses and functions of these, in rows and in lists with commas. A value has one written form.

* `Value.text` writes a value.
* `Value.isCommon` says whether every target browser understands it.
-/

namespace LiveBundle.Style

/-- A value. -/
inductive Value where
  /-- A keyword or a name, as written. -/
  | word (text : String)
  | measure (m : Measure)
  | math (m : Math)
  | color (c : Color)
  | string (s : String)
  | url (address : String)
  | call (name : String) (arguments : List Value)
  /-- Values one after the other. -/
  | row (items : List Value)
  /-- Values between commas. -/
  | list (items : List Value)
deriving Repr, Inhabited

namespace Value

/-- A number. -/
def number (q : Rat) : Value := measure (.number q)

/-- A whole number. -/
def integer (n : Int) : Value := measure (.number n)

/-- A percentage. -/
def percentage (q : Rat) : Value := measure (.percentage q)

/-- The length zero. -/
def zero : Value := measure (.quantity 0 "px")

/-- The mark between two parts of a value. -/
def slash : Value := word "/"

/-- A calculation; one that is a measure is written as such. -/
def ofMath : Math → Value
  | .measure m => measure m
  | m => math m

mutual

/-- A value as text. -/
def text : Value → String
  | word text => text
  | measure m => m.short
  | math m => m.text
  | color c => c.text
  | string s => quoted s
  | url a => address a
  | call name arguments => name ++ "(" ++ listText arguments ++ ")"
  | row items => rowText items
  | list items => listText items

/-- Values with blanks between them. -/
def rowText : List Value → String
  | [] => ""
  | [v] => text v
  | v :: vs => text v ++ " " ++ rowText vs

/-- Values with commas between them. -/
def listText : List Value → String
  | [] => ""
  | [v] => text v
  | v :: vs => text v ++ ", " ++ listText vs

end

mutual

/-- Equality. -/
def same : Value → Value → Bool
  | word a, word b => a == b
  | measure a, measure b => a == b
  | math a, math b => a == b
  | color a, color b => a == b
  | string a, string b => a == b
  | url a, url b => a == b
  | call f a, call g b => f == g && sameAll a b
  | row a, row b => sameAll a b
  | list a, list b => sameAll a b
  | _, _ => false

/-- Equality of lists. -/
def sameAll : List Value → List Value → Bool
  | [], [] => true
  | a :: as, b :: bs => same a b && sameAll as bs
  | _, _ => false

end

instance : BEq Value := ⟨same⟩

mutual

/-- Whether every target browser knows the units and functions of the value. -/
def isCommon : Value → Bool
  | measure m => m.isCommon
  | math m => m.isCommon
  | call _ arguments => areCommon arguments
  | row items => areCommon items
  | list items => areCommon items
  | _ => true

/-- Whether every target browser knows the units and functions of all of them. -/
def areCommon : List Value → Bool
  | [] => true
  | v :: vs => isCommon v && areCommon vs

end

/-- The items of a row; another value is its only item. -/
def items : Value → List Value
  | row vs => vs
  | v => [v]

/-- The row of some values; one value stands for itself. -/
def ofItems : List Value → Value
  | [v] => v
  | vs => row vs

/-- The members of a list; another value is its only member. -/
def members : Value → List Value
  | list vs => vs
  | v => [v]

/-- The list of some values; one value stands for itself. -/
def ofMembers : List Value → Value
  | [v] => v
  | vs => list vs

/-- Whether it is a measure of amount zero. -/
def isZero : Value → Bool
  | measure m => m.isZero
  | _ => false

end Value

end LiveBundle.Style
