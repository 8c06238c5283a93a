import LiveBundle.Text.Basic

/-!
# Punycode

Labels of domain names are ASCII. A label with other characters is written with its ASCII characters
first and the others as differences of their positions and code points, in digits to the base 36 of
variable length.

* `Punycode.encode` and `Punycode.decode?` translate a label without its `xn--`.
-/

namespace LiveBundle.Web.Punycode

/-- The character of a digit: letters first, then the ten figures. -/
def digitChar (d : Nat) : Char :=
  if d < 26 then Char.ofNat ('a'.toNat + d) else Char.ofNat ('0'.toNat + (d - 26))

/-- The digit of a character, in lower case. -/
def digitValue? (c : Char) : Option Nat :=
  if 'a' ≤ c ∧ c ≤ 'z' then some (c.toNat - 'a'.toNat)
  else if c.isDigit then some (c.toNat - '0'.toNat + 26)
  else none

/-- The threshold at a digit position: a digit below it ends a number. -/
def threshold (position bias : Nat) : Nat :=
  if position ≤ bias + 1 then 1 else if bias + 26 ≤ position then 26 else position - bias

/-- Scales a difference down and counts the steps; each step divides by 35. -/
def scaleDown : Nat → Nat → Nat → Nat × Nat
  | 0, delta, k => (delta, k)
  | fuel + 1, delta, k =>
    if 455 < delta then scaleDown fuel (delta / 35) (k + 36) else (delta, k)

/-- The bias after a difference. -/
def adapt (delta points : Nat) (first : Bool) : Nat :=
  let damped := if first then delta / 700 else delta / 2
  let (delta, k) := scaleDown 64 (damped + damped / points) 0
  k + 36 * delta / (delta + 38)

/-- The digits of a number, from a digit position on. -/
def digits (bias : Nat) : Nat → Nat → Nat → List Char
  | 0, _, _ => []
  | fuel + 1, position, q =>
    let t := threshold position bias
    if q < t then [digitChar q]
    else digitChar (t + (q - t) % (36 - t)) ::
      digits bias fuel (position + 36) ((q - t) / (36 - t))

/-- The state of the encoder. -/
structure Encoder where
  output : List Char
  delta : Nat
  bias : Nat
  /-- The number of characters handled. -/
  handled : Nat

/-- Passes over a character of the label while the code point `n` is being placed. -/
def Encoder.pass (basic n : Nat) (e : Encoder) (c : Char) : Encoder :=
  if c.toNat < n then { e with delta := e.delta + 1 }
  else if c.toNat = n then
    { output := e.output ++ digits e.bias 64 36 e.delta, delta := 0,
      bias := adapt e.delta (e.handled + 1) (e.handled = basic), handled := e.handled + 1 }
  else e

/-- Places the code points of an ascending list, `n` being the least one not yet looked at. -/
def Encoder.place (label : List Char) (basic : Nat) : Nat → List Nat → Encoder → Encoder
  | _, [], e => e
  | n, m :: rest, e =>
    let e := { e with delta := e.delta + (m - n) * (e.handled + 1) }
    let e := label.foldl (Encoder.pass basic m) e
    place label basic (m + 1) rest { e with delta := e.delta + 1 }

/-- Puts a number into an ascending list, unless it is there. -/
def insertAscending (x : Nat) : List Nat → List Nat
  | [] => [x]
  | y :: ys => if x < y then x :: y :: ys else if x = y then y :: ys else y :: insertAscending x ys

/-- The encoded form of a label. -/
def encode (label : List Char) : List Char :=
  let basic := label.filter (·.toNat < 0x80)
  let others := (label.filter (0x80 ≤ ·.toNat)).foldl (fun xs c => insertAscending c.toNat xs) []
  let front := if basic = [] then [] else basic ++ ['-']
  front ++ (Encoder.place label basic.length 0x80 others ⟨[], 0, 72, basic.length⟩).output

/-- Reads a number: its value and the rest. -/
def number? (bias : Nat) : Nat → Nat → Nat → List Char → Option (Nat × List Char)
  | _, _, _, [] => none
  | position, weight, value, c :: cs =>
    match digitValue? c with
    | none => none
    | some d =>
      let t := threshold position bias
      if d < t then some (value + d * weight, cs)
      else number? bias (position + 36) (weight * (36 - t)) (value + d * weight) cs

/-- Puts a character at a position of a label. -/
def insertAt (c : Char) : Nat → List Char → List Char
  | 0, label => c :: label
  | _ + 1, [] => [c]
  | n + 1, x :: xs => x :: insertAt c n xs

/-- Reads the numbers of an encoded label and puts the characters in. -/
def decodeFrom : Nat → Nat → Nat → Nat → List Char → List Char → Option (List Char)
  | _, _, _, _, label, [] => some label
  | 0, _, _, _, _, _ => none
  | fuel + 1, n, i, bias, label, code =>
    match number? bias 36 1 0 code with
    | none => none
    | some (difference, rest) =>
      let size := label.length + 1
      let place := i + difference
      let n := n + place / size
      if n.isValidChar then
        decodeFrom fuel n (place % size + 1) (adapt difference size (i = 0))
          (insertAt (Char.ofNat n) (place % size) label) rest
      else none

/-- The label that an encoded form stands for. -/
def decode? (code : List Char) : Option (List Char) :=
  let (front, rest) := (Text.splitAtLast? '-' code).getD ([], code)
  if front.any (0x80 ≤ ·.toNat) then none
  else decodeFrom code.length 0x80 0 72 front rest

end LiveBundle.Web.Punycode
