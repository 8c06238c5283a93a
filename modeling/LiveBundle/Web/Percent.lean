import LiveBundle.Text.CharClass
import LiveBundle.Text.Utf8

/-!
# Percent encoding

A byte is written as `%` and two capital hexadecimal digits. What may stay as it is depends on where
a text is to be put, so the encoder is told which characters to keep.

* `Percent.encode` writes a text, `Percent.decode` gives the bytes that a text stands for.
-/

namespace LiveBundle.Web.Percent

/-- A hexadecimal digit in capitals. -/
def hexDigit (n : Nat) : Char :=
  if n < 10 then Char.ofNat ('0'.toNat + n) else Char.ofNat ('A'.toNat + (n - 10))

/-- A byte in its encoded form. -/
def encodeByte (b : Nat) : List Char := ['%', hexDigit (b / 16), hexDigit (b % 16)]

/-- A character: as it is if it may stay, else its bytes. Only ASCII characters may stay. -/
def encodeChar (keep : Char → Bool) (c : Char) : List Char :=
  if c.toNat < 0x80 && keep c then [c] else (Text.Utf8.charBytes c).flatMap encodeByte

/-- A text with the bytes of characters that may not stay encoded. -/
def encode (keep : Char → Bool) (s : List Char) : List Char := s.flatMap (encodeChar keep)

/-- The bytes of a text, an encoded byte counting as itself. -/
def decode : List Char → List Nat
  | [] => []
  | '%' :: a :: b :: rest =>
    if Text.isHexDigit a && Text.isHexDigit b then
      (Text.hexValue a * 16 + Text.hexValue b) :: decode rest
    else '%'.toNat :: decode (a :: b :: rest)
  | c :: rest => Text.Utf8.charBytes c ++ decode rest

/-- The characters that script functions leave alone in a component of a URL. -/
def isUriComponent (c : Char) : Bool :=
  Text.isAsciiAlphanumeric c || ['-', '_', '.', '!', '~', '*', '\'', '(', ')'].contains c

end LiveBundle.Web.Percent
