import LiveBundle.Text.Basic
import LiveBundle.Text.CharTables

/-!
# Character classes

The classes that the formats of this library name: identifier characters of scripts, word
characters of the text patterns, and printable characters.
-/

namespace LiveBundle.Text

/-- Whether a code point lies in one of the ranges. -/
def inRanges (table : List (Nat × Nat)) (n : Nat) : Bool :=
  table.any fun (lo, hi) => lo ≤ n && n ≤ hi

/-- ASCII letters and digits. -/
def isAsciiAlphanumeric (c : Char) : Bool := c.isAlpha || c.isDigit

/-- Hexadecimal digits. -/
def isHexDigit (c : Char) : Bool :=
  c.isDigit || ('a' ≤ c && c ≤ 'f') || ('A' ≤ c && c ≤ 'F')

/-- The value of a hexadecimal digit; zero for other characters. -/
def hexValue (c : Char) : Nat :=
  if c.isDigit then c.toNat - '0'.toNat
  else if 'a' ≤ c && c ≤ 'f' then c.toNat - 'a'.toNat + 10
  else if 'A' ≤ c && c ≤ 'F' then c.toNat - 'A'.toNat + 10
  else 0

/-- Enclosing marks, which do not continue an identifier. -/
def isEnclosingMark (n : Nat) : Bool :=
  n == 0x488 || n == 0x489 || n == 0x1ABE || (0x20DD ≤ n && n ≤ 0x20E0) ||
    (0x20E2 ≤ n && n ≤ 0x20E4) || (0xA670 ≤ n && n ≤ 0xA672)

/-- Connector punctuation above ASCII. -/
def isConnector (n : Nat) : Bool :=
  n == 0x203F || n == 0x2040 || n == 0x2054 || n == 0xFE33 || n == 0xFE34 ||
    (0xFE4D ≤ n && n ≤ 0xFE4F) || n == 0xFF3F

/-- Characters with the property ID_Start. -/
def isIdStart (c : Char) : Bool :=
  let n := c.toNat
  if n < 0x80 then c.isAlpha
  else (inRanges CharTables.letter n && n != 0x2E2F) ||
    n == 0x2118 || n == 0x212E || n == 0x309B || n == 0x309C || n == 0x1885 || n == 0x1886

/-- Characters with the property ID_Continue. -/
def isIdContinue (c : Char) : Bool :=
  let n := c.toNat
  if n < 0x80 then c.isAlpha || c.isDigit || c == '_'
  else isIdStart c || (inRanges CharTables.mark n && !isEnclosingMark n) ||
    inRanges CharTables.digit n || isConnector n ||
    n == 0xB7 || n == 0x387 || (0x1369 ≤ n && n ≤ 0x1371) || n == 0x19DA || n == 0x30FB ||
    n == 0xFF65

/-- Word characters: letters, marks, decimal digits, connectors and joiners. -/
def isWord (c : Char) : Bool :=
  let n := c.toNat
  if n < 0x80 then c.isAlpha || c.isDigit || c == '_'
  else inRanges CharTables.letter n || inRanges CharTables.mark n ||
    inRanges CharTables.digit n || isConnector n || n == 0x200C || n == 0x200D ||
    (0x24B6 ≤ n && n ≤ 0x24E9) || (0x1F130 ≤ n && n ≤ 0x1F149) ||
    (0x1F150 ≤ n && n ≤ 0x1F169) || (0x1F170 ≤ n && n ≤ 0x1F189)

/-- Characters that can be shown as they are. -/
def isPrintable (c : Char) : Bool :=
  let n := c.toNat
  if n < 0x80 then 0x20 ≤ n && n < 0x7F else !inRanges CharTables.unprintable n

/-- Characters that attach to the one before them. -/
def isGraphemeExtend (c : Char) : Bool :=
  0x300 ≤ c.toNat && inRanges CharTables.graphemeExtend c.toNat

end LiveBundle.Text
