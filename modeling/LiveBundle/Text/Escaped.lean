import LiveBundle.Text.CharClass

/-!
# Escaped text

The form in which module ids appear in comments and in stack lines: quotes and backslashes get a
backslash, the usual controls their letter, and everything that cannot be shown its code point in
braces. A mark that would attach to the character before it is written as a code point only where
it comes first.
-/

namespace LiveBundle.Text.Escaped

/-- A code point in lower-case hexadecimal between braces. -/
def codePoint (c : Char) : List Char := ['\\', 'u', '\x7b'] ++ Nat.toDigits 16 c.toNat ++ ['\x7d']

/-- The escaped form of one character; `first` tells whether it starts the text. -/
def encodeChar (first : Bool) (c : Char) : List Char :=
  if c = '\x00' then ['\\', '0']
  else if c = '\t' then ['\\', 't']
  else if c = '\r' then ['\\', 'r']
  else if c = '\n' then ['\\', 'n']
  else if c = '\\' then ['\\', '\\']
  else if c = '"' then ['\\', '"']
  else if c = '\'' then ['\\', '\'']
  else if first && isGraphemeExtend c then codePoint c
  else if isPrintable c then [c]
  else codePoint c

/-- The escaped form of a text. -/
def encode : List Char → List Char
  | [] => []
  | c :: cs => encodeChar true c ++ cs.flatMap (encodeChar false)

/-- The escaped form of a string. -/
def escape (s : String) : String := String.ofList (encode s.toList)

/-- A string between double quotes, with every mark escaped and single quotes left alone. -/
def quoted (s : String) : String :=
  String.ofList ('"' :: s.toList.flatMap (fun c => if c = '\'' then [c] else encodeChar true c) ++
    ['"'])

end LiveBundle.Text.Escaped
