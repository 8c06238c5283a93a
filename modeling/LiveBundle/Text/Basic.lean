/-!
# Text as lists of characters

Everything the library reads or writes is Unicode text. Functions that look inside a text work on
its list of characters, so that they can be described by the lemmas on lists; positions that leave
the library are counted in bytes of the UTF-8 encoding.

* `byteSize` measures a list of characters, `bytesTake` and `bytesDrop` cut one at a byte offset.
* `trim` and its two halves remove Unicode white space.
* `splitAt?` cuts at the first occurrence of a character, `fields` at every occurrence.
* `hasPrefix`, `hasSuffix`, `stripPrefix?` are the prefix tests on strings.
-/

namespace LiveBundle.Text

/-- The number of bytes of the UTF-8 encoding. -/
def byteSize : List Char → Nat
  | [] => 0
  | c :: cs => c.utf8Size + byteSize cs

/-- The longest run of leading characters that ends at or before byte `n`. -/
def bytesTake : Nat → List Char → List Char
  | _, [] => []
  | n, c :: cs => if c.utf8Size ≤ n then c :: bytesTake (n - c.utf8Size) cs else []

/-- What `bytesTake` leaves. -/
def bytesDrop : Nat → List Char → List Char
  | _, [] => []
  | n, c :: cs => if c.utf8Size ≤ n then bytesDrop (n - c.utf8Size) cs else c :: cs

/-- The two parts of a text make it up. -/
theorem bytesTake_append_bytesDrop (n : Nat) (s : List Char) :
    bytesTake n s ++ bytesDrop n s = s := by
  induction s generalizing n with
  | nil => rfl
  | cons c cs ih =>
    by_cases h : c.utf8Size ≤ n
    · simp [bytesTake, bytesDrop, h, ih]
    · simp [bytesTake, bytesDrop, h]

/-- Sizes add up. -/
theorem byteSize_append (s t : List Char) : byteSize (s ++ t) = byteSize s + byteSize t := by
  induction s with
  | nil => simp [byteSize]
  | cons c cs ih => simp [byteSize, ih, Nat.add_assoc]

/-- Characters with the Unicode property White_Space. -/
def isBlank (c : Char) : Bool :=
  let n := c.toNat
  (9 ≤ n && n ≤ 13) || n == 0x20 || n == 0x85 || n == 0xA0 || n == 0x1680 ||
    (0x2000 ≤ n && n ≤ 0x200A) || n == 0x2028 || n == 0x2029 || n == 0x202F || n == 0x205F ||
    n == 0x3000

/-- The text without its leading white space. -/
def trimStart (s : List Char) : List Char := s.dropWhile isBlank

/-- The text without its trailing white space. -/
def trimEnd (s : List Char) : List Char := (s.reverse.dropWhile isBlank).reverse

/-- The text without white space at either end. -/
def trim (s : List Char) : List Char := trimEnd (trimStart s)

/-- The part before the first `sep` and the part after it, if there is one. -/
def splitAt? (sep : Char) : List Char → Option (List Char × List Char)
  | [] => none
  | c :: cs =>
    if c = sep then some ([], cs)
    else (splitAt? sep cs).map fun (a, b) => (c :: a, b)

/-- The part before the last `sep` and the part after it, if there is one. -/
def splitAtLast? (sep : Char) (s : List Char) : Option (List Char × List Char) :=
  (splitAt? sep s.reverse).map fun (b, a) => (a.reverse, b.reverse)

/-- The pieces between the occurrences of `sep`; there is always at least one. -/
def fields (sep : Char) : List Char → List (List Char)
  | [] => [[]]
  | c :: cs =>
    match fields sep cs with
    | [] => [[c]]
    | f :: fs => if c = sep then [] :: f :: fs else (c :: f) :: fs

/-- Joins pieces with `sep` between them. -/
def join (sep : List Char) : List (List Char) → List Char
  | [] => []
  | [p] => p
  | p :: q :: ps => p ++ sep ++ join sep (q :: ps)

/-- Whether the string starts with `p`. -/
def hasPrefix (p s : String) : Bool := p.toList.isPrefixOf s.toList

/-- Whether the string ends with `p`. -/
def hasSuffix (p s : String) : Bool := p.toList.isSuffixOf s.toList

/-- The string after the prefix `p`, if it starts with `p`. -/
def stripPrefix? (p s : String) : Option String :=
  (p.toList.isPrefixOf? s.toList).map String.ofList

/-- Removes the prefix `p` as often as it occurs in front. -/
def trimPrefix (p : List Char) : Nat → List Char → List Char
  | 0, s => s
  | n + 1, s =>
    match p.isPrefixOf? s with
    | some rest => trimPrefix p n rest
    | none => s

/-- The string without any leading `./`. -/
def trimDotSlash (s : String) : String :=
  String.ofList (trimPrefix ['.', '/'] s.length s.toList)

/-- Whether `p` occurs somewhere in the text. -/
def occursIn (p : List Char) : List Char → Bool
  | [] => p.isEmpty
  | c :: cs => p.isPrefixOf (c :: cs) || occursIn p cs

/-- Whether the string `p` occurs somewhere in the string `s`. -/
def contains (p s : String) : Bool := occursIn p.toList s.toList

/-- Concatenation of strings. -/
def concat (parts : List String) : String := parts.foldl (· ++ ·) ""

/-- Strings with `sep` between them. -/
def joinWith (sep : String) : List String → String
  | [] => ""
  | [p] => p
  | p :: q :: ps => p ++ sep ++ joinWith sep (q :: ps)

/-- `n` spaces. -/
def spaces (n : Nat) : String := String.ofList (List.replicate n ' ')

/-- ASCII capitals in lower case, everything else unchanged. -/
def asciiLower (s : String) : String := String.ofList (s.toList.map Char.toLower)

/-- Equality up to the case of ASCII letters. -/
def eqIgnoreAsciiCase (a b : String) : Bool := asciiLower a == asciiLower b

/-- The digits of a number in lower-case hexadecimal. -/
def hex (n : Nat) : String := String.ofList (Nat.toDigits 16 n)

end LiveBundle.Text
