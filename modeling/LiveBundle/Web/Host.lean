import LiveBundle.Decimal.Binary64
import LiveBundle.Text.CharClass
import LiveBundle.Web.Percent
import LiveBundle.Web.Punycode

/-!
# Hosts of URLs

A host of a web address is a domain name, an IPv4 address or an IPv6 address. Domain names are
brought into ASCII and lower case; a name that ends in a number is an IPv4 address. Other schemes
have opaque hosts.

* `Host.parse`, `Host.parseOpaque` read a host, `Host.text` writes it.
-/

namespace LiveBundle.Web

/-- What can be wrong with a URL. -/
inductive UrlFault where
  | emptyHost
  | invalidDomain
  | invalidDomainCharacter
  | invalidPort
  | invalidIpv4
  | invalidIpv6
  | relativeWithoutBase
  | relativeWithOpaqueBase
deriving DecidableEq, Repr

/-- The wording of a fault. -/
def UrlFault.message : UrlFault → String
  | .emptyHost => "empty host"
  | .invalidDomain => "invalid international domain name"
  | .invalidDomainCharacter => "invalid domain character"
  | .invalidPort => "invalid port number"
  | .invalidIpv4 => "invalid IPv4 address"
  | .invalidIpv6 => "invalid IPv6 address"
  | .relativeWithoutBase => "relative URL without a base"
  | .relativeWithOpaqueBase => "relative URL with a cannot-be-a-base base"

/-- The host of a URL. -/
inductive Host where
  | domain (name : List Char)
  | ipv4 (address : Nat)
  /-- The eight pieces of 16 bits. -/
  | ipv6 (pieces : List Nat)
deriving DecidableEq, Repr

namespace Host

/-! ## IPv4 -/

/-- A number of an IPv4 address, in the base that its spelling says. -/
def ipv4Number? (part : List Char) : Option Nat :=
  let read (base : Nat) (valid : Char → Bool) (digits : List Char) : Option Nat :=
    if digits.all valid then some (digits.foldl (fun n c => n * base + Text.hexValue c) 0) else none
  match part with
  | [] => none
  | '0' :: 'x' :: digits | '0' :: 'X' :: digits => read 16 Text.isHexDigit digits
  | '0' :: d :: digits => read 8 (fun c => '0' ≤ c && c ≤ '7') (d :: digits)
  | digits => read 10 Char.isDigit digits

/-- The parts of a name between dots; a dot at the end does not count. -/
def ipv4Parts (name : List Char) : List (List Char) :=
  let parts := Text.fields '.' name
  if parts.getLast? = some [] then parts.dropLast else parts

/-- Whether the last part of a name is a number. -/
def endsInNumber (name : List Char) : Bool :=
  match (ipv4Parts name).getLast? with
  | none | some [] => false
  | some last => last.all Char.isDigit || (ipv4Number? last).isSome

/-- The address of parts that are numbers: all but the last one are bytes, and the last one fills
the bytes that are left. -/
def ipv4Address? : Nat → List Nat → Option Nat
  | _, [] => none
  | bytes, [last] => if last < Decimal.twoTo (8 * bytes) then some last else none
  | bytes, n :: rest =>
    if n < 256 then
      (ipv4Address? (bytes - 1) rest).map (n * Decimal.twoTo (8 * (bytes - 1)) + ·)
    else none

/-- Reads an IPv4 address. -/
def parseIpv4 (name : List Char) : Except UrlFault Host :=
  let parts := ipv4Parts name
  if 4 < parts.length then .error .invalidIpv4
  else match (parts.mapM ipv4Number?).bind (ipv4Address? 4) with
    | some address => .ok (.ipv4 address)
    | none => .error .invalidIpv4

/-- An IPv4 address with dots. -/
def ipv4Text (address : Nat) : String :=
  Text.joinWith "." ([24, 16, 8, 0].map fun shift => toString (address / Decimal.twoTo shift % 256))

/-! ## IPv6 -/

/-- A byte in decimal, without zeros in front. -/
def decimalByte? (digits : List Char) : Option Nat :=
  let n := digits.foldl (fun n c => n * 10 + Text.hexValue c) 0
  if digits.all Char.isDigit && !digits.isEmpty && digits.length ≤ 3 && n < 256 &&
      (digits.length = 1 || digits.head? != some '0') then some n
  else none

/-- The two pieces that an IPv4 address with four decimal bytes takes at the end of an IPv6
address. -/
def embeddedIpv4? (s : List Char) : Option (List Nat) :=
  match (Text.fields '.' s).mapM decimalByte? with
  | some [a, b, c, d] => some [a * 256 + b, c * 256 + d]
  | _ => none

/-- The pieces of a text between colons; the last one may be an IPv4 address. -/
def ipv6Pieces? : List (List Char) → Option (List Nat)
  | [] => some []
  | [last] =>
    if last.contains '.' then embeddedIpv4? last
    else if last.all Text.isHexDigit && !last.isEmpty && last.length ≤ 4 then
      some [last.foldl (fun n c => n * 16 + Text.hexValue c) 0]
    else none
  | piece :: rest =>
    if piece.all Text.isHexDigit && !piece.isEmpty && piece.length ≤ 4 then
      (ipv6Pieces? rest).map (piece.foldl (fun n c => n * 16 + Text.hexValue c) 0 :: ·)
    else none

/-- Cuts at the first two colons in a row. -/
def splitAtGap? : List Char → Option (List Char × List Char)
  | ':' :: ':' :: rest => some ([], rest)
  | c :: rest => (splitAtGap? rest).map fun (a, b) => (c :: a, b)
  | [] => none

/-- The pieces of one side of the gap. -/
def ipv6Side? (side : List Char) : Option (List Nat) :=
  if side.isEmpty then some [] else ipv6Pieces? (Text.fields ':' side)

/-- Reads an IPv6 address without its brackets. A gap stands for at least one piece of zeros. -/
def parseIpv6 (s : List Char) : Except UrlFault Host :=
  let pieces := match splitAtGap? s with
    | none => ipv6Pieces? (Text.fields ':' s)
    | some (front, back) =>
      match ipv6Side? front, ipv6Side? back with
      | some a, some b =>
        if front.contains '.' then none
        else if a.length + b.length < 8 then
          some (a ++ List.replicate (8 - a.length - b.length) 0 ++ b)
        else none
      | _, _ => none
  match pieces with
  | some pieces => if pieces.length = 8 then .ok (.ipv6 pieces) else .error .invalidIpv6
  | none => .error .invalidIpv6

/-- The number of zeros in front. -/
def zeroRun (pieces : List Nat) : Nat := (pieces.takeWhile (· = 0)).length

/-- The start and the length of the longest run of zeros, the first one of several. -/
def longestRun : Nat → List Nat → Nat × Nat
  | _, [] => (0, 0)
  | start, p :: ps =>
    let here := zeroRun (p :: ps)
    let later := longestRun (start + 1) ps
    if later.2 ≤ here then (start, here) else later

/-- An IPv6 address between brackets, its longest run of at least two zeros left out. -/
def ipv6Text (pieces : List Nat) : String :=
  let (start, length) := longestRun 0 pieces
  let hexes (ps : List Nat) : String := Text.joinWith ":" (ps.map Text.hex)
  if length < 2 then "[" ++ hexes pieces ++ "]"
  else "[" ++ hexes (pieces.take start) ++ "::" ++ hexes (pieces.drop (start + length)) ++ "]"

/-! ## Domain names -/

/-- The characters that no domain name holds. -/
def isForbiddenInDomain (c : Char) : Bool :=
  c.toNat ≤ 0x20 || c.toNat = 0x7F ||
    ['%', '#', '/', ':', '<', '>', '?', '@', '[', '\\', ']', '^', '|'].contains c

/-- A character of a domain name in its mapped form: letters in lower case, wide forms as ASCII,
other full stops as a full stop, invisible characters dropped. -/
def mapDomainChar (c : Char) : List Char :=
  let n := c.toNat
  if n < 0x80 then [c.toLower]
  else if n = 0xAD || n = 0x200B || n = 0x2060 || n = 0xFEFF then []
  else if n = 0x3002 || n = 0xFF61 then ['.']
  else if 0xFF01 ≤ n && n ≤ 0xFF5E then [(Char.ofNat (n - 0xFEE0)).toLower]
  else if (0xC0 ≤ n && n ≤ 0xDE && n != 0xD7) || (0x391 ≤ n && n ≤ 0x3A9) ||
      (0x410 ≤ n && n ≤ 0x42F) then [Char.ofNat (n + 0x20)]
  else if 0x400 ≤ n && n ≤ 0x40F then [Char.ofNat (n + 0x50)]
  else if ((0x100 ≤ n && n ≤ 0x137) || (0x14A ≤ n && n ≤ 0x177)) && n % 2 = 0 && n != 0x130 then
    [Char.ofNat (n + 1)]
  else if ((0x139 ≤ n && n ≤ 0x148) || (0x179 ≤ n && n ≤ 0x17E)) && n % 2 = 1 then
    [Char.ofNat (n + 1)]
  else [c]

/-- The prefix of encoded labels. -/
def encodedPrefix : List Char := ['x', 'n', '-', '-']

/-- Whether a label with the prefix of encoded labels is the encoded form of one that needs it. -/
def isEncodedLabel (label : List Char) : Bool :=
  match encodedPrefix.isPrefixOf? label with
  | none => true
  | some code =>
    match Punycode.decode? code with
    | none => false
    | some decoded =>
      decoded.any (0x80 ≤ ·.toNat) && decoded.all Text.isPrintable &&
        Punycode.encode decoded == code

/-- A label in ASCII. -/
def asciiLabel? (label : List Char) : Option (List Char) :=
  if label.all (·.toNat < 0x80) then
    if isEncodedLabel label then some label else none
  else if label.all fun c => c.toNat < 0x80 || (Text.isPrintable c && !Text.isBlank c) then
    some (encodedPrefix ++ Punycode.encode label)
  else none

/-- A domain name in ASCII. -/
def asciiDomain? (name : List Char) : Option (List Char) :=
  let mapped := name.flatMap mapDomainChar
  if mapped.any isForbiddenInDomain then none
  else ((Text.fields '.' mapped).mapM asciiLabel?).map (Text.join ['.'])

/-- Reads the host of a web address. -/
def parse (s : List Char) : Except UrlFault Host :=
  if s.head? = some '[' then
    if s.getLast? = some ']' then parseIpv6 (s.drop 1).dropLast else .error .invalidIpv6
  else
    match (Text.Utf8.decode? (Percent.decode s)).bind asciiDomain? with
    | none => .error .invalidDomain
    | some [] => .error .emptyHost
    | some name => if endsInNumber name then parseIpv4 name else .ok (.domain name)

/-- The characters that no opaque host holds. -/
def isForbiddenInOpaque (c : Char) : Bool :=
  ['\x00', '\t', '\n', '\r', ' ', '#', '/', ':', '<', '>', '?', '@', '[', '\\', ']', '^',
    '|'].contains c

/-- Whether a character is a control of ASCII. -/
def isControl (c : Char) : Bool := c.toNat < 0x20 || c.toNat == 0x7F

/-- Reads the host of a URL with a scheme of its own. -/
def parseOpaque (s : List Char) : Except UrlFault Host :=
  if s.head? = some '[' then
    if s.getLast? = some ']' then parseIpv6 (s.drop 1).dropLast else .error .invalidIpv6
  else if s.any isForbiddenInOpaque then .error .invalidDomainCharacter
  else .ok (.domain (Percent.encode (!isControl ·) s))

/-- A host as it is written in a URL. -/
def text : Host → List Char
  | .domain name => name
  | .ipv4 address => (ipv4Text address).toList
  | .ipv6 pieces => (ipv6Text pieces).toList

end Host

end LiveBundle.Web
