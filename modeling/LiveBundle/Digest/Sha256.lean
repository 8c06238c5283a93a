import LiveBundle.Decimal.Binary64
import LiveBundle.Text.Basic

/-!
# SHA-256

The digest on 32-bit words, written from its definition: pad the message to blocks of 64 bytes,
extend each block to 64 words, and fold the rounds over the chaining state.

* `digest` is the chaining state after all blocks, eight words.
* `fingerprint` is the first word in hexadecimal; names of generated functions and style scopes are
  built from it.
-/

namespace LiveBundle.Digest.Sha256

/-- The round constants. -/
def roundConstants : List UInt32 := [
  0x428a2f98, 0x71374491, 0xb5c0fbcf, 0xe9b5dba5, 0x3956c25b, 0x59f111f1, 0x923f82a4, 0xab1c5ed5,
  0xd807aa98, 0x12835b01, 0x243185be, 0x550c7dc3, 0x72be5d74, 0x80deb1fe, 0x9bdc06a7, 0xc19bf174,
  0xe49b69c1, 0xefbe4786, 0x0fc19dc6, 0x240ca1cc, 0x2de92c6f, 0x4a7484aa, 0x5cb0a9dc, 0x76f988da,
  0x983e5152, 0xa831c66d, 0xb00327c8, 0xbf597fc7, 0xc6e00bf3, 0xd5a79147, 0x06ca6351, 0x14292967,
  0x27b70a85, 0x2e1b2138, 0x4d2c6dfc, 0x53380d13, 0x650a7354, 0x766a0abb, 0x81c2c92e, 0x92722c85,
  0xa2bfe8a1, 0xa81a664b, 0xc24b8b70, 0xc76c51a3, 0xd192e819, 0xd6990624, 0xf40e3585, 0x106aa070,
  0x19a4c116, 0x1e376c08, 0x2748774c, 0x34b0bcb5, 0x391c0cb3, 0x4ed8aa4a, 0x5b9cca4f, 0x682e6ff3,
  0x748f82ee, 0x78a5636f, 0x84c87814, 0x8cc70208, 0x90befffa, 0xa4506ceb, 0xbef9a3f7, 0xc67178f2]

/-- The eight words of the chaining state. -/
structure State where
  a : UInt32
  b : UInt32
  c : UInt32
  d : UInt32
  e : UInt32
  f : UInt32
  g : UInt32
  h : UInt32
deriving Repr, DecidableEq

/-- The state before the first block. -/
def State.initial : State :=
  ⟨0x6a09e667, 0xbb67ae85, 0x3c6ef372, 0xa54ff53a, 0x510e527f, 0x9b05688c, 0x1f83d9ab, 0x5be0cd19⟩

/-- Word-wise sum of two states. -/
def State.add (s t : State) : State :=
  ⟨s.a + t.a, s.b + t.b, s.c + t.c, s.d + t.d, s.e + t.e, s.f + t.f, s.g + t.g, s.h + t.h⟩

/-- Rotation to the right. -/
def rotr (x : UInt32) (n : UInt32) : UInt32 := (x >>> n) ||| (x <<< (32 - n))

/-- One round with its constant and schedule word added up in `kw`. -/
def State.round (s : State) (kw : UInt32) : State :=
  let s1 := rotr s.e 6 ^^^ rotr s.e 11 ^^^ rotr s.e 25
  let ch := (s.e &&& s.f) ^^^ (~~~s.e &&& s.g)
  let t1 := s.h + s1 + ch + kw
  let s0 := rotr s.a 2 ^^^ rotr s.a 13 ^^^ rotr s.a 22
  let maj := (s.a &&& s.b) ^^^ (s.a &&& s.c) ^^^ (s.b &&& s.c)
  ⟨t1 + s0 + maj, s.a, s.b, s.c, s.d + t1, s.e, s.f, s.g⟩

/-- The word after the last sixteen, which are given with the latest first. -/
def nextWord (recent : List UInt32) : UInt32 :=
  let at' (i : Nat) := recent.getD i 0
  let w2 := at' 1
  let w15 := at' 14
  let s1 := rotr w2 17 ^^^ rotr w2 19 ^^^ (w2 >>> 10)
  let s0 := rotr w15 7 ^^^ rotr w15 18 ^^^ (w15 >>> 3)
  s1 + at' 6 + s0 + at' 15

/-- Runs the rounds for the given constants; `recent` holds the schedule so far, latest first, and
`pending` the words of the block that are still to come. -/
def rounds : List UInt32 → List UInt32 → List UInt32 → State → State
  | [], _, _, s => s
  | k :: ks, w :: pending, recent, s => rounds ks pending (w :: recent) (s.round (k + w))
  | k :: ks, [], recent, s =>
    let w := nextWord recent
    rounds ks [] (w :: recent.take 15) (s.round (k + w))

/-- The chaining state after one block of sixteen words. -/
def State.absorb (s : State) (block : List UInt32) : State :=
  s.add (rounds roundConstants block [] s)

/-- Groups bytes into big-endian words. -/
def words : List UInt8 → List UInt32
  | a :: b :: c :: d :: rest =>
    ((a.toUInt32 <<< 24) ||| (b.toUInt32 <<< 16) ||| (c.toUInt32 <<< 8) ||| d.toUInt32) ::
      words rest
  | _ => []

/-- The `n` low bytes of a number, most significant first. -/
def bigEndian : Nat → Nat → List UInt8
  | 0, _ => []
  | n + 1, x => UInt8.ofNat (x / Decimal.twoTo (8 * n)) :: bigEndian n x

/-- The message with a set bit, zeros and its length in bits behind it. -/
def pad (message : List UInt8) : List UInt8 :=
  let n := message.length
  message ++ 0x80 :: List.replicate ((119 - n % 64) % 64) 0 ++ bigEndian 8 (8 * n)

/-- Folds the blocks of sixteen words into the state. -/
def absorbAll : Nat → List UInt32 → State → State
  | 0, _, s => s
  | n + 1, ws, s => if ws.isEmpty then s else absorbAll n (ws.drop 16) (s.absorb (ws.take 16))

/-- The digest of a message. -/
def digest (message : List UInt8) : State :=
  let ws := words (pad message)
  absorbAll ws.length ws State.initial

/-- The bytes of the UTF-8 encoding of a string. -/
def utf8 (s : String) : List UInt8 := s.toUTF8.toList

/-- The first four bytes of the digest of a text, in hexadecimal. -/
def fingerprint (text : String) : String :=
  let digits := Text.hex (digest (utf8 text)).a.toNat
  String.ofList (List.replicate (8 - digits.length) '0') ++ digits

end LiveBundle.Digest.Sha256
