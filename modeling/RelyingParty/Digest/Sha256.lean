/-!
# SHA-256

The digest of a byte string as eight 32-bit words. The message is padded to whole blocks of
sixteen words and each block is mixed into the chaining value by sixty-four rounds. The message
schedule is kept as a window of the next sixteen words that moves one word per round, so a round
sees all it needs and nothing is indexed into a larger table.
-/

namespace RelyingParty.Digest

/-- Eight words: the chaining value, and in the end the digest. -/
structure Sha256 where
  a : UInt32
  b : UInt32
  c : UInt32
  d : UInt32
  e : UInt32
  f : UInt32
  g : UInt32
  h : UInt32
deriving DecidableEq, Repr

namespace Sha256

def words (s : Sha256) : List UInt32 := [s.a, s.b, s.c, s.d, s.e, s.f, s.g, s.h]

/-- The four bytes of a word, the most significant first. -/
def bytesOfWord (w : UInt32) : List UInt8 :=
  [(w >>> 24).toUInt8, (w >>> 16).toUInt8, (w >>> 8).toUInt8, w.toUInt8]

def bytes (s : Sha256) : List UInt8 := s.words.flatMap bytesOfWord

theorem length_bytes (s : Sha256) : s.bytes.length = 32 := rfl

/-- The chaining value before the first block: the first 32 bits of the fractional parts of the
square roots of the first eight primes. -/
def start : Sha256 :=
  ⟨0x6a09e667, 0xbb67ae85, 0x3c6ef372, 0xa54ff53a, 0x510e527f, 0x9b05688c,
   0x1f83d9ab, 0x5be0cd19⟩

/-- One constant per round: the first 32 bits of the fractional parts of the cube roots of the
first sixty-four primes. -/
def roundConstants : List UInt32 :=
  [0x428a2f98, 0x71374491, 0xb5c0fbcf, 0xe9b5dba5, 0x3956c25b, 0x59f111f1, 0x923f82a4, 0xab1c5ed5,
   0xd807aa98, 0x12835b01, 0x243185be, 0x550c7dc3, 0x72be5d74, 0x80deb1fe, 0x9bdc06a7, 0xc19bf174,
   0xe49b69c1, 0xefbe4786, 0x0fc19dc6, 0x240ca1cc, 0x2de92c6f, 0x4a7484aa, 0x5cb0a9dc, 0x76f988da,
   0x983e5152, 0xa831c66d, 0xb00327c8, 0xbf597fc7, 0xc6e00bf3, 0xd5a79147, 0x06ca6351, 0x14292967,
   0x27b70a85, 0x2e1b2138, 0x4d2c6dfc, 0x53380d13, 0x650a7354, 0x766a0abb, 0x81c2c92e, 0x92722c85,
   0xa2bfe8a1, 0xa81a664b, 0xc24b8b70, 0xc76c51a3, 0xd192e819, 0xd6990624, 0xf40e3585, 0x106aa070,
   0x19a4c116, 0x1e376c08, 0x2748774c, 0x34b0bcb5, 0x391c0cb3, 0x4ed8aa4a, 0x5b9cca4f, 0x682e6ff3,
   0x748f82ee, 0x78a5636f, 0x84c87814, 0x8cc70208, 0x90befffa, 0xa4506ceb, 0xbef9a3f7, 0xc67178f2]

/-- Rotation to the right. -/
def rotate (w : UInt32) (n : UInt32) : UInt32 := (w >>> n) ||| (w <<< (32 - n))

/-- One round, with the round's constant and schedule word. -/
def round (s : Sha256) (k w : UInt32) : Sha256 :=
  let mixE := rotate s.e 6 ^^^ rotate s.e 11 ^^^ rotate s.e 25
  let choice := (s.e &&& s.f) ^^^ (~~~s.e &&& s.g)
  let mixA := rotate s.a 2 ^^^ rotate s.a 13 ^^^ rotate s.a 22
  let majority := (s.a &&& s.b) ^^^ (s.a &&& s.c) ^^^ (s.b &&& s.c)
  let carry := s.h + mixE + choice + k + w
  ⟨carry + mixA + majority, s.a, s.b, s.c, s.d + carry, s.e, s.f, s.g⟩

/-- The schedule word that follows a window of sixteen. -/
def nextWord (window : List UInt32) : UInt32 :=
  let w1 := window.getD 1 0
  let w14 := window.getD 14 0
  let low := rotate w1 7 ^^^ rotate w1 18 ^^^ (w1 >>> 3)
  let high := rotate w14 17 ^^^ rotate w14 19 ^^^ (w14 >>> 10)
  high + window.getD 9 0 + low + window.getD 0 0

def rounds (s : Sha256) (window : List UInt32) : List UInt32 → Sha256
  | [] => s
  | k :: ks => rounds (s.round k (window.getD 0 0)) (window.tail ++ [nextWord window]) ks

/-- Word by word addition. -/
def add (s t : Sha256) : Sha256 :=
  ⟨s.a + t.a, s.b + t.b, s.c + t.c, s.d + t.d, s.e + t.e, s.f + t.f, s.g + t.g, s.h + t.h⟩

/-- Mixes one block of sixteen words into the chaining value. -/
def compress (s : Sha256) (block : List UInt32) : Sha256 :=
  s.add (rounds s block roundConstants)

/-- Words from bytes, four at a time, the most significant first. -/
def wordsOfBytes : List UInt8 → List UInt32
  | a :: b :: c :: d :: rest =>
      ((a.toUInt32 <<< 24) ||| (b.toUInt32 <<< 16) ||| (c.toUInt32 <<< 8) ||| d.toUInt32)
        :: wordsOfBytes rest
  | _ => []

/-- A one bit, zeros up to eight bytes short of a whole block, and the length in bits. -/
def padding (size : Nat) : List UInt8 :=
  0x80 :: List.replicate ((119 - size % 64) % 64) 0
    ++ (List.range 8).map fun i => UInt8.ofNat (size * 8 / Nat.pow 256 (7 - i))

/-- Mixes `count` blocks, taken from the front of the words. -/
def absorb (s : Sha256) : Nat → List UInt32 → Sha256
  | 0, _ => s
  | count + 1, ws => absorb (s.compress (ws.take 16)) count (ws.drop 16)

def ofBytes (message : List UInt8) : Sha256 :=
  let padded := message ++ padding message.length
  absorb start (padded.length / 64) (wordsOfBytes padded)

/-- The digest of the UTF-8 form of a text. -/
def ofString (s : String) : Sha256 := ofBytes s.toUTF8.data.toList

end Sha256

end RelyingParty.Digest
