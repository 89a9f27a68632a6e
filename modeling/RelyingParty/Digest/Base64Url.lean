/-!
# Base64 with the URL-safe alphabet

Bytes written as text in groups of six bits, with `-` and `_` as the last two symbols and no
padding at the end: three bytes make four symbols, a rest of one or two bytes makes two or three.
-/

namespace RelyingParty.Digest.Base64Url

def alphabet : List Char :=
  "ABCDEFGHIJKLMNOPQRSTUVWXYZabcdefghijklmnopqrstuvwxyz0123456789-_".toList

/-- The symbol of a group of six bits. -/
def symbol (n : Nat) : Char := alphabet.getD n 'A'

/-- A group of three bytes gives four symbols, and what is left over gives one more than it has
bytes, filled up with zero bits. -/
def symbols : List UInt8 → List Char
  | a :: b :: c :: rest =>
      symbol (a.toNat / 4)
        :: symbol (a.toNat % 4 * 16 + b.toNat / 16)
        :: symbol (b.toNat % 16 * 4 + c.toNat / 64)
        :: symbol (c.toNat % 64)
        :: symbols rest
  | [a, b] =>
      [symbol (a.toNat / 4), symbol (a.toNat % 4 * 16 + b.toNat / 16), symbol (b.toNat % 16 * 4)]
  | [a] => [symbol (a.toNat / 4), symbol (a.toNat % 4 * 16)]
  | [] => []

def encode (bytes : List UInt8) : String := String.ofList (symbols bytes)

end RelyingParty.Digest.Base64Url
