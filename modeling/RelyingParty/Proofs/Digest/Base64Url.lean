import Mathlib.Logic.Function.Basic
import RelyingParty.Digest.Base64Url

/-!
# What the symbols of a byte string say

Every six bits of a byte string become a symbol, and a group that the end cuts short is filled up
with zero bits. Nothing is lost: the bytes can be had back from the symbols (`bytesOf_symbols`), also
those of an incomplete last group, because how many symbols it has tells how many bytes it had.
-/

namespace RelyingParty.Digest.Base64Url

/-- The six bits that a symbol stands for. -/
def sextet (c : Char) : Nat := alphabet.idxOf c

/-- The bytes that symbols stand for. The bits that fill up an incomplete group are dropped. -/
def bytesOf : List Char → List UInt8
  | w :: x :: y :: z :: rest =>
      UInt8.ofNat (sextet w * 4 + sextet x / 16)
        :: UInt8.ofNat (sextet x % 16 * 16 + sextet y / 4)
        :: UInt8.ofNat (sextet y % 4 * 64 + sextet z)
        :: bytesOf rest
  | [w, x, y] =>
      [UInt8.ofNat (sextet w * 4 + sextet x / 16),
       UInt8.ofNat (sextet x % 16 * 16 + sextet y / 4)]
  | [w, x] => [UInt8.ofNat (sextet w * 4 + sextet x / 16)]
  | _ => []

theorem sextet_symbol_of_mem_range : ∀ n ∈ List.range 64, sextet (symbol n) = n := by
  decide +kernel

theorem sextet_symbol {n : Nat} (h : n < 64) : sextet (symbol n) = n :=
  sextet_symbol_of_mem_range n (List.mem_range.mpr h)

/-- A symbol is one of the alphabet, whatever the number. -/
theorem symbol_mem_alphabet (n : Nat) : symbol n ∈ alphabet := by
  rw [symbol, List.getD_eq_getElem?_getD]
  cases h : alphabet[n]? with
  | none => decide
  | some c => exact List.mem_of_getElem? h

/-- A byte is put together from any cut of its bits in two. -/
theorem ofNat_cut (a : UInt8) {n high low : Nat} (h : high * n + low = a.toNat) :
    UInt8.ofNat (high * n + low) = a := by
  rw [h, UInt8.ofNat_toNat]

/-- **The bytes can be had back.** -/
theorem bytesOf_symbols (bytes : List UInt8) : bytesOf (symbols bytes) = bytes := by
  induction bytes using symbols.induct with
  | case1 a b c rest ih =>
      have ha := a.toNat_lt
      have hb := b.toNat_lt
      have hc := c.toNat_lt
      rw [symbols, bytesOf, ih, sextet_symbol (by omega), sextet_symbol (by omega),
        sextet_symbol (by omega), sextet_symbol (by omega), ofNat_cut a (by omega),
        ofNat_cut b (by omega), ofNat_cut c (by omega)]
  | case2 a b =>
      have ha := a.toNat_lt
      have hb := b.toNat_lt
      rw [symbols, bytesOf, sextet_symbol (by omega), sextet_symbol (by omega),
        sextet_symbol (by omega), ofNat_cut a (by omega), ofNat_cut b (by omega)]
  | case3 a =>
      have ha := a.toNat_lt
      rw [symbols, bytesOf, sextet_symbol (by omega), sextet_symbol (by omega),
        ofNat_cut a (by omega)]
  | case4 => rfl

theorem symbols_injective : Function.Injective symbols :=
  Function.LeftInverse.injective bytesOf_symbols

/-- **No two byte strings are written alike.** -/
theorem encode_injective : Function.Injective encode := by
  intro bytes bytes' h
  exact symbols_injective (String.ofList_injective h)

/-- Three bytes make four symbols, and a rest makes one more than it has bytes. -/
theorem length_symbols (bytes : List UInt8) :
    (symbols bytes).length = (bytes.length * 4 + 2) / 3 := by
  induction bytes using symbols.induct with
  | case1 a b c rest ih =>
      simp only [symbols, List.length_cons, ih]
      omega
  | case2 a b => simp only [symbols, List.length_cons, List.length_nil]
  | case3 a => simp only [symbols, List.length_cons, List.length_nil]
  | case4 => simp only [symbols, List.length_nil]

theorem forall_mem_symbols (bytes : List UInt8) : ∀ x ∈ symbols bytes, x ∈ alphabet := by
  induction bytes using symbols.induct with
  | case1 a b c rest ih =>
      simp only [symbols, List.forall_mem_cons, symbol_mem_alphabet, true_and]
      exact ih
  | case2 a b => simp [symbols, symbol_mem_alphabet]
  | case3 a => simp [symbols, symbol_mem_alphabet]
  | case4 => simp [symbols]

end RelyingParty.Digest.Base64Url
