import RelyingParty.Decimal.Binary64

/-!
# The fewest digits that read back

A binary64 number is written with as few digits as possible such that reading them gives the
same number again; of the candidates with that many digits the nearest one is taken. For a
given count of digits only the two neighbours of the value on that decimal grid can be nearest,
so they are the only candidates tested. Two styles are in use: always positional, and
positional only for moderate exponents.
-/

namespace RelyingParty.Decimal

/-- Which of two candidates is taken when the value lies in the middle between them. -/
inductive Tie where
  | toEven
  | up
deriving DecidableEq, Repr

/-- Whether a tie between `low` and its successor goes to `low`. -/
def Tie.goesDown : Tie → Nat → Bool
  | toEven, low => low % 2 = 0
  | up, _ => false

/-- The digits `d` and exponent `k` of a decimal `d * 10 ^ k`. -/
structure Digits where
  value : Nat
  exponent : Int
deriving DecidableEq, Repr

namespace Digits

/-- `num / den` cut to the grid of step `10 ^ k`: the largest multiple not above it. -/
def floorAt (num den : Nat) (k : Int) : Nat :=
  if 0 ≤ k then num / (den * Nat.pow 10 k.toNat) else num * Nat.pow 10 (-k).toNat / den

/-- The distance from `num / den` to `d * 10 ^ k` in units that depend on `k` alone. -/
def distance (num den d : Nat) (k : Int) : Nat :=
  let value := if 0 ≤ k then num else num * Nat.pow 10 (-k).toNat
  let point := if 0 ≤ k then d * den * Nat.pow 10 k.toNat else d * den
  if value ≤ point then point - value else value - point

/-- The exponent of the leading digit: the `k` with `10 ^ k ≤ num / den < 10 ^ (k + 1)`. -/
def leadingExponent (num den : Nat) : Int :=
  let guess : Int :=
    (Nat.toDigits 10 num).length - (Nat.toDigits 10 den).length
  if floorAt num den guess = 0 then guess - 1 else guess

/-- Drops zeros at the end. -/
def trim (fuel : Nat) (x : Digits) : Digits :=
  match fuel with
  | 0 => x
  | fuel + 1 =>
      if x.value ≠ 0 ∧ x.value % 10 = 0 then trim fuel ⟨x.value / 10, x.exponent + 1⟩ else x

/-- The nearer of the two grid points around the value that reads back as `x`, if one does. -/
def candidate? (tie : Tie) (x : Binary64) (num den : Nat) (k : Int) : Option Digits :=
  let low := floorAt num den k
  let readsBack (d : Nat) : Bool := Binary64.ofDecimal false d k = x
  match readsBack low, readsBack (low + 1) with
  | true, true =>
      let toLow := distance num den low k
      let toHigh := distance num den (low + 1) k
      if toLow < toHigh ∨ (toLow = toHigh ∧ tie.goesDown low) then some ⟨low, k⟩
      else some ⟨low + 1, k⟩
  | true, false => some ⟨low, k⟩
  | false, true => some ⟨low + 1, k⟩
  | false, false => none

/-- Tries ever finer grids; seventeen digits are always enough. -/
def search (tie : Tie) (x : Binary64) (num den : Nat) (k : Int) : Nat → Digits
  | 0 => ⟨floorAt num den k, k⟩
  | tries + 1 => (candidate? tie x num den k).getD (search tie x num den (k - 1) tries)

/-- The shortest digits of a positive finite number. -/
def shortest (tie : Tie) (x : Binary64) : Digits :=
  let (num, den) := x.quotient
  if num = 0 then ⟨0, 0⟩
  else trim 400 (search tie x num den (leadingExponent num den) 17)

/-- The digits with a decimal point where it belongs and at least one digit on either side. -/
def positional (x : Digits) : String :=
  let ds := Nat.toDigits 10 x.value
  if 0 ≤ x.exponent then
    String.ofList (ds ++ List.replicate x.exponent.toNat '0') ++ ".0"
  else
    let places := (-x.exponent).toNat
    let padded := List.replicate (places + 1 - ds.length) '0' ++ ds
    let cut := padded.length - places
    String.ofList (padded.take cut) ++ "." ++ String.ofList (padded.drop cut)

/-- One digit before the point and the exponent with its sign after an `e`; a single digit has no
point. -/
def scientific (x : Digits) : String :=
  let ds := Nat.toDigits 10 x.value
  let exponent := x.exponent + (ds.length - 1 : Nat)
  let fraction := if ds.length = 1 then "" else "." ++ String.ofList (ds.drop 1)
  String.ofList (ds.take 1) ++ fraction ++ "e" ++ (if 0 ≤ exponent then "+" else "")
    ++ toString exponent

/-- Positional when the point falls at most five places before the first digit or sixteen
places after it. -/
def moderate (x : Digits) : String :=
  let point := x.exponent + ((Nat.toDigits 10 x.value).length : Nat)
  if -5 < point ∧ point ≤ 16 then x.positional else x.scientific

end Digits

/-- How numbers are written. -/
structure Style where
  tie : Tie
  layout : Digits → String

namespace Style

/-- Always with a point where it belongs, a tie going up. -/
def positional : Style := ⟨.up, Digits.positional⟩

/-- With an exponent where the point would be far away, a tie going to the even digit. -/
def moderate : Style := ⟨.toEven, Digits.moderate⟩

end Style

namespace Binary64

/-- A number as text. -/
def text (style : Style) (x : Binary64) : String :=
  match x.view with
  | .finite negative _ _ =>
      (if negative then "-" else "")
        ++ style.layout (Digits.shortest style.tie (withSign false (x.bits.toNat % Nat.pow 2 63)))
  | .infinite negative => if negative then "-inf" else "inf"
  | .notANumber => "NaN"

end Binary64

end RelyingParty.Decimal
