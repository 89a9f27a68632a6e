/-!
# Binary64 numbers

A floating point number is kept as its 64 bits, so that equality is equality of bits and every
fact about it is a fact of whole numbers: a finite number is `m * 2 ^ q` with `m` below `2 ^ 53`.
Rounding a quotient to the nearest such number is exact arithmetic on naturals.
-/

namespace RelyingParty.Decimal

structure Binary64 where
  bits : UInt64
deriving DecidableEq, Repr

namespace Binary64

/-- What the bits say: a finite number is a sign and `m * 2 ^ q`. -/
inductive View where
  | finite (negative : Bool) (m : Nat) (q : Int)
  | infinite (negative : Bool)
  | notANumber
deriving DecidableEq, Repr

/-- The exponent of the smallest positive number. -/
def minExponent : Int := -1074

def view (x : Binary64) : View :=
  let n := x.bits.toNat
  let negative := Nat.pow 2 63 ≤ n
  let field : Nat := n / Nat.pow 2 52 % Nat.pow 2 11
  let rest : Nat := n % Nat.pow 2 52
  if field = 2047 then (if rest = 0 then .infinite negative else .notANumber)
  else if field = 0 then .finite negative rest minExponent
  else .finite negative (Nat.pow 2 52 + rest) (field + minExponent - 1)

def withSign (negative : Bool) (magnitude : Nat) : Binary64 :=
  ⟨UInt64.ofNat ((if negative then Nat.pow 2 63 else 0) + magnitude)⟩

def infinity (negative : Bool) : Binary64 := withSign negative (2047 * Nat.pow 2 52)

/-- The quiet number that is none, as texts of `nan` denote it. -/
def nan (negative : Bool) : Binary64 := withSign negative (2047 * Nat.pow 2 52 + Nat.pow 2 51)

def isInfinite (x : Binary64) : Bool := x.bits.toNat % Nat.pow 2 63 = 2047 * Nat.pow 2 52

/-- `num / den` rounded to a whole number, a half to the even neighbour. -/
def roundQuotient (num den : Nat) : Nat :=
  let floor := num / den
  let twice := 2 * (num % den)
  if twice > den ∨ (twice = den ∧ floor % 2 = 1) then floor + 1 else floor

/-- `num / den` in units of `2 ^ e`, rounded. -/
def significand (num den : Nat) (e : Int) : Nat :=
  if 0 ≤ e then roundQuotient num (den * Nat.pow 2 e.toNat)
  else roundQuotient (num * Nat.pow 2 (-e).toNat) den

/-- The exponent at which `num / den` has a significand of 53 bits, but never less than the
least exponent there is. -/
def exponentFor (num den : Nat) : Int :=
  let guess : Int := (num.log2 : Int) - (den.log2 : Int) - 53
  let fits : Bool :=
    if 0 ≤ guess then num < den * Nat.pow 2 (guess.toNat + 53)
    else num * Nat.pow 2 (-guess).toNat < den * Nat.pow 2 53
  max minExponent (if fits then guess else guess + 1)

/-- The number nearest to `num / den`, a tie going to the even significand; a quotient beyond
the largest number gives infinity. A significand that rounds up to `2 ^ 53` carries into the
exponent field, which is what the next binade wants. -/
def nearest (negative : Bool) (num den : Nat) : Binary64 :=
  if num = 0 then withSign negative 0
  else
    let e := exponentFor num den
    let magnitude := significand num den e + (e - minExponent).toNat * Nat.pow 2 52
    if 2047 * Nat.pow 2 52 ≤ magnitude then infinity negative else withSign negative magnitude

/-- The number nearest to `digits * 10 ^ exponent`. Exponents so far out that the result is zero
or infinite whatever the digits are decided first, so that no huge power is ever computed. -/
def ofDecimal (negative : Bool) (digits : Nat) (exponent : Int) : Binary64 :=
  let size : Int := (Nat.toDigits 10 digits).length + exponent
  if digits = 0 ∨ size < -330 then withSign negative 0
  else if 310 < size then infinity negative
  else if 0 ≤ exponent then nearest negative (digits * Nat.pow 10 exponent.toNat) 1
  else nearest negative digits (Nat.pow 10 (-exponent).toNat)

/-- The exact value of the magnitude as a quotient; zero for what is not finite. -/
def quotient (x : Binary64) : Nat × Nat :=
  match x.view with
  | .finite _ m q => if 0 ≤ q then (m * Nat.pow 2 q.toNat, 1) else (m, Nat.pow 2 (-q).toNat)
  | _ => (0, 1)

end Binary64

end RelyingParty.Decimal
