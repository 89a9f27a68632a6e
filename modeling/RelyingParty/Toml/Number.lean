import RelyingParty.Document
import RelyingParty.Toml.Lexeme

/-!
# Numbers in TOML

Whole numbers in four bases within 64 bits, and floating point numbers that are finite or named.
Digits may be set apart by single underscores, and a decimal number does not start with a zero
unless that is all.
-/

namespace RelyingParty.Toml

open Decimal (Binary64)

/-- The value of a digit in a base. -/
def digit? (base : Nat) (c : Char) : Option Nat := (hexValue? c).filter (· < base)

/-- A run of digits with single underscores between them; what follows it is returned. -/
def digits (base : Nat) : List Char → Option (List Nat × List Char)
  | [] => none
  | [c] => (digit? base c).map fun d => ([d], [])
  | c :: '_' :: rest => do
      let d ← digit? base c
      let (ds, rest) ← digits base rest
      some (d :: ds, rest)
  | c :: c' :: rest => do
      let d ← digit? base c
      if (digit? base c').isSome then
        let (ds, rest) ← digits base (c' :: rest)
        some (d :: ds, rest)
      else some ([d], c' :: rest)

def ofDigits (base : Nat) (ds : List Nat) : Nat := ds.foldl (fun n d => n * base + d) 0

/-- A minus at the start of a word, if there is one; a plus never belongs to a word. -/
def sign : List Char → Bool × List Char
  | '-' :: rest => (true, rest)
  | rest => (false, rest)

/-- The digits of a decimal whole part: a zero at the front must be the only digit. -/
def wholePart (cs : List Char) : Option (List Nat × List Char) := do
  let (ds, rest) ← digits 10 cs
  match ds with
  | 0 :: _ :: _ => none
  | _ => some (ds, rest)

/-- A whole number within 64 bits, signed. -/
def integer (negative : Bool) (n : Nat) : Option Document :=
  if negative then (if n ≤ Nat.pow 2 63 then some (.integer (-(n : Int))) else none)
  else (if n < Nat.pow 2 63 then some (.integer n) else none)

/-- A whole number that takes up all of a word. -/
def wholeWord (base : Nat) (negative : Bool) (ds : List Nat × List Char) : Option Document :=
  if ds.2.isEmpty then integer negative (ofDigits base ds.1) else none

/-- The exponent of a float: what follows in the word after the `e`, or a sign that ends the
word and the word after it. -/
def exponent (inWord after : List Char) : Option (Int × List Char) :=
  if inWord.isEmpty then
    match after with
    | '+' :: rest => do
        let (ds, left) ← digits 10 (rest.takeWhile isBareChar)
        if left.isEmpty then some (ofDigits 10 ds, rest.dropWhile isBareChar) else none
    | _ => none
  else do
    let (negative, inWord) := sign inWord
    let (ds, left) ← digits 10 inWord
    let n : Int := ofDigits 10 ds
    if left.isEmpty then some (if negative then -n else n, after) else none

/-- A float from its digits, and from what follows them in their word and after it. -/
def float (negative : Bool) (whole fraction : List Nat) (inWord after : List Char) :
    Option (Document × List Char) := do
  let (e, rest) ←
    match inWord with
    | [] => some (0, after)
    | c :: inWord => if c = 'e' ∨ c = 'E' then exponent inWord after else none
  let x := Binary64.ofDecimal negative (ofDigits 10 (whole ++ fraction)) (e - fraction.length)
  if x.isInfinite then none else some (.number x, rest)

/-- A number that starts with `word`, which is followed by `after`. -/
def number (word after : List Char) : Option (Document × List Char) :=
  match word with
  | '0' :: 'x' :: ds => do some (← wholeWord 16 false (← digits 16 ds), after)
  | '0' :: 'o' :: ds => do some (← wholeWord 8 false (← digits 8 ds), after)
  | '0' :: 'b' :: ds => do some (← wholeWord 2 false (← digits 2 ds), after)
  | _ =>
      let (negative, magnitude) := sign word
      if word.contains 'e' || word.contains 'E' then do
        let (whole, inWord) ← wholePart magnitude
        float negative whole [] inWord after
      else
        match after with
        | '.' :: after => do
            let (whole, left) ← wholePart magnitude
            let (fraction, inWord) ← digits 10 (after.takeWhile isBareChar)
            if left.isEmpty then
              float negative whole fraction inWord (after.dropWhile isBareChar)
            else none
        | _ =>
            if magnitude = ['i', 'n', 'f'] then some (.number (Binary64.infinity negative), after)
            else if magnitude = ['n', 'a', 'n'] then some (.number (Binary64.nan negative), after)
            else do some (← wholeWord 10 negative (← wholePart magnitude), after)

end RelyingParty.Toml
