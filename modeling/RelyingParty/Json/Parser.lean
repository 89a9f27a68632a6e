import RelyingParty.Document

/-!
# Documents from JSON text

Each function reads from the front of a list of characters and returns what it read with the
characters that follow. An object's members come in the order of their keys, and of two members
with the same key the later one holds, so a text and any rearrangement of its members denote the
same document.
-/

namespace RelyingParty.Json

def isBlank (c : Char) : Bool := c = ' ' || c = '\t' || c = '\n' || c = '\r'

def skipBlanks (cs : List Char) : List Char := cs.dropWhile isBlank

def hexValue? (c : Char) : Option Nat :=
  if '0' ≤ c ∧ c ≤ '9' then some (c.toNat - '0'.toNat)
  else if 'a' ≤ c ∧ c ≤ 'f' then some (c.toNat - 'a'.toNat + 10)
  else if 'A' ≤ c ∧ c ≤ 'F' then some (c.toNat - 'A'.toNat + 10)
  else none

/-- The number written by four hexadecimal digits. -/
def fourDigits : List Char → Option (Nat × List Char)
  | a :: b :: c :: d :: rest => do
      let a ← hexValue? a
      let b ← hexValue? b
      let c ← hexValue? c
      let d ← hexValue? d
      some (((a * 16 + b) * 16 + c) * 16 + d, rest)
  | _ => none

/-- The character of a `\u` escape, read after the `u`: characters beyond U+FFFF take a pair of
surrogates, and a surrogate alone is no character. -/
def codeEscape (cs : List Char) : Option (Char × List Char) := do
  let (high, rest) ← fourDigits cs
  if 0xD800 ≤ high ∧ high < 0xDC00 then
    match rest with
    | '\\' :: 'u' :: rest =>
        let (low, rest) ← fourDigits rest
        if 0xDC00 ≤ low ∧ low < 0xE000 then
          some (Char.ofNat (0x10000 + (high - 0xD800) * 0x400 + (low - 0xDC00)), rest)
        else none
    | _ => none
  else if 0xDC00 ≤ high ∧ high < 0xE000 then none
  else some (Char.ofNat high, rest)

/-- The character of an escape, read after the backslash. -/
def escapeChar : List Char → Option (Char × List Char)
  | '"' :: rest => some ('"', rest)
  | '\\' :: rest => some ('\\', rest)
  | '/' :: rest => some ('/', rest)
  | 'b' :: rest => some ('\x08', rest)
  | 'f' :: rest => some ('\x0c', rest)
  | 'n' :: rest => some ('\n', rest)
  | 'r' :: rest => some ('\r', rest)
  | 't' :: rest => some ('\t', rest)
  | 'u' :: rest => codeEscape rest
  | _ => none

/-- The characters of a string up to its closing quote, read after the opening one. -/
def stringChars : Nat → List Char → Option (List Char × List Char)
  | 0, _ => none
  | _, [] => none
  | _ + 1, '"' :: rest => some ([], rest)
  | fuel + 1, '\\' :: rest => do
      let (c, rest) ← escapeChar rest
      let (cs, rest) ← stringChars fuel rest
      some (c :: cs, rest)
  | fuel + 1, c :: rest =>
      if c < ' ' then none
      else do
        let (cs, rest) ← stringChars fuel rest
        some (c :: cs, rest)

def string (cs : List Char) : Option (String × List Char) := do
  let (content, rest) ← stringChars (cs.length + 1) cs
  some (String.ofList content, rest)

def digitValue (c : Char) : Nat := c.toNat - '0'.toNat

/-- Takes digits into a significand for as long as it stays below `2 ^ 64`; returns it with the
digits left over. -/
def accumulate (significand : Nat) : List Char → Nat × List Char
  | [] => (significand, [])
  | d :: ds =>
      let next := significand * 10 + digitValue d
      if next < Nat.pow 2 64 then accumulate next ds else (significand, d :: ds)

open Decimal (Binary64)

/-- The binary64 number nearest to `10 ^ k`, for `k` up to 308, as an exact quotient. -/
def powerOfTen (k : Nat) : Nat × Nat := (Binary64.nearest false (Nat.pow 10 k) 1).quotient

/-- The product of a magnitude with the power of ten. -/
def timesPower (x : Binary64) (k : Nat) : Binary64 :=
  Binary64.nearest false (x.quotient.1 * (powerOfTen k).1) (x.quotient.2 * (powerOfTen k).2)

/-- The quotient of a magnitude by the power of ten. -/
def overPower (x : Binary64) (k : Nat) : Binary64 :=
  Binary64.nearest false (x.quotient.1 * (powerOfTen k).2) (x.quotient.2 * (powerOfTen k).1)

/-- A significand scaled by a power of ten: it is rounded to binary64 first, then multiplied or
divided in steps that are rounded each. Three divisions by `10 ^ 308` take any significand to
zero. -/
def scaled (significand : Nat) (exponent : Int) : Option Binary64 :=
  let x := Binary64.nearest false significand 1
  if significand = 0 then some x
  else if 0 ≤ exponent then
    if 308 < exponent then none
    else
      let y := timesPower x exponent.toNat
      if y.isInfinite then none else some y
  else if -308 ≤ exponent then some (overPower x (-exponent).toNat)
  else if -616 ≤ exponent then some (overPower (overPower x 308) (-exponent - 308).toNat)
  else some (Binary64.nearest false 0 1)

def negate (x : Binary64) : Binary64 := ⟨x.bits ^^^ (0x8000000000000000 : UInt64)⟩

/-- The digits after a point, if there is one; a point without digits is an error. -/
def fractionDigits : List Char → Option (List Char × List Char)
  | '.' :: rest =>
      let digits := rest.takeWhile Char.isDigit
      if digits.isEmpty then none else some (digits, rest.dropWhile Char.isDigit)
  | rest => some ([], rest)

/-- The exponent after an `e`, if there is one. -/
def exponentPart : List Char → Option (Option Int × List Char)
  | c :: rest =>
      if c = 'e' ∨ c = 'E' then
        let (sign, rest) : Int × List Char := match rest with
          | '+' :: rest => (1, rest)
          | '-' :: rest => (-1, rest)
          | rest => (1, rest)
        let digits := rest.takeWhile Char.isDigit
        if digits.isEmpty then none
        else
          some (some (sign * digits.foldl (fun n d => n * 10 + digitValue d) 0),
            rest.dropWhile Char.isDigit)
      else some (none, c :: rest)
  | [] => some (none, [])

/-- A number. Whole numbers of 64 bits, signed or unsigned, stay whole; all others, and the
negative zero, are binary64 numbers. -/
def number (cs : List Char) : Option (Document × List Char) := do
  let (negative, cs) := match cs with
    | '-' :: rest => (true, rest)
    | cs => (false, cs)
  let whole := cs.takeWhile Char.isDigit
  if whole.isEmpty ∨ (whole.head? = some '0' ∧ 1 < whole.length) then none
  let (fraction, rest) ← fractionDigits (cs.dropWhile Char.isDigit)
  let (exponent, rest) ← exponentPart rest
  let (significand, dropped) := accumulate 0 whole
  -- A negative zero has no whole number of its own.
  let inRange : Bool := if negative then significand ≤ Nat.pow 2 63 ∧ significand ≠ 0 else true
  if fraction.isEmpty && exponent.isNone && dropped.isEmpty && inRange then
    some (.integer (if negative then -significand else significand), rest)
  else
    -- Digits that no longer fit only move the point, and those after it are dropped.
    let (significand, unused) := accumulate significand fraction
    let places : Int := dropped.length - (fraction.length - unused.length : Nat)
    let x ← scaled significand (places + exponent.getD 0)
    some (.number (if negative then negate x else x), rest)

/-- Puts a member among members sorted by key, in place of one with the same key. -/
def insertMember (key : String) (value : Document) : List Document.Entry → List Document.Entry
  | [] => [(key, value)]
  | (k, v) :: rest =>
      if key < k then (key, value) :: (k, v) :: rest
      else if key = k then (key, value) :: rest
      else (k, v) :: insertMember key value rest

mutual

def value : Nat → List Char → Option (Document × List Char)
  | 0, _ => none
  | fuel + 1, cs =>
      match skipBlanks cs with
      | 'n' :: 'u' :: 'l' :: 'l' :: rest => some (.null, rest)
      | 't' :: 'r' :: 'u' :: 'e' :: rest => some (.bool true, rest)
      | 'f' :: 'a' :: 'l' :: 's' :: 'e' :: rest => some (.bool false, rest)
      | '"' :: rest => do
          let (s, rest) ← string rest
          some (.text s, rest)
      | '[' :: rest =>
          match skipBlanks rest with
          | ']' :: rest => some (.list [], rest)
          | rest => do
              let (vs, rest) ← elements fuel rest
              some (.list vs, rest)
      | '\x7b' :: rest =>
          match skipBlanks rest with
          | '\x7d' :: rest => some (.table [], rest)
          | rest => do
              let (ms, rest) ← members fuel rest
              some (.table (ms.foldl (fun es m => insertMember m.1 m.2 es) []), rest)
      | cs => number cs

/-- The elements of a list up to its closing bracket. -/
def elements : Nat → List Char → Option (List Document × List Char)
  | 0, _ => none
  | fuel + 1, cs => do
      let (v, rest) ← value fuel cs
      match skipBlanks rest with
      | ']' :: rest => some ([v], rest)
      | ',' :: rest =>
          let (vs, rest) ← elements fuel rest
          some (v :: vs, rest)
      | _ => none

/-- The members of an object up to its closing brace. -/
def members : Nat → List Char → Option (List Document.Entry × List Char)
  | 0, _ => none
  | fuel + 1, cs =>
      match skipBlanks cs with
      | '"' :: rest => do
          let (key, rest) ← string rest
          match skipBlanks rest with
          | ':' :: rest =>
              let (v, rest) ← value fuel rest
              match skipBlanks rest with
              | '\x7d' :: rest => some ([(key, v)], rest)
              | ',' :: rest =>
                  let (ms, rest) ← members fuel rest
                  some ((key, v) :: ms, rest)
              | _ => none
          | _ => none
      | _ => none

end

/-- The document that a whole text denotes. Every bracket costs at most two levels of nesting
here, hence the fuel. -/
def parse? (s : String) : Option Document := do
  let cs := s.toList
  let (d, rest) ← value (2 * cs.length + 2) cs
  if (skipBlanks rest).isEmpty then some d else none

end RelyingParty.Json
