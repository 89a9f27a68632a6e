/-!
# Levels of log records and thresholds on them

A record has a level; a threshold lets through the records up to a level, or none at all. A
threshold can be named in settings or in the environment, in any mixture of upper and lower
case of ASCII and with nothing around the name.
-/

namespace RelyingParty.Log

inductive Level where
  | error
  | warn
  | info
  | debug
  | trace
deriving DecidableEq, Repr

/-- The largest level that passes, if any does. -/
inductive Threshold where
  | off
  | upTo (level : Level)
deriving DecidableEq, Repr

namespace Level

def name : Level → String
  | error => "ERROR"
  | warn => "WARN"
  | info => "INFO"
  | debug => "DEBUG"
  | trace => "TRACE"

/-- Greater ranks are more talkative. -/
def rank : Level → Nat
  | error => 1
  | warn => 2
  | info => 3
  | debug => 4
  | trace => 5

end Level

namespace Threshold

def rank : Threshold → Nat
  | off => 0
  | upTo level => level.rank

def name : Threshold → String
  | off => "OFF"
  | upTo level => level.name

def admits (t : Threshold) (l : Level) : Bool := l.rank ≤ t.rank

def max (s t : Threshold) : Threshold := if s.rank < t.rank then t else s

def all : List Threshold :=
  [off, upTo .error, upTo .warn, upTo .info, upTo .debug, upTo .trace]

/-- The lower case form of an ASCII letter; every other character stays as it is. -/
def foldCase (c : Char) : Char :=
  if 'A' ≤ c ∧ c ≤ 'Z' then Char.ofNat (c.toNat + 32) else c

/-- The threshold with this name, letter case aside. -/
def ofName? (s : String) : Option Threshold :=
  all.find? fun t => t.name.toList.map foldCase = s.toList.map foldCase

/-- The threshold in force after a text asked for one: a text that names none changes nothing. -/
def apply (t : Threshold) (s : String) : Threshold := (ofName? s).getD t

end Threshold

end RelyingParty.Log
