import RelyingParty.Decimal.Shortest
import RelyingParty.Document

/-!
# Documents as JSON text

Two layouts: everything on one line, and one member or element per line with an indent of two
spaces per level, where an empty list or table stays closed on its line. Characters beyond ASCII
stand for themselves.
-/

namespace RelyingParty.Json

/-- The two characters of a short escape, or the four digit form for other controls. -/
def escape (c : Char) : List Char :=
  if c = '"' ∨ c = '\\' then ['\\', c]
  else if c = '\x08' then ['\\', 'b']
  else if c = '\t' then ['\\', 't']
  else if c = '\n' then ['\\', 'n']
  else if c = '\x0c' then ['\\', 'f']
  else if c = '\r' then ['\\', 'r']
  else if c < ' ' then
    '\\' :: 'u' :: '0' :: '0' :: (if c.toNat < 16 then ['0'] else []) ++ Nat.toDigits 16 c.toNat
  else [c]

def quoted (s : String) : String := String.ofList ('"' :: s.toList.flatMap escape ++ ['"'])

/-- What has no layout of its own: `null`, truth values, numbers and texts. Numbers that are not
finite have no JSON form and become `null`. -/
def scalar : Document → String
  | .bool b => if b then "true" else "false"
  | .integer n => toString n
  | .number x =>
      match x.view with
      | .finite .. => x.text Decimal.Style.moderate
      | _ => "null"
  | .text s => quoted s
  | _ => "null"

mutual

/-- The text on one line, without blanks. -/
def compact : Document → String
  | .list items => "[" ++ ",".intercalate (compactItems items) ++ "]"
  | .table entries => "\x7b" ++ ",".intercalate (compactEntries entries) ++ "\x7d"
  | .clashing entries => "\x7b" ++ ",".intercalate (compactEntries entries) ++ "\x7d"
  | .headed d => compact d
  | d => scalar d

def compactItems : List Document → List String
  | [] => []
  | d :: ds => compact d :: compactItems ds

def compactEntries : List Document.Entry → List String
  | [] => []
  | (key, d) :: es => (quoted key ++ ":" ++ compact d) :: compactEntries es

end

/-- A line break and the indent of a level. -/
def lineBreak (level : Nat) : String := "\n" ++ String.ofList (List.replicate (2 * level) ' ')

/-- Parts between brackets, each on a line of its own one level further in. -/
def block (opening closing : String) (level : Nat) : List String → String
  | [] => opening ++ closing
  | parts =>
      let inner := lineBreak (level + 1)
      opening ++ inner ++ ("," ++ inner).intercalate parts ++ lineBreak level ++ closing

mutual

def prettyAt (level : Nat) : Document → String
  | .list items => block "[" "]" level (prettyItems (level + 1) items)
  | .table entries => block "\x7b" "\x7d" level (prettyEntries (level + 1) entries)
  | .clashing entries => block "\x7b" "\x7d" level (prettyEntries (level + 1) entries)
  | .headed d => prettyAt level d
  | d => scalar d

def prettyItems (level : Nat) : List Document → List String
  | [] => []
  | d :: ds => prettyAt level d :: prettyItems level ds

def prettyEntries (level : Nat) : List Document.Entry → List String
  | [] => []
  | (key, d) :: es => (quoted key ++ ": " ++ prettyAt level d) :: prettyEntries level es

end

/-- The text with one member or element per line. -/
def pretty (d : Document) : String := prettyAt 0 d

end RelyingParty.Json
