import RelyingParty.Toml.Number

/-!
# Values and pairs in TOML

A value is a scalar, an array, or an inline table; a key of several parts makes a table of its
own kind, which further keys with the same beginning extend. That a key occurs twice is not a
matter of grammar: such a pair is kept, and the table it stands in denotes a clash.
-/

namespace RelyingParty.Toml

inductive Item where
  | scalar (value : Document)
  | array (items : List Item)
  | inline (pairs : List (String × Item))
  /-- A table made by keys of several parts. -/
  | dotted (pairs : List (String × Item))
deriving Inhabited

/-- A table whose entries come from pairs: the pairs up to the first that repeats a key. -/
def tableOfPairs : List String → List Document.Entry → List Document.Entry × Bool
  | _, [] => ([], true)
  | seen, (k, d) :: rest =>
      if seen.contains k then ([], false)
      else
        let (entries, complete) := tableOfPairs (k :: seen) rest
        ((k, d) :: entries, complete)

/-- The document of a table with these pairs. -/
def pairsDocument (entries : List Document.Entry) : Document :=
  match tableOfPairs [] entries with
  | (entries, true) => .table entries
  | (entries, false) => .clashing entries

mutual

def Item.toDocument : Item → Document
  | .scalar d => d
  | .array items => .list (itemDocuments items)
  | .inline pairs | .dotted pairs => pairsDocument (pairDocuments pairs)

def itemDocuments : List Item → List Document
  | [] => []
  | i :: is => i.toDocument :: itemDocuments is

def pairDocuments : List (String × Item) → List Document.Entry
  | [] => []
  | (k, i) :: ps => (k, i.toDocument) :: pairDocuments ps

end

/-- Replaces the item of the first pair with a key. -/
def replaceItem (k : String) (item : Item) : List (String × Item) → List (String × Item)
  | [] => []
  | (k', i) :: ps => if k' = k then (k, item) :: ps else (k', i) :: replaceItem k item ps

/-- Adds a pair. The parts of a key before the last name tables made by such keys, and a key that
already holds anything else cannot be extended. -/
def addPair (item : Item) (pairs : List (String × Item)) :
    List String → Option (List (String × Item))
  | [] => none
  | [k] => some (pairs ++ [(k, item)])
  | k :: rest =>
      match pairs.lookup k with
      | none => do
          let inner ← addPair item [] rest
          some (pairs ++ [(k, .dotted inner)])
      | some (.dotted inner) => do
          let inner ← addPair item inner rest
          some (replaceItem k (.dotted inner) pairs)
      | some _ => none

mutual

/-- A value. -/
def value : Nat → List Char → Option (Item × List Char)
  | 0, _ => none
  | _, [] => none
  | fuel + 1, c :: rest =>
      if c = '"' ∨ c = '\'' then
        (string c rest).map fun ((s, _), rest) => (.scalar (.text s), rest)
      else if c = '[' then
        (elements fuel (skipSpace rest)).map fun (items, rest) => (.array items, rest)
      else if c = '\x7b' then
        match skipBlanks rest with
        | '\x7d' :: rest => some (.inline [], rest)
        | rest => (members fuel [] rest).map fun (pairs, rest) => (.inline pairs, rest)
      else
        let (signed, cs) : Bool × List Char := if c = '+' then (true, rest) else (false, c :: rest)
        let word := cs.takeWhile isBareChar
        let after := cs.dropWhile isBareChar
        if word.isEmpty then none
        else if !signed && word = ['t', 'r', 'u', 'e'] then some (.scalar (.bool true), after)
        else if !signed && word = ['f', 'a', 'l', 's', 'e'] then some (.scalar (.bool false), after)
        else (number word after).map fun (d, rest) => (.scalar d, rest)

/-- The elements of an array up to its closing bracket, each on lines of its own if need be. -/
def elements : Nat → List Char → Option (List Item × List Char)
  | 0, _ => none
  | _, ']' :: rest => some ([], rest)
  | fuel + 1, cs => do
      let (item, rest) ← value fuel cs
      match skipSpace rest with
      | ',' :: rest =>
          let (items, rest) ← elements fuel (skipSpace rest)
          some (item :: items, rest)
      | ']' :: rest => some ([item], rest)
      | _ => none

/-- The pairs of an inline table up to its closing brace, all on one line. -/
def members : Nat → List (String × Item) → List Char → Option (List (String × Item) × List Char)
  | 0, _, _ => none
  | fuel + 1, pairs, cs => do
      let (parts, rest) ← key cs
      match skipBlanks rest with
      | '=' :: rest =>
          let (item, rest) ← value fuel (skipBlanks rest)
          let pairs ← addPair item pairs parts
          match skipBlanks rest with
          | '\x7d' :: rest => some (pairs, rest)
          | ',' :: rest => members fuel pairs (skipBlanks rest)
          | _ => none
      | _ => none

end

end RelyingParty.Toml
