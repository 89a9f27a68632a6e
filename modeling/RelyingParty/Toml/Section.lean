import RelyingParty.Text.Lines
import RelyingParty.Toml.Item

/-!
# The sections of a TOML text

A text is a sequence of sections: the pairs before the first header, and each header with the
pairs that follow it. A header in double brackets adds an element to a list of tables. The whole
grammar is checked here, before any section is put in its place.
-/

namespace RelyingParty.Toml

structure Section where
  /-- The parts of the header; none for the pairs before the first one. -/
  path : List String
  /-- Whether the header adds an element to a list. -/
  isElement : Bool
  pairs : List (String × Item)
deriving Inhabited

/-- A header, read after its first bracket, to the end of its line. -/
def header (cs : List Char) : Option (Section × List Char) := do
  let (isElement, cs) : Bool × List Char := match cs with
    | '[' :: rest => (true, rest)
    | cs => (false, cs)
  let (path, rest) ← key (skipBlanks cs)
  match rest, isElement with
  | ']' :: ']' :: rest, true => do some (⟨path, true, []⟩, ← endOfLine rest)
  | ']' :: rest, false => do some (⟨path, false, []⟩, ← endOfLine rest)
  | _, _ => none

/-- A pair, to the end of its line. -/
def pair (cs : List Char) : Option ((List String × Item) × List Char) := do
  let (parts, rest) ← key cs
  match skipBlanks rest with
  | '=' :: rest =>
      let (item, rest) ← value (2 * rest.length + 2) (skipBlanks rest)
      some ((parts, item), ← endOfLine rest)
  | _ => none

/-- The sections of a text, given the one that its first pairs belong to. -/
def sectionsFrom (current : Section) : Nat → List Char → Option (List Section)
  | 0, _ => none
  | fuel + 1, cs =>
      match skipSpace cs with
      | [] => some [current]
      | '[' :: rest => do
          let (next, rest) ← header rest
          some (current :: (← sectionsFrom next fuel rest))
      | cs => do
          let ((parts, item), rest) ← pair cs
          let pairs ← addPair item current.pairs parts
          sectionsFrom { current with pairs } fuel rest

/-- The sections of a text. A byte order mark at its start is skipped. -/
def sections (text : String) : Option (List Section) :=
  let cs := Text.foldLineEnds text.toList
  let cs := match cs with
    | '\ufeff' :: rest => rest
    | cs => cs
  sectionsFrom ⟨[], false, []⟩ (cs.length + 1) cs

end RelyingParty.Toml
