/-!
# Lines

A line ends in a line feed, and a carriage return before the line feed belongs to that end. What
follows the last line feed is a line too, unless nothing does.
-/

namespace RelyingParty.Text

/-- Drops each carriage return that stands before a line feed. -/
def foldLineEnds : List Char → List Char
  | '\r' :: '\n' :: rest => '\n' :: foldLineEnds rest
  | c :: rest => c :: foldLineEnds rest
  | [] => []

variable {α : Type}

/-- Adds an element to the front of the first piece. -/
def consToFirst (a : α) : List (List α) → List (List α)
  | [] => [[a]]
  | piece :: rest => (a :: piece) :: rest

/-- The pieces of a list that are closed by `stop`, and what is left after the last of them. -/
def pieces [DecidableEq α] (stop : α) : List α → List (List α)
  | [] => []
  | a :: rest => if a = stop then [] :: pieces stop rest else consToFirst a (pieces stop rest)

/-- The lines of a text, without their ends. -/
def lines (s : String) : List String :=
  (pieces '\n' (foldLineEnds s.toList)).map String.ofList

end RelyingParty.Text
