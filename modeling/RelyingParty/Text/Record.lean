/-!
# The one-line form of a value

Diagnostics show a whole value on one line: a record as its name and its fields in braces, an
optional value under `Some` or as `None`, a list in square brackets, a set in braces. The forms
nest, so each function here takes the already written parts.
-/

namespace RelyingParty.Text

/-- The parts with a comma and a space between neighbours. -/
def commaSeparated (parts : List String) : String := ", ".intercalate parts

/-- A record: its name, then each field as `name: value`. -/
def record (name : String) (fields : List (String × String)) : String :=
  name ++ " \x7b " ++ commaSeparated (fields.map fun f => f.1 ++ ": " ++ f.2) ++ " \x7d"

def optional : Option String → String
  | some value => "Some(" ++ value ++ ")"
  | none => "None"

def bracketed (parts : List String) : String := "[" ++ commaSeparated parts ++ "]"

def braced (parts : List String) : String := "\x7b" ++ commaSeparated parts ++ "\x7d"

end RelyingParty.Text
