import RelyingParty.Decimal.Shortest
import RelyingParty.Document
import RelyingParty.Text.Quoted

/-!
# Reading values out of documents

A reader turns a document into a value or reports the first fault on the way, in the order of
the text. Records are read by the names of their fields: an entry that names no field is
ignored, an absent field takes its default or is missing. A record can also be written as a list
of its fields in the order of their declaration, cut short where the rest has defaults.
-/

namespace RelyingParty.Document

open Decimal (Binary64 Style)

/-- Why a document is not what a reader expects. -/
inductive Fault where
  | missingField (name : String)
  /-- A document of the wrong kind. -/
  | unexpectedKind (found expected : String)
  /-- A document of the right kind that is none of the values. -/
  | unexpectedValue (found expected : String)
  | unknownName (name : String) (known : List String)
  | wrongLength (count : Nat) (expected : String)
  /-- A name was expected where the text has something else. -/
  | notAName
  /-- A table defines a key twice. -/
  | clash
  /-- The text denotes no document at all. -/
  | malformed
deriving DecidableEq, Repr

/-- The names in back quotes, as an alternative. -/
def alternatives : List String → String
  | [] => "there are no variants"
  | [a] => "expected `" ++ a ++ "`"
  | [a, b] => "expected `" ++ a ++ "` or `" ++ b ++ "`"
  | names => "expected one of " ++ ", ".intercalate (names.map fun n => "`" ++ n ++ "`")

/-- The words of a fault; those that concern the text as such have none. -/
def Fault.message : Fault → Option String
  | missingField name => some ("missing field `" ++ name ++ "`")
  | unexpectedKind found expected =>
      some ("invalid type: " ++ found ++ ", expected " ++ expected)
  | unexpectedValue found expected =>
      some ("invalid value: " ++ found ++ ", expected " ++ expected)
  | unknownName name known => some ("unknown variant `" ++ name ++ "`, " ++ alternatives known)
  | wrongLength count expected =>
      some ("invalid length " ++ toString count ++ ", expected " ++ expected)
  | notAName | clash | malformed => none

/-- What differs between documents by the text they came from. -/
structure Format where
  /-- How a message writes a number. -/
  numberText : Binary64 → String
  /-- What is said to be expected of a list that holds more than a record of so many fields. -/
  surplusText : Nat → String
  /-- Whether a table with a single entry can stand for the name that is its key. -/
  keyedNames : Bool

namespace Format

def json : Format where
  numberText := Binary64.text Style.moderate
  surplusText _ := "fewer elements in array"
  keyedNames := true

def toml : Format where
  numberText := Binary64.text Style.positional
  surplusText n := toString n ++ (if n = 1 then " element" else " elements") ++ " in sequence"
  keyedNames := false

/-- What a message calls a document. -/
def kind (f : Format) : Document → String
  | null => "null"
  | bool b => "boolean `" ++ toString b ++ "`"
  | integer n => "integer `" ++ toString n ++ "`"
  | number x => "floating point `" ++ f.numberText x ++ "`"
  | text s => "string " ++ Text.quote s
  | list _ => "sequence"
  | table _ | clashing _ => "map"
  | headed d => f.kind d

end Format

abbrev Reader (α : Type) := Document → Except Fault α

namespace Reader

variable {α β : Type}

/-- The fault of a reader on a document, if there is one. -/
def fault? (r : Reader α) (d : Document) : Option Fault :=
  match r d with
  | .ok _ => none
  | .error f => some f

def text (f : Format) : Reader String
  | .text s => .ok s
  | d => .error (.unexpectedKind (f.kind d) "a string")

def bool (f : Format) : Reader Bool
  | .bool b => .ok b
  | d => .error (.unexpectedKind (f.kind d) "a boolean")

/-- A value or `null` for none. -/
def optional (r : Reader α) : Reader (Option α)
  | .null => .ok none
  | d => (r d).map some

def items (r : Reader α) : List Document → Except Fault (List α)
  | [] => .ok []
  | d :: ds => do
      let a ← r d
      let as ← items r ds
      return a :: as

def list (f : Format) (r : Reader α) : Reader (List α) := fun d =>
  match d.content with
  | .list ds => items r ds
  | d => .error (.unexpectedKind (f.kind d) "a sequence")

/-- The value with a name, out of all values. -/
def named (values : List α) (name : α → String) (s : String) : Except Fault α :=
  match values.find? fun a => name a = s with
  | some a => .ok a
  | none => .error (.unknownName s (values.map name))

/-- One of a list of named values. Where a format allows it, a table can stand for its only key,
as long as the entry holds nothing. Where it does not, nothing but a text can be a name, and what
stands under headers is told to be no value of the type. -/
def choice (f : Format) (title : String) (values : List α) (name : α → String) : Reader α
  | .text s => named values name s
  | .headed d => .error (.unexpectedKind (f.kind d) ("enum " ++ title))
  | d =>
      if f.keyedNames then
        match d with
        | .table [(key, value)] => do
            let a ← named values name key
            match value with
            | .null => .ok a
            | v => .error (.unexpectedKind (f.kind v) "unit")
        | .table _ => .error (.unexpectedValue "map" "map with a single key")
        | d => .error (.unexpectedKind (f.kind d) "string or map")
      else .error .notAName

end Reader

/-- A field of a record as a reader meets it. -/
structure Field where
  name : String
  /-- Whether the record written as a list can end before this field. -/
  omittable : Bool
  /-- The fault of a document in the place of this field's value. -/
  fault? : Document → Option Fault

/-- The fault of one entry. An entry that names no field still has to be a document whose tables
define each key once. -/
def entryFault? (fields : List Field) (entry : Entry) : Option Fault :=
  match fields.find? fun field => field.name = entry.1 with
  | some field => field.fault? entry.2
  | none => if entry.2.hasClash then some .clash else none

/-- The number of elements that a message speaks of. -/
def elementCount (n : Nat) : String := toString n ++ (if n = 1 then " element" else " elements")

/-- The place of the first field from the `index`-th on that cannot be left out. -/
def firstRequired? (index : Nat) (fields : List Field) : Option Nat :=
  ((fields.drop index).findIdx? fun field => !field.omittable).map (index + ·)

/-- Reads a record: `assemble` puts it together from entries that are free of faults. -/
def Reader.record {α : Type} (f : Format) (name : String) (fields : List Field)
    (assemble : List Entry → Except Fault α) : Reader α := fun d =>
  let title := "struct " ++ name
  let whole (entries : List Entry) (closing : Option Fault) : Except Fault α :=
    match (entries.findSome? (entryFault? fields)).or closing with
    | some fault => .error fault
    | none => assemble entries
  match d.content with
  | .table entries => whole entries none
  | .clashing entries => whole entries (some .clash)
  | .list ds =>
      let closing : Option Fault :=
        match firstRequired? ds.length fields with
        | some i => some (.wrongLength i (title ++ " with " ++ elementCount fields.length))
        | none =>
            if fields.length < ds.length then
              some (.wrongLength ds.length (f.surplusText fields.length))
            else none
      whole ((fields.map Field.name).zip ds) closing
  | d => .error (.unexpectedKind (f.kind d) title)

/-- The value of a field that must be there. -/
def required {α : Type} (entries : List Entry) (name : String) (r : Reader α) : Except Fault α :=
  match entries.lookup name with
  | some d => r d
  | none => .error (.missingField name)

/-- The value of a field that has a default. -/
def withDefault {α : Type} (entries : List Entry) (name : String) (r : Reader α) (default : α) :
    Except Fault α :=
  match entries.lookup name with
  | some d => r d
  | none => .ok default

end RelyingParty.Document
