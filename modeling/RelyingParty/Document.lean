import RelyingParty.Decimal.Binary64

/-!
# Documents

What a settings text denotes before anyone asks what it means: a tree of tables, lists and
scalars. JSON and TOML texts both denote documents. A table is a list of entries, in the order
in which a reader of the text meets them, so that the first fault a reader reports can be the
first one in the text.
-/

namespace RelyingParty

inductive Document where
  | null
  | bool (value : Bool)
  | integer (value : Int)
  | number (value : Decimal.Binary64)
  | text (value : String)
  | list (items : List Document)
  | table (entries : List (String × Document))
  /-- A table whose text goes on to define one of its keys again: the entries up to there. -/
  | clashing (entries : List (String × Document))
  /-- A table or list that is spread over sections of the text, each under its own header. -/
  | headed (content : Document)
deriving Repr, Inhabited

namespace Document

/-- One entry of a table. -/
abbrev Entry := String × Document

mutual

/-- Whether some table in the document defines a key twice. -/
def hasClash : Document → Bool
  | list items => anyItemClashes items
  | table entries => anyEntryClashes entries
  | clashing _ => true
  | headed content => hasClash content
  | _ => false

def anyItemClashes : List Document → Bool
  | [] => false
  | d :: ds => hasClash d || anyItemClashes ds

def anyEntryClashes : List Entry → Bool
  | [] => false
  | (_, d) :: es => hasClash d || anyEntryClashes es

end

/-- The document itself, however its text is laid out. -/
def content : Document → Document
  | headed d => d.content
  | d => d

end Document

end RelyingParty
