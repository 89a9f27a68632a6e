import RelyingParty.Toml.Section

/-!
# From sections to a document

The sections of a text are put one after the other into a tree of tables. A section adds its
pairs to the table that its header names, making the tables on the way; below a list of tables
it goes to the last element. Where a section cannot go, a table clashes: the table that is
defined twice or redefined as a list, or the one in which a pair already holds a key on the way.
A reader of the text sees of such a table the entries made before, and through them whatever
later sections add further down.
-/

namespace RelyingParty.Toml

/-- An entry while sections are still being added. -/
inductive Tree where
  /-- The value of a pair, which no section can extend. -/
  | value (document : Document)
  /-- A table: whether a header has defined it, whether it clashes, and its entries. -/
  | table (defined clashes : Bool) (entries : List (String × Tree))
  /-- A list of tables made by headers, the last element first. -/
  | tables (reversed : List Tree)
deriving Inhabited

namespace Tree

/-- Adds pairs to the entries of a table, up to the first that repeats a key. -/
def addPairs (entries : List (String × Tree)) : List (String × Item) → List (String × Tree) × Bool
  | [] => (entries, false)
  | (k, item) :: rest =>
      if (entries.lookup k).isSome then (entries, true)
      else addPairs (entries ++ [(k, .value item.toDocument)]) rest

/-- A table defined by a section. -/
def ofPairs (pairs : List (String × Item)) : Tree :=
  let (entries, clashes) := addPairs [] pairs
  .table true clashes entries

/-- Replaces the tree of the entry with a key. -/
def replace (k : String) (t : Tree) : List (String × Tree) → List (String × Tree)
  | [] => []
  | (k', t') :: es => if k' = k then (k, t) :: es else (k', t') :: replace k t es

/-- Defines a table that a header names: a table is defined once, and not as a list. -/
def define (s : Section) : Tree → Tree
  | .table false false entries =>
      if s.isElement then .table false true entries
      else
        let (entries, clashes) := addPairs entries s.pairs
        .table true clashes entries
  | .table defined _ entries => .table defined true entries
  | t => t

/-- Puts a section into a tree along the rest of its path. -/
def insert (s : Section) : List String → Tree → Tree
  | [], .tables reversed =>
      if s.isElement then .tables (ofPairs s.pairs :: reversed)
      else
        match reversed with
        | last :: before => .tables (define s last :: before)
        | [] => .tables []
  | [], t => define s t
  | k :: rest, .table defined clashes entries =>
      match entries.lookup k with
      -- The value of a pair cannot be extended by a header.
      | some (.value _) => .table defined true entries
      | some t => .table defined clashes (replace k (insert s rest t) entries)
      | none =>
          -- Nothing that comes after a clash is ever read.
          if clashes then .table defined clashes entries
          else
            let fresh : Tree :=
              if rest.isEmpty && s.isElement then .tables [ofPairs s.pairs]
              else insert s rest (.table false false [])
            .table defined clashes (entries ++ [(k, fresh)])
  | k :: rest, .tables (last :: before) => .tables (insert s (k :: rest) last :: before)
  | _, t => t

/-- The tree of a list of sections. -/
def ofSections (sections : List Section) : Tree :=
  sections.foldl (fun t s => insert s s.path t) (.table false false [])

mutual

def toDocument : Tree → Document
  | .value d => d
  | .table _ clashes entries =>
      .headed
        (if clashes then .clashing (entryDocuments entries) else .table (entryDocuments entries))
  | .tables reversed => .headed (.list (elementDocuments reversed).reverse)

def elementDocuments : List Tree → List Document
  | [] => []
  | t :: ts => t.toDocument :: elementDocuments ts

def entryDocuments : List (String × Tree) → List Document.Entry
  | [] => []
  | (k, t) :: es => (k, t.toDocument) :: entryDocuments es

end

end Tree

/-- The document that a text denotes, unless it breaks the grammar. -/
def parse? (text : String) : Option Document :=
  (sections text).map fun s => (Tree.ofSections s).toDocument

end RelyingParty.Toml
