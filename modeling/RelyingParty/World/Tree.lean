import RelyingParty.World.Basic

/-!
# A world given by a tree of files

Paths are resolved step by step from the working directory. A step through something that is not
a directory fails, and so does a step to a name that is not there or is too long; a slash at the
end counts as one more step that stays where it is. Nothing but its ancestors is known outside
the working directory.
-/

namespace RelyingParty

inductive Node where
  | file (content : ByteArray)
  | directory

/-- Nodes by their path from the working directory, with the directories on the way to them. Of
two nodes at one path the first counts. -/
structure FileTree where
  nodes : List (List String × Node)

/-- The parts of a path between slashes. -/
def pathParts (path : String) : List String :=
  (path.splitOn "/").filter fun part => !part.isEmpty

namespace FileTree

/-- Where one part of a path leads from a path below the working directory, kept in reverse. A
tree holds nothing above that directory, so a step back from it stays there. -/
def follow (reversed : List String) : String → List String
  | "." => reversed
  | ".." => reversed.tail
  | name => name :: reversed

/-- What a tree holds for a node at the end of these parts: every directory that they pass, which
is there even if the path leaves it again, and then the node. -/
def entries (node : Node) (reversed : List String) : List String → List (List String × Node)
  | [] => [(reversed.reverse, node)]
  | part :: rest => (reversed.reverse, .directory) :: entries node (follow reversed part) rest

/-- A tree from nodes by relative path, in the order in which they are put there: a later node
takes the place of an earlier one. -/
def ofPaths (nodes : List (String × Node)) : FileTree :=
  ⟨(nodes.flatMap fun n => entries n.2 [] (pathParts n.1)).reverse⟩

/-- What is at a path from the working directory, which is itself always there. -/
def node? (t : FileTree) (path : List String) : Option Node :=
  match t.nodes.lookup path with
  | some node => some node
  | none => if path.isEmpty then some .directory else none

/-- Where a walk has got to: a path below the working directory, kept in reverse, or one of the
directories that the working directory is in. -/
inductive Place where
  | inside (reversed : List String)
  | above

def nodeAt? (t : FileTree) : Place → Option Node
  | .inside reversed => t.node? reversed.reverse
  | .above => some .directory

/-- The longest name a directory can hold, in bytes. -/
def maxName : Nat := 255

/-- The length from which on a path is refused, in bytes. -/
def maxPath : Nat := 4096

/-- One step of a walk. -/
def step (t : FileTree) (place : Place) (part : String) : Except ReadFailure Place :=
  match t.nodeAt? place with
  | some (.file _) => .error .notADirectory
  | _ =>
      if part = "." then .ok place
      else if part = ".." then
        match place with
        | .inside (_ :: up) => .ok (.inside up)
        | _ => .ok .above
      else if maxName < part.utf8ByteSize then .error .nameTooLong
      else
        match place with
        | .above => .error .notFound
        | .inside reversed =>
            if (t.node? (part :: reversed).reverse).isSome then .ok (.inside (part :: reversed))
            else .error .notFound

/-- The steps of a path, with one that stays in place for a slash at its end. -/
def steps (path : String) : List String :=
  pathParts path ++ (if path.endsWith "/" then ["."] else [])

/-- What a path leads to. -/
def resolve (t : FileTree) (path : String) : Except ReadFailure Node := do
  if path.toList.contains '\x00' then throw .nullInPath
  if path.isEmpty then throw .notFound
  if maxPath ≤ path.utf8ByteSize then throw .nameTooLong
  let start : Place := if path.startsWith "/" then .above else .inside []
  let place ← (steps path).foldlM t.step start
  match t.nodeAt? place with
  | some node => return node
  | none => throw .notFound

def read (t : FileTree) (path : String) : Except ReadFailure String := do
  match ← t.resolve path with
  | .directory => throw .isADirectory
  | .file content =>
      match String.fromUTF8? content with
      | some text => return text
      | none => throw .notText

end FileTree

/-- A name that no variable can have: empty, or with a character that ends or splits names. -/
def isImpossibleName (name : String) : Bool :=
  name.isEmpty || name.toList.contains '=' || name.toList.contains '\x00'

/-- The world of a file tree and a table of variables. -/
def World.ofTree (files : FileTree) (environment : List (String × Variable)) : World where
  read := files.read
  hasPath path := (files.resolve path).isOk
  environment name :=
    if isImpossibleName name then .unset else (environment.lookup name).getD .unset

end RelyingParty
