import RelyingParty.Text.Lines
import RelyingParty.World.Tree

/-!
# A world given by what was observed

The command looks at the real world before it computes anything: it reads the files and variables
that can matter and keeps what it saw. The computation then runs on the world of that snapshot.
-/

namespace RelyingParty

/-- The value of a variable in an environment block. An entry of the block is a name, an equals
sign and the value, closed by a zero byte, and the first entry of a name counts. -/
def variableInBlock (block : List UInt8) (name : String) : Variable :=
  let start := (name ++ "=").toUTF8.data.toList
  match (Text.pieces 0 block).find? start.isPrefixOf with
  | some entry => Variable.ofBytes ⟨(entry.drop start.length).toArray⟩
  | none => .unset

/-- What reading some paths and variables gave. -/
structure Snapshot where
  files : List (String × Except ReadFailure String) := []
  environment : List (String × Variable) := []

/-- Whether a path with this failure leads nowhere. -/
def ReadFailure.isAbsence : ReadFailure → Bool
  | notFound | notADirectory | nameTooLong | nullInPath => true
  | isADirectory | notText | other _ => false

namespace Snapshot

def read (s : Snapshot) (path : String) : Except ReadFailure String :=
  (s.files.lookup path).getD (.error .notFound)

/-- A path that was not looked at leads nowhere. -/
def hasPath (s : Snapshot) (path : String) : Bool :=
  match s.read path with
  | .ok _ => true
  | .error failure => !failure.isAbsence

def toWorld (s : Snapshot) : World where
  read := s.read
  hasPath := s.hasPath
  environment name :=
    if isImpossibleName name then .unset else (s.environment.lookup name).getD .unset

end Snapshot

end RelyingParty
