/-!
# The world a settings file refers to

Settings name files and environment variables. All that this library asks of the world is which
text a path leads to, whether a path leads anywhere, and the value of a variable; a world is
these three answers, so a computation over a world is a function like any other.
-/

namespace RelyingParty

/-- Why a file could not be read as text. -/
inductive ReadFailure where
  | notFound
  /-- A path that goes on after a file. -/
  | notADirectory
  | isADirectory
  | nameTooLong
  | notText
  /-- The path holds U+0000. -/
  | nullInPath
  /-- Any other failure, in the words of the operating system. -/
  | other (message : String)
deriving DecidableEq, Repr

def ReadFailure.message : ReadFailure → String
  | notFound => "No such file or directory (os error 2)"
  | notADirectory => "Not a directory (os error 20)"
  | isADirectory => "Is a directory (os error 21)"
  | nameTooLong => "File name too long (os error 36)"
  | notText => "stream did not contain valid UTF-8"
  | nullInPath => "file name contained an unexpected NUL byte"
  | other message => message

/-- The value of an environment variable. -/
inductive Variable where
  | unset
  | text (value : String)
  /-- Set to bytes that are no UTF-8 text. -/
  | notText
deriving DecidableEq, Repr

/-- The variable that is set to these bytes. -/
def Variable.ofBytes (bytes : ByteArray) : Variable :=
  match String.fromUTF8? bytes with
  | some value => text value
  | none => notText

/-- A variable's text, if it has one. -/
def Variable.text? : Variable → Option String
  | text value => some value
  | unset | notText => none

structure World where
  /-- The text of the file at a path. -/
  read : String → Except ReadFailure String
  /-- Whether a path leads to anything. -/
  hasPath : String → Bool
  environment : String → Variable

/-- The text of a variable, if it is set to one. -/
def World.variableText? (w : World) (name : String) : Option String := (w.environment name).text?

/-- The path of a file in a directory; the empty path is the working directory. -/
def joinPath (directory name : String) : String :=
  if directory.isEmpty || directory.endsWith "/" then directory ++ name
  else directory ++ "/" ++ name

end RelyingParty
