import RelyingParty.CommandLine
import RelyingParty.Settings.Sources
import RelyingParty.World.Snapshot

/-!
# The command

Looks at the settings files, then at the files and variables that the settings name, and writes
what `CommandLine.run` makes of it.
-/

namespace RelyingParty

/-- The failure in the terms of a world. -/
def readFailure (e : IO.Error) : ReadFailure :=
  let described (code : UInt32) (details : String) : ReadFailure :=
    if code = 2 then .notFound
    else if code = 20 then .notADirectory
    else if code = 21 then .isADirectory
    else if code = 36 then .nameTooLong
    else .other (details ++ " (os error " ++ toString code ++ ")")
  match e with
  | .noFileOrDirectory .. => .notFound
  | .inappropriateType _ code details => described code details
  | .permissionDenied _ code details => described code details
  | .invalidArgument _ code details => described code details
  | .resourceExhausted _ code details => described code details
  | .otherError code details => described code details
  | e => .other (toString e)

def readPath (path : String) : IO (Except ReadFailure String) := do
  if path.toList.contains '\x00' then return .error .nullInPath
  if path.isEmpty then return .error .notFound
  try
    let bytes ← IO.FS.readBinFile path
    match String.fromUTF8? bytes with
    | some text => return .ok text
    | none => return .error .notText
  catch e => return .error (readFailure e)

/-- The file in which the system shows the environment of this process. -/
def environmentFile : String := "/proc/self/environ"

/-- The value of a variable, with its exact bytes where the system shows them. -/
def readVariable (name : String) : IO Variable := do
  if isImpossibleName name then return .unset
  try
    return variableInBlock (← IO.FS.readBinFile environmentFile).data.toList name
  catch _ =>
    match ← IO.getEnv name with
    | some value => return .text value
    | none => return .unset

/-- A snapshot that also holds these paths and variables. -/
def Snapshot.extend (s : Snapshot) (paths names : List String) : IO Snapshot := do
  let files ← paths.mapM fun p => do return (p, ← readPath p)
  let values ← names.mapM fun n => do return (n, ← readVariable n)
  return ⟨s.files ++ files, s.environment ++ values⟩

/-- A snapshot of all that a run can look at. -/
def observe : IO Snapshot := do
  let s ← Snapshot.extend {} [] [Settings.levelVariable, Settings.directoryVariable]
  let directory := s.toWorld.variableText? Settings.directoryVariable
  let s ← s.extend (Settings.filePaths directory) []
  match (Settings.load s.toWorld).value with
  | .ok settings => s.extend settings.paths settings.variableNames
  | .error _ => return s

end RelyingParty

open RelyingParty in
def main : IO UInt32 := do
  let outcome := CommandLine.run (← observe).toWorld
  IO.eprint outcome.diagnostics
  IO.print outcome.output
  return UInt32.ofNat outcome.exitStatus
