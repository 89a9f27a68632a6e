import RelyingParty.Log.Filter
import RelyingParty.Settings.Loading
import RelyingParty.Summary
import RelyingParty.Json.Printer

/-!
# The validation command

The command loads the settings, builds every registration and reports a summary of each, or
fails with the reason and reports none. What it writes is a function of the world: the texts on
standard output and standard error and the exit status.

Log records pass two gates. The filter is fixed at the start, from the environment. The threshold
moves once, when the configured level becomes known.
-/

namespace RelyingParty.CommandLine

open Log (Event Filter Threshold)

def version : String := "0.4.0"

structure Outcome where
  exitStatus : Nat
  output : String
  /-- The text on standard error. -/
  diagnostics : String
deriving DecidableEq, Repr

/-- How log records are let through. -/
structure Gate where
  filter : Filter
  threshold : Threshold

namespace Gate

def admits (g : Gate) (e : Event) : Bool := g.threshold.admits e.level && g.filter.admits e

/-- The gate after a level was configured. -/
def apply (g : Gate) (level : String) : Gate := { g with threshold := g.threshold.apply level }

/-- The gate while settings are loaded, with complaints about the environment. Without a level
there, everything passes the filter and the threshold is the default level; a variable that is
no text counts as one that admits everything. -/
def start (w : World) : Gate × List String :=
  match w.environment Settings.levelVariable with
  | .unset => (⟨.all, (Filter.all.threshold).apply ({} : LoggingSettings).level⟩, [])
  | .notText => (⟨.all, Filter.all.threshold⟩, [])
  | .text text =>
      let (filter, warnings) := Filter.ofText text
      (⟨filter, filter.threshold⟩, warnings)

end Gate

/-- A level name filled up to five characters. -/
def paddedName (l : Log.Level) : String :=
  l.name ++ String.ofList (List.replicate (5 - l.name.length) ' ')

/-- A text on a line of its own, its second and all further lines indented. -/
def indented (indent : String) (text : String) : String :=
  ("\n" ++ indent).intercalate (text.splitOn "\n") ++ "\n"

/-- A record as it is written. -/
def recordText (e : Event) : String :=
  indented "    " ("[" ++ paddedName e.level ++ " " ++ e.target ++ "] " ++ e.message)

/-- The records that pass a gate. -/
def logText (g : Gate) (events : List Event) : String :=
  String.join ((events.filter g.admits).map recordText)

/-- The report of a failure: what was being done, then the error and what it goes back to,
numbered. -/
def failureText (context : String) (e : SettingsError) : String :=
  "Error: " ++ context ++ "\n\nCaused by:\n"
    ++ indented "       " ("    0: " ++ e.message)
    ++ indented "       " ("    1: " ++ e.cause)

/-- The report of one registration. -/
def report (r : Registration) : String := Json.pretty r.summary.toDocument ++ "\n"

/-- The line that ends a successful run. -/
def closingLine (count : Nat) : String := "✓ " ++ toString count ++ " registration(s) valid\n"

def run (w : World) : Outcome :=
  let (gate, warnings) := Gate.start w
  let loaded := Settings.load w
  let before := String.join (warnings.map (· ++ "\n")) ++ logText gate loaded.events
  match loaded.value with
  | .error e => ⟨1, "", before ++ failureText "Failed to load settings" e⟩
  | .ok settings =>
      -- From here on the configured level counts.
      let gate := gate.apply settings.logging.level
      let built := settings.buildRegistrations w
      let log := before
        ++ logText gate (.validating version settings.registrations.length :: built.events)
      match built.value with
      | .error e => ⟨1, "", log ++ failureText "Invalid registration configuration" e⟩
      | .ok registrations =>
          ⟨0, String.join (registrations.map report) ++ closingLine registrations.length, log⟩

end RelyingParty.CommandLine
