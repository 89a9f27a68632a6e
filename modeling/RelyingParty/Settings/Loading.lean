import RelyingParty.Json.Parser
import RelyingParty.Settings.Reader
import RelyingParty.Settings.Resolution
import RelyingParty.Toml.Tree

/-!
# Loading settings

Settings come from a file in the working directory, which a file in another directory replaces
as a whole, and the environment has the last word on the level of logging. A file that is there
but cannot be read or understood stops the loading.
-/

namespace RelyingParty.Settings

open Log (Traced)

def fileName : String := "Settings.toml"

/-- The variable that names the directory of a settings file with precedence. -/
def directoryVariable : String := "SAML_SETTINGS_DIR"

/-- The variable that sets the level of logging. -/
def levelVariable : String := "RUST_LOG"

/-- The settings that a TOML text describes. -/
def ofToml (text : String) : Except SettingsError Settings :=
  match Toml.parse? text with
  | none => .error (.parse .malformed)
  | some d => (reader .toml d).mapError .parse

/-- The settings that a JSON text describes. -/
def ofJson (text : String) : Except Document.Fault Settings :=
  match Json.parse? text with
  | none => .error .malformed
  | some d => reader .json d

/-- Reads one settings file. -/
def loadFrom (w : World) (path : String) : Traced (Except SettingsError Settings) :=
  match w.readFile path >>= ofToml with
  | .ok s => ⟨.ok s, [.settingsLoaded path]⟩
  | .error e => pure (.error e)

/-- The settings with what the environment overrides. -/
def applyEnvironment (w : World) (s : Settings) : Settings :=
  match w.variableText? levelVariable with
  | some level => { s with logging := { s.logging with level } }
  | none => s

/-- The settings of the working directory, or the default ones. -/
def loadBase (w : World) : Traced (Except SettingsError Settings) :=
  if w.hasPath fileName then loadFrom w fileName else pure (.ok {})

/-- The settings of the directory with precedence, if it is named and has any. -/
def loadOverride (w : World) (base : Settings) : Traced (Except SettingsError Settings) :=
  match w.variableText? directoryVariable with
  | none => pure (.ok base)
  | some directory =>
      let path := joinPath directory fileName
      if w.hasPath path then loadFrom w path else ⟨.ok base, [.settingsFileAbsent path]⟩

def load (w : World) : Traced (Except SettingsError Settings) := do
  match ← loadBase w with
  | .error e => pure (.error e)
  | .ok base =>
      let s ← loadOverride w base
      pure (s.map (applyEnvironment w))

end RelyingParty.Settings
