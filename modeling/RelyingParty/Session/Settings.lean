import RelyingParty.Description
import RelyingParty.Settings.Loading
import RelyingParty.Settings.Writer
import RelyingParty.Summary

/-!
# Questions to loaded settings

What a caller can ask of settings once they are loaded, as data. Every answer comes with the
events on the way to it; only applying the environment changes the settings.
-/

namespace RelyingParty

/-- What the sources of one credential entry give. -/
structure CredentialSettings.Material where
  certificate : Except SettingsError (Option String)
  privateKey : Except SettingsError (Option String)

def CredentialSettings.material (w : World) (c : CredentialSettings) : Material :=
  ⟨c.resolveCertificate w, c.resolvePrivateKey w⟩

/-- The material of all credential entries of a registration. -/
structure RelyingPartySettings.Materials where
  signing : List CredentialSettings.Material
  decryption : List CredentialSettings.Material
  flat : List CredentialSettings.Material
  verification : List CredentialSettings.Material
  encryption : List CredentialSettings.Material

def RelyingPartySettings.materials (w : World) (s : RelyingPartySettings) : Materials where
  signing := s.signingCredentials.map (·.material w)
  decryption := s.decryptionCredentials.map (·.material w)
  flat := s.credentials.map (·.material w)
  verification := s.assertingParty.verificationCredentials.map (·.material w)
  encryption := s.assertingParty.encryptionCredentials.map (·.material w)

namespace Settings

inductive Question where
  | document
  | registration (id : String)
  | build (id : String)
  /-- The builder of a registration, described on one line. -/
  | builder (id : String)
  | materials (id : String)
  | buildAll
  | summaries
  /-- Applies what the environment overrides and reports the level of logging. -/
  | applyEnvironment

inductive Answer where
  /-- No registration has the id. -/
  | absent
  | document (value : Document)
  | registration (value : RelyingPartySettings)
  | built (value : Registration)
  | text (value : String)
  | materials (value : RelyingPartySettings.Materials)
  | allBuilt (value : List Registration)
  | summaries (value : List RegistrationSummary)
  | failed (error : SettingsError)

open Log (Traced)

/-- The answer for the registration with an id. -/
def forRegistration (s : Settings) (id : String) (f : RelyingPartySettings → Traced Answer) :
    Traced Answer :=
  match s.registration? id with
  | some r => f r
  | none => pure .absent

/-- A result or its failure as an answer. -/
def Answer.ofResult {α : Type} (f : α → Answer) : Except SettingsError α → Answer
  | .ok a => f a
  | .error e => .failed e

/-- The answer to a question, and the settings after it. -/
def ask (w : World) (s : Settings) : Question → Traced Answer × Settings
  | .document => (pure (.document s.toDocument), s)
  | .registration id => (s.forRegistration id fun r => pure (.registration r), s)
  | .build id =>
      (s.forRegistration id fun r => do pure (.ofResult .built (← r.build w)), s)
  | .builder id =>
      (s.forRegistration id fun r => pure (.ofResult (.text ·.describe) (r.toBuilder w)), s)
  | .materials id => (s.forRegistration id fun r => pure (.materials (r.materials w)), s)
  | .buildAll => (do pure (.ofResult .allBuilt (← s.buildRegistrations w)), s)
  | .summaries =>
      (do pure (.ofResult (fun rs => .summaries (rs.map Registration.summary))
            (← s.buildRegistrations w)), s)
  | .applyEnvironment =>
      let s := s.applyEnvironment w
      (pure (.text s.logging.level), s)

/-- The answers to a list of questions. -/
def askAll (w : World) (s : Settings) : List Question → List (Traced Answer)
  | [] => []
  | q :: qs => (s.ask w q).1 :: askAll w (s.ask w q).2 qs

end Settings

end RelyingParty
