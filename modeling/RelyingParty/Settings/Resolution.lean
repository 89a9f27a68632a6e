import RelyingParty.Document.Reader
import RelyingParty.Registration.Builder
import RelyingParty.Settings.Basic
import RelyingParty.World.Basic

/-!
# From settings to registrations

Each credential entry is resolved against the world and checked, the builder of the registration
is filled, and the registration is built. The first entry that does not resolve decides the
outcome, before anything else is checked.
-/

namespace RelyingParty

inductive SettingsError where
  | io (path : String) (failure : ReadFailure)
  /-- The text of the settings denotes no settings. -/
  | parse (fault : Document.Fault)
  | configuration (registrationId : String) (source : ConfigurationError)
deriving DecidableEq, Repr

namespace SettingsError

/-- What the error goes back to. -/
def cause : SettingsError → String
  | io _ failure => failure.message
  | parse fault => fault.message.getD "<toml>"
  | configuration _ source => source.message

def message : SettingsError → String
  | io path failure => "failed to read " ++ path ++ ": " ++ failure.message
  | parse fault => "failed to parse settings: " ++ fault.message.getD "<toml>"
  | configuration id source => "invalid registration " ++ Text.quote id ++ ": " ++ source.message

end SettingsError

/-- The text of a file. -/
def World.readFile (w : World) (path : String) : Except SettingsError String :=
  (w.read path).mapError (.io path)

/-- An inline value, or else the text of a file, if either is given. -/
def World.material (w : World) (inline path : Option String) :
    Except SettingsError (Option String) :=
  match inline, path with
  | some value, _ => .ok (some value)
  | none, some path => (w.readFile path).map some
  | none, none => .ok none

namespace CredentialSettings

def resolveCertificate (w : World) (c : CredentialSettings) :
    Except SettingsError (Option String) :=
  w.material c.certificate c.certificatePath

/-- The private key: a variable that is set wins over the inline value and the file. -/
def resolvePrivateKey (w : World) (c : CredentialSettings) :
    Except SettingsError (Option String) :=
  match c.privateKeyEnv.bind w.variableText? with
  | some value => .ok (some value)
  | none => w.material c.privateKey c.privateKeyPath

/-- The credential of an entry in the collection `field` of the registration `id`. Without a
certificate the private key is not looked for. -/
def resolve (w : World) (id field : String) (c : CredentialSettings) :
    Except SettingsError Credential := do
  match ← c.resolveCertificate w with
  | none => throw (.configuration id (.nullElement field))
  | some certificate =>
      let credential : Except ConfigurationError Credential :=
        match ← c.resolvePrivateKey w with
        | some privateKey => Credential.withPrivateKey privateKey certificate c.usages
        | none => Credential.certificateOnly certificate c.usages
      credential.mapError (.configuration id)

/-- The credentials of a list of entries, or the failure of the first that does not resolve. -/
def resolveAll (w : World) (id field : String) :
    List CredentialSettings → Except SettingsError (List Credential)
  | [] => .ok []
  | c :: cs => do
      let credential ← c.resolve w id field
      let credentials ← resolveAll w id field cs
      return credential :: credentials

end CredentialSettings

/-- The value if there is one, applied to the builder. -/
def applySome {α β : Type} (value : Option α) (set : β → α → β) (b : β) : β :=
  match value with
  | some v => set b v
  | none => b

namespace AssertingPartySettings

/-- The builder with the credentials given and the values that are present. -/
def fill (p : AssertingPartySettings) (verification encryption : List Credential) :
    AssertingParty.Builder :=
  ({} : AssertingParty.Builder)
    |>.modifyVerification (·.extend verification)
    |>.modifyEncryption (·.extend encryption)
    |> applySome p.entityId .setEntityId
    |> applySome p.wantsAuthnRequestsSigned .setWantsAuthnRequestsSigned
    |> applySome p.singleSignOnServiceLocation .setSingleSignOnServiceLocation
    |> applySome p.singleSignOnServiceBinding .setSingleSignOnServiceBinding

def toBuilder (w : World) (id : String) (p : AssertingPartySettings) :
    Except SettingsError AssertingParty.Builder := do
  let verification ← CredentialSettings.resolveAll w id "verificationX509Credentials"
    p.verificationCredentials
  let encryption ← CredentialSettings.resolveAll w id "encryptionX509Credentials"
    p.encryptionCredentials
  return p.fill verification encryption

end AssertingPartySettings

namespace RelyingPartySettings

/-- The builder with the credentials and asserting party given and the values that are
present. -/
def fill (s : RelyingPartySettings) (signing decryption flat : List Credential)
    (party : AssertingParty.Builder) : Registration.Builder :=
  Registration.Builder.ofId s.registrationId
    |>.modifySigning (·.extend signing)
    |>.modifyDecryption (·.extend decryption)
    |>.modifyAssertingParty (fun _ => party)
    |>.modifyCredentials (·.extend flat)
    |> applySome s.entityId .setEntityId
    |> applySome s.assertionConsumerServiceLocation .setAssertionConsumerServiceLocation

/-- The builder these settings describe, with every credential entry resolved. -/
def toBuilder (w : World) (s : RelyingPartySettings) :
    Except SettingsError Registration.Builder := do
  let signing ← CredentialSettings.resolveAll w s.registrationId "signingX509Credentials"
    s.signingCredentials
  let decryption ← CredentialSettings.resolveAll w s.registrationId "decryptionX509Credentials"
    s.decryptionCredentials
  let flat ← CredentialSettings.resolveAll w s.registrationId "credentials" s.credentials
  let party ← s.assertingParty.toBuilder w s.registrationId
  return s.fill signing decryption flat party

open Log (Traced)

/-- The registration these settings describe. Nothing is logged unless every entry resolves. -/
def build (w : World) (s : RelyingPartySettings) : Traced (Except SettingsError Registration) :=
  match s.toBuilder w with
  | .error e => pure (.error e)
  | .ok b =>
      let outcome := b.build
      ⟨outcome.value.mapError (.configuration s.registrationId), outcome.events⟩

/-- Builds one registration after the other, up to the first that fails. -/
def buildAll (w : World) :
    List RelyingPartySettings → Traced (Except SettingsError (List Registration))
  | [] => pure (.ok [])
  | s :: rest => do
      match ← s.build w with
      | .error e => pure (.error e)
      | .ok r => do
          let others ← buildAll w rest
          pure (others.map (r :: ·))

end RelyingPartySettings

namespace Settings

/-- Every registration of the settings, or the first failure. -/
def buildRegistrations (w : World) (s : Settings) :
    Log.Traced (Except SettingsError (List Registration)) :=
  RelyingPartySettings.buildAll w s.registrations

end Settings

end RelyingParty
