import RelyingParty.AssertingParty.Builder
import RelyingParty.Credential.Selection
import RelyingParty.Log.Traced
import RelyingParty.Registration.Basic

/-!
# Building a registration

A builder holds the relying party's values, a nested builder for the asserting party, and one
flat set of credentials from the time when they were not kept by usage. Building first
reconciles the flat set: each of its credentials is appended to every set whose usage it
declares. What results is checked in a fixed order, and the outcome is logged.
-/

namespace RelyingParty.Registration

structure Builder where
  registrationId : String
  entityId : String := defaultEntityIdTemplate
  assertionConsumerServiceLocation : Option String := none
  assertingParty : AssertingParty.Builder := {}
  /-- The flat set, not yet sorted by usage. -/
  credentials : CredentialSet := .empty
  signingCredentials : CredentialSet := .empty
  decryptionCredentials : CredentialSet := .empty
deriving DecidableEq

namespace Builder

/-- A builder with nothing but an id. -/
def ofId (registrationId : String) : Builder := { registrationId }

def setRegistrationId (b : Builder) (v : String) : Builder := { b with registrationId := v }

def setEntityId (b : Builder) (v : String) : Builder := { b with entityId := v }

def setAssertionConsumerServiceLocation (b : Builder) (v : String) : Builder :=
  { b with assertionConsumerServiceLocation := some v }

/-- Changes the set of signing credentials. -/
def modifySigning (b : Builder) (f : CredentialSet → CredentialSet) : Builder :=
  { b with signingCredentials := f b.signingCredentials }

/-- Changes the set of decryption credentials. -/
def modifyDecryption (b : Builder) (f : CredentialSet → CredentialSet) : Builder :=
  { b with decryptionCredentials := f b.decryptionCredentials }

/-- Changes the flat set of credentials. -/
def modifyCredentials (b : Builder) (f : CredentialSet → CredentialSet) : Builder :=
  { b with credentials := f b.credentials }

/-- Changes the nested builder of the asserting party. -/
def modifyAssertingParty (b : Builder) (f : AssertingParty.Builder → AssertingParty.Builder) :
    Builder :=
  { b with assertingParty := f b.assertingParty }

/-- Older name of `setAssertionConsumerServiceLocation`. -/
def setAssertionConsumerServiceUrlTemplate (b : Builder) (v : String) : Builder :=
  b.setAssertionConsumerServiceLocation v

/-- Older way to set the asserting party's entity id. -/
def setRemoteIdpEntityId (b : Builder) (v : String) : Builder :=
  b.modifyAssertingParty (·.setEntityId v)

/-- Older way to set the asserting party's location. -/
def setIdpWebSsoUrl (b : Builder) (v : String) : Builder :=
  b.modifyAssertingParty (·.setSingleSignOnServiceLocation v)

/-- Older name of `setEntityId`. -/
def setLocalEntityIdTemplate (b : Builder) (v : String) : Builder := b.setEntityId v

/-- The builder with its flat set sorted into the sets by usage. Without a flat set this changes
nothing. -/
def reconciled (b : Builder) : Builder :=
  let sorted := Categorized.ofList b.credentials.members
  { b with
    credentials := .empty
    signingCredentials := b.signingCredentials.extend sorted.signing
    decryptionCredentials := b.decryptionCredentials.extend sorted.decryption
    assertingParty := b.assertingParty
      |>.modifyVerification (·.extend sorted.verification)
      |>.modifyEncryption (·.extend sorted.encryption) }

/-- The credentials of all four sets, each once, in the order of the sets. -/
def union (signing decryption : List Credential) (party : AssertingParty) : List Credential :=
  (CredentialSet.ofList (signing ++ decryption ++ party.verificationCredentials
    ++ party.encryptionCredentials)).members

/-- The registration that the sets by usage describe, or the first of its defects: those of the
asserting party, the texts of the relying party, the absence of any credential, the usages of
the signing credentials and of the decryption credentials. -/
def validate (b : Builder) : Except ConfigurationError Registration := do
  let party ← b.assertingParty.build
  let registrationId ← requireText (some b.registrationId) "registrationId"
  let entityId ← requireText (some b.entityId) "entityId"
  let location ←
    requireText b.assertionConsumerServiceLocation "assertionConsumerServiceLocation"
  let signing := b.signingCredentials.members
  let decryption := b.decryptionCredentials.members
  -- The asserting party's sets are already known to be sound here.
  let credentials := union signing decryption party
  if credentials.isEmpty then throw (.emptyCollection "credentials")
  requireUsage signing "signingX509Credentials" .signing
  requireUsage decryption "decryptionX509Credentials" .decryption
  return {
    registrationId
    entityId
    assertionConsumerServiceLocation := location
    credentials
    signingCredentials := signing
    decryptionCredentials := decryption
    assertingParty := party }

open Log (Event Traced)

/-- The record of a flat set that had to be sorted. Members are counted before they meet the
credentials already in the sets. -/
def reconciliationEvents (b : Builder) : List Event :=
  if b.credentials.isEmpty then []
  else
    let sorted := Categorized.ofList b.credentials.members
    [.flatListReconciled b.registrationId sorted.signing.length sorted.decryption.length
      sorted.verification.length sorted.encryption.length]

def fingerprints (cs : List Credential) : List String := cs.map Credential.fingerprint

/-- The records of a build's outcome: two that describe the registration, or one that rejects
the builder under the id it holds. -/
def outcomeEvents (id : String) : Except ConfigurationError Registration → List Event
  | .ok r =>
      [.registrationBuilt r.registrationId r.entityId r.assertionConsumerServiceLocation
        (fingerprints r.signingCredentials) (fingerprints r.decryptionCredentials),
       .assertingPartyBuilt r.registrationId r.assertingParty.entityId
        r.assertingParty.singleSignOnServiceLocation r.assertingParty.singleSignOnServiceBinding
        r.assertingParty.wantsAuthnRequestsSigned
        (fingerprints r.assertingParty.verificationCredentials)
        (fingerprints r.assertingParty.encryptionCredentials)]
  | .error e => [.registrationRejected id e]

/-- Reconciles, checks and logs. -/
def build (b : Builder) : Traced (Except ConfigurationError Registration) :=
  let result := b.reconciled.validate
  ⟨result, b.reconciliationEvents ++ outcomeEvents b.registrationId result⟩

end Builder

/-- A builder that holds every value of a registration, its credentials by usage. -/
def toBuilder (r : Registration) : Builder :=
  Builder.ofId r.registrationId
    |>.setEntityId r.entityId
    |>.modifySigning (·.extend r.signingCredentials)
    |>.modifyDecryption (·.extend r.decryptionCredentials)
    |>.setAssertionConsumerServiceLocation r.assertionConsumerServiceLocation
    |>.modifyAssertingParty fun _ => r.assertingParty.toBuilder

end RelyingParty.Registration
