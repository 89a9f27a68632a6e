import RelyingParty.AssertingParty.Basic
import RelyingParty.Credential.Set
import RelyingParty.Requirement

/-!
# Building an asserting party

A builder collects values, the last write of a field winning, and `build` checks what has been
collected. Building reads the builder and leaves it as it is, so a failed build can be corrected
and tried again.
-/

namespace RelyingParty.AssertingParty

structure Builder where
  entityId : Option String := none
  wantsAuthnRequestsSigned : Bool := true
  verificationCredentials : CredentialSet := .empty
  encryptionCredentials : CredentialSet := .empty
  singleSignOnServiceLocation : Option String := none
  singleSignOnServiceBinding : Binding := .redirect
deriving DecidableEq

namespace Builder

instance : Inhabited Builder := ⟨{}⟩

def setEntityId (b : Builder) (v : String) : Builder := { b with entityId := some v }

def setWantsAuthnRequestsSigned (b : Builder) (v : Bool) : Builder :=
  { b with wantsAuthnRequestsSigned := v }

def setSingleSignOnServiceLocation (b : Builder) (v : String) : Builder :=
  { b with singleSignOnServiceLocation := some v }

def setSingleSignOnServiceBinding (b : Builder) (v : Binding) : Builder :=
  { b with singleSignOnServiceBinding := v }

/-- Changes the set of verification credentials. -/
def modifyVerification (b : Builder) (f : CredentialSet → CredentialSet) : Builder :=
  { b with verificationCredentials := f b.verificationCredentials }

/-- Changes the set of encryption credentials. -/
def modifyEncryption (b : Builder) (f : CredentialSet → CredentialSet) : Builder :=
  { b with encryptionCredentials := f b.encryptionCredentials }

/-- Older name of `setSingleSignOnServiceLocation`. -/
def setWebSsoUrl (b : Builder) (v : String) : Builder := b.setSingleSignOnServiceLocation v

/-- Older name of `setWantsAuthnRequestsSigned`. -/
def setSignAuthnRequest (b : Builder) (v : Bool) : Builder := b.setWantsAuthnRequestsSigned v

/-- Older name of `setSingleSignOnServiceBinding`. -/
def setBinding (b : Builder) (v : Binding) : Builder := b.setSingleSignOnServiceBinding v

/-- The party the builder describes, or the first of its defects: the entity id, the usages of
the verification credentials, those of the encryption credentials, the location. -/
def build (b : Builder) : Except ConfigurationError AssertingParty := do
  let entityId ← requireText b.entityId "entityId"
  requireUsage b.verificationCredentials.members "verificationX509Credentials" .verification
  requireUsage b.encryptionCredentials.members "encryptionX509Credentials" .encryption
  let location ← requireText b.singleSignOnServiceLocation "singleSignOnServiceLocation"
  return {
    entityId
    wantsAuthnRequestsSigned := b.wantsAuthnRequestsSigned
    verificationCredentials := b.verificationCredentials.members
    encryptionCredentials := b.encryptionCredentials.members
    singleSignOnServiceLocation := location
    singleSignOnServiceBinding := b.singleSignOnServiceBinding }

end Builder

/-- A builder that holds every value of a party. -/
def toBuilder (p : AssertingParty) : Builder :=
  ({} : Builder)
    |>.setEntityId p.entityId
    |>.setWantsAuthnRequestsSigned p.wantsAuthnRequestsSigned
    |>.modifyVerification (·.extend p.verificationCredentials)
    |>.modifyEncryption (·.extend p.encryptionCredentials)
    |>.setSingleSignOnServiceLocation p.singleSignOnServiceLocation
    |>.setSingleSignOnServiceBinding p.singleSignOnServiceBinding

end RelyingParty.AssertingParty
