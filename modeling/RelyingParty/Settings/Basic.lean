import RelyingParty.Binding
import RelyingParty.Usage

/-!
# Settings

What a settings file says, before any of it is checked or resolved: registrations with their
credential entries, each entry naming where its certificate and private key come from, and the
level of logging.
-/

namespace RelyingParty

/-- One credential entry. The certificate is given inline or by the path of a file; the private
key also by the name of an environment variable. -/
structure CredentialSettings where
  certificate : Option String := none
  privateKey : Option String := none
  certificatePath : Option String := none
  privateKeyPath : Option String := none
  privateKeyEnv : Option String := none
  usages : List Usage := []
deriving DecidableEq, Repr

structure AssertingPartySettings where
  entityId : Option String := none
  /-- Absent means that requests are to be signed. -/
  wantsAuthnRequestsSigned : Option Bool := none
  verificationCredentials : List CredentialSettings := []
  encryptionCredentials : List CredentialSettings := []
  singleSignOnServiceLocation : Option String := none
  /-- Absent means the redirect binding. -/
  singleSignOnServiceBinding : Option Binding := none
deriving DecidableEq, Repr

structure RelyingPartySettings where
  registrationId : String
  /-- Absent means the default template. -/
  entityId : Option String := none
  assertionConsumerServiceLocation : Option String := none
  signingCredentials : List CredentialSettings := []
  decryptionCredentials : List CredentialSettings := []
  /-- The flat list, sorted by usage when the registration is built. -/
  credentials : List CredentialSettings := []
  assertingParty : AssertingPartySettings := {}
deriving DecidableEq, Repr

structure LoggingSettings where
  level : String := "info"
deriving DecidableEq, Repr

structure Settings where
  logging : LoggingSettings := {}
  registrations : List RelyingPartySettings := []
deriving DecidableEq, Repr

namespace Settings

/-- The first registration with an id. -/
def registration? (s : Settings) (id : String) : Option RelyingPartySettings :=
  s.registrations.find? fun r => r.registrationId = id

end Settings

end RelyingParty
