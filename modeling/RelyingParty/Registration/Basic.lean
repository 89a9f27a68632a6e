import RelyingParty.AssertingParty.Basic

/-!
# Registrations

A registration binds one relying party to one asserting party, under an id of its own. Each
party's credentials are kept by usage. A value of this type comes from
`Registration.Builder.build`, which checks it.
-/

namespace RelyingParty

structure Registration where
  registrationId : String
  /-- The relying party's own entity id, possibly with placeholders. -/
  entityId : String
  assertionConsumerServiceLocation : String
  /-- Every credential of both parties once: signing, decryption, verification, encryption. -/
  credentials : List Credential
  /-- Keys the relying party signs with. -/
  signingCredentials : List Credential
  /-- Keys the relying party decrypts with. -/
  decryptionCredentials : List Credential
  assertingParty : AssertingParty
deriving DecidableEq

namespace Registration

/-- The relying party's entity id when none is configured. -/
def defaultEntityIdTemplate : String :=
  "\x7bbaseUrl\x7d/saml2/service-provider-metadata/\x7bregistrationId\x7d"

/-- Older name of the asserting party's entity id. -/
def remoteIdpEntityId (r : Registration) : String := r.assertingParty.entityId

/-- Older name of `assertionConsumerServiceLocation`. -/
def assertionConsumerServiceUrlTemplate (r : Registration) : String :=
  r.assertionConsumerServiceLocation

/-- Older name of the asserting party's location. -/
def idpWebSsoUrl (r : Registration) : String := r.assertingParty.singleSignOnServiceLocation

/-- Older name of `entityId`. -/
def localEntityIdTemplate (r : Registration) : String := r.entityId

/-- Older name of the asserting party's verification credentials. -/
def verificationCredentials (r : Registration) : List Credential :=
  r.assertingParty.verificationCredentials

/-- Older name of the asserting party's encryption credentials. -/
def encryptionCredentials (r : Registration) : List Credential :=
  r.assertingParty.encryptionCredentials

end Registration

end RelyingParty
