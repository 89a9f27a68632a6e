import RelyingParty.Document
import RelyingParty.Registration.Basic

/-!
# Summaries

A registration without secrets, for reports: everything but the key material, each certificate
by its fingerprint. A summary is a type of its own, so that what a report can show is visible in
that type, and its document lists the fields in the order of a report.
-/

namespace RelyingParty

structure CredentialSummary where
  fingerprint : String
  usages : List Usage
deriving DecidableEq, Repr

structure AssertingPartySummary where
  entityId : String
  wantsAuthnRequestsSigned : Bool
  singleSignOnServiceLocation : String
  singleSignOnServiceBinding : Binding
  verificationCredentials : List CredentialSummary
  encryptionCredentials : List CredentialSummary
deriving DecidableEq, Repr

structure RegistrationSummary where
  registrationId : String
  entityId : String
  assertionConsumerServiceLocation : String
  signingCredentials : List CredentialSummary
  decryptionCredentials : List CredentialSummary
  assertingParty : AssertingPartySummary
deriving DecidableEq, Repr

def Credential.summary (c : Credential) : CredentialSummary :=
  ⟨c.fingerprint, c.usages.toList⟩

def AssertingParty.summary (p : AssertingParty) : AssertingPartySummary where
  entityId := p.entityId
  wantsAuthnRequestsSigned := p.wantsAuthnRequestsSigned
  singleSignOnServiceLocation := p.singleSignOnServiceLocation
  singleSignOnServiceBinding := p.singleSignOnServiceBinding
  verificationCredentials := p.verificationCredentials.map Credential.summary
  encryptionCredentials := p.encryptionCredentials.map Credential.summary

def Registration.summary (r : Registration) : RegistrationSummary where
  registrationId := r.registrationId
  entityId := r.entityId
  assertionConsumerServiceLocation := r.assertionConsumerServiceLocation
  signingCredentials := r.signingCredentials.map Credential.summary
  decryptionCredentials := r.decryptionCredentials.map Credential.summary
  assertingParty := r.assertingParty.summary

def CredentialSummary.toDocument (s : CredentialSummary) : Document :=
  .table
    [("fingerprint", .text s.fingerprint),
     ("usages", .list (s.usages.map fun u => .text u.name))]

def AssertingPartySummary.toDocument (s : AssertingPartySummary) : Document :=
  .table
    [("entity_id", .text s.entityId),
     ("wants_authn_requests_signed", .bool s.wantsAuthnRequestsSigned),
     ("single_sign_on_service_location", .text s.singleSignOnServiceLocation),
     ("single_sign_on_service_binding", .text s.singleSignOnServiceBinding.name),
     ("verification_credentials",
       .list (s.verificationCredentials.map CredentialSummary.toDocument)),
     ("encryption_credentials",
       .list (s.encryptionCredentials.map CredentialSummary.toDocument))]

def RegistrationSummary.toDocument (s : RegistrationSummary) : Document :=
  .table
    [("registration_id", .text s.registrationId),
     ("entity_id", .text s.entityId),
     ("assertion_consumer_service_location", .text s.assertionConsumerServiceLocation),
     ("signing_credentials", .list (s.signingCredentials.map CredentialSummary.toDocument)),
     ("decryption_credentials", .list (s.decryptionCredentials.map CredentialSummary.toDocument)),
     ("asserting_party", s.assertingParty.toDocument)]

end RelyingParty
