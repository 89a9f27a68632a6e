import RelyingParty.Document
import RelyingParty.Settings.Basic

/-!
# Settings as documents

Every field is written, an absent value as `null`, in the order of declaration.
-/

namespace RelyingParty

/-- A text, or `null` for none. -/
def Document.ofText? : Option String → Document
  | some s => .text s
  | none => .null

def Usage.toDocument (u : Usage) : Document := .text u.name

def CredentialSettings.toDocument (c : CredentialSettings) : Document :=
  .table
    [("certificate", .ofText? c.certificate),
     ("private_key", .ofText? c.privateKey),
     ("certificate_path", .ofText? c.certificatePath),
     ("private_key_path", .ofText? c.privateKeyPath),
     ("private_key_env", .ofText? c.privateKeyEnv),
     ("usages", .list (c.usages.map Usage.toDocument))]

def AssertingPartySettings.toDocument (p : AssertingPartySettings) : Document :=
  .table
    [("entity_id", .ofText? p.entityId),
     ("wants_authn_requests_signed", p.wantsAuthnRequestsSigned.elim .null .bool),
     ("verification_credentials",
       .list (p.verificationCredentials.map CredentialSettings.toDocument)),
     ("encryption_credentials",
       .list (p.encryptionCredentials.map CredentialSettings.toDocument)),
     ("single_sign_on_service_location", .ofText? p.singleSignOnServiceLocation),
     ("single_sign_on_service_binding", .ofText? (p.singleSignOnServiceBinding.map Binding.name))]

def RelyingPartySettings.toDocument (r : RelyingPartySettings) : Document :=
  .table
    [("registration_id", .text r.registrationId),
     ("entity_id", .ofText? r.entityId),
     ("assertion_consumer_service_location", .ofText? r.assertionConsumerServiceLocation),
     ("signing_credentials", .list (r.signingCredentials.map CredentialSettings.toDocument)),
     ("decryption_credentials", .list (r.decryptionCredentials.map CredentialSettings.toDocument)),
     ("credentials", .list (r.credentials.map CredentialSettings.toDocument)),
     ("asserting_party", r.assertingParty.toDocument)]

def LoggingSettings.toDocument (l : LoggingSettings) : Document :=
  .table [("level", .text l.level)]

def Settings.toDocument (s : Settings) : Document :=
  .table
    [("logging", s.logging.toDocument),
     ("registrations", .list (s.registrations.map RelyingPartySettings.toDocument))]

end RelyingParty
