import RelyingParty.Registration.Builder
import RelyingParty.Text.Quoted
import RelyingParty.Text.Record

/-!
# One-line descriptions for diagnostics

Each kind of value as a record on one line. A credential is described by its fingerprint and
usages; of a private key only its presence shows, so a description can be logged.
-/

namespace RelyingParty

open Text (record optional bracketed braced quote)

def ConfigurationError.describe : ConfigurationError → String
  | missingField field => record "MissingField" [("field", quote field)]
  | emptyCollection field => record "EmptyCollection" [("field", quote field)]
  | nullElement field => record "NullElement" [("field", quote field)]
  | usageMismatch field usage =>
      record "UsageMismatch" [("field", quote field), ("usage", usage.title)]
  | unsupportedUsage usage kind =>
      record "UnsupportedUsage" [("usage", usage.title), ("kind", quote kind)]

def Credential.describe (c : Credential) : String :=
  record "Credential"
    [("fingerprint", quote c.fingerprint),
     ("usages", braced (c.usages.toList.map Usage.title)),
     ("private_key", optional (c.privateKey.map fun _ => quote "[redacted]"))]

/-- A list of credentials in square brackets. -/
def Credential.describeList (cs : List Credential) : String := bracketed (cs.map describe)

def CredentialSet.describe (s : CredentialSet) : String :=
  record "CredentialSet" [("credentials", Credential.describeList s.members)]

def AssertingParty.describe (p : AssertingParty) : String :=
  record "ProviderDetails"
    [("entity_id", quote p.entityId),
     ("wants_authn_requests_signed", toString p.wantsAuthnRequestsSigned),
     ("verification_x509_credentials", Credential.describeList p.verificationCredentials),
     ("encryption_x509_credentials", Credential.describeList p.encryptionCredentials),
     ("single_sign_on_service_location", quote p.singleSignOnServiceLocation),
     ("single_sign_on_service_binding", p.singleSignOnServiceBinding.title)]

def AssertingParty.Builder.describe (b : AssertingParty.Builder) : String :=
  record "ProviderDetailsBuilder"
    [("entity_id", optional (b.entityId.map quote)),
     ("wants_authn_requests_signed", toString b.wantsAuthnRequestsSigned),
     ("verification_x509_credentials", b.verificationCredentials.describe),
     ("encryption_x509_credentials", b.encryptionCredentials.describe),
     ("single_sign_on_service_location", optional (b.singleSignOnServiceLocation.map quote)),
     ("single_sign_on_service_binding", b.singleSignOnServiceBinding.title)]

def Registration.describe (r : Registration) : String :=
  record "Registration"
    [("registration_id", quote r.registrationId),
     ("entity_id", quote r.entityId),
     ("assertion_consumer_service_location", quote r.assertionConsumerServiceLocation),
     ("credentials", Credential.describeList r.credentials),
     ("signing_x509_credentials", Credential.describeList r.signingCredentials),
     ("decryption_x509_credentials", Credential.describeList r.decryptionCredentials),
     ("provider_details", r.assertingParty.describe)]

def Registration.Builder.describe (b : Registration.Builder) : String :=
  record "RegistrationBuilder"
    [("registration_id", quote b.registrationId),
     ("entity_id", quote b.entityId),
     ("assertion_consumer_service_location",
       optional (b.assertionConsumerServiceLocation.map quote)),
     ("provider_details", b.assertingParty.describe),
     ("credentials", b.credentials.describe),
     ("signing_x509_credentials", b.signingCredentials.describe),
     ("decryption_x509_credentials", b.decryptionCredentials.describe)]

end RelyingParty
