import RelyingParty.Binding
import RelyingParty.Credential.Basic

/-!
# The asserting party of a registration

What a relying party knows about the party that authenticates its users: who it is, where and
how requests reach it, whether it wants them signed, and its certificates. A value of this type
comes from `AssertingParty.Builder.build`, which checks it.

An entity id may contain the placeholders `baseUrl`, `registrationId`, `baseScheme`, `baseHost`
and `basePort`; they are resolved against a request and are plain text here.
-/

namespace RelyingParty

structure AssertingParty where
  entityId : String
  wantsAuthnRequestsSigned : Bool
  /-- Certificates that verify the party's signatures. -/
  verificationCredentials : List Credential
  /-- Certificates that messages for the party are encrypted with. -/
  encryptionCredentials : List Credential
  singleSignOnServiceLocation : String
  singleSignOnServiceBinding : Binding
deriving DecidableEq

namespace AssertingParty

/-- Older name of `singleSignOnServiceLocation`. -/
def webSsoUrl (p : AssertingParty) : String := p.singleSignOnServiceLocation

/-- Older name of `wantsAuthnRequestsSigned`. -/
def signAuthnRequest (p : AssertingParty) : Bool := p.wantsAuthnRequestsSigned

/-- Older name of `singleSignOnServiceBinding`. -/
def binding (p : AssertingParty) : Binding := p.singleSignOnServiceBinding

end AssertingParty

end RelyingParty
