import RelyingParty.Credential.Basic

/-!
# Credential definitions

The material and usages of a credential before they have been checked, in the six forms in which
a credential can be asked for.
-/

namespace RelyingParty

inductive Credential.Definition where
  | withPrivateKey (privateKey certificate : String) (usages : List Usage)
  | certificateOnly (certificate : String) (usages : List Usage)
  | signing (privateKey certificate : String)
  | decryption (privateKey certificate : String)
  | verification (certificate : String)
  | encryption (certificate : String)
deriving DecidableEq, Repr

namespace Credential.Definition

def build : Definition → Except ConfigurationError Credential
  | withPrivateKey privateKey certificate usages =>
      Credential.withPrivateKey privateKey certificate usages
  | certificateOnly certificate usages => Credential.certificateOnly certificate usages
  | signing privateKey certificate => Credential.signing privateKey certificate
  | decryption privateKey certificate => Credential.decryption privateKey certificate
  | verification certificate => Credential.verification certificate
  | encryption certificate => Credential.encryption certificate

/-- The credentials of a list of definitions, or the first error. -/
def buildAll : List Definition → Except ConfigurationError (List Credential)
  | [] => .ok []
  | d :: ds => do
      let c ← d.build
      let cs ← buildAll ds
      return c :: cs

end Credential.Definition

end RelyingParty
