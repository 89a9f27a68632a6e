import RelyingParty.ConfigurationError
import RelyingParty.Digest.Base64Url
import RelyingParty.Digest.Sha256
import RelyingParty.Text.Blank

/-!
# Credentials

A credential is a certificate, for the relying party's own keys together with the private key,
and the usages it was declared for. The material is opaque text; only its presence is checked.

What every check downstream relies on is part of the type: certificate and key are not blank,
at least one usage is declared, and the declared usages need a private key exactly when there is
one. The two ways to make a credential, `withPrivateKey` and `certificateOnly`, report the
first of these that fails.
-/

namespace RelyingParty

open Text (isBlank)

structure Credential where
  privateKey : Option String
  certificate : String
  usages : UsageSet
  privateKey_visible : ∀ k ∈ privateKey, isBlank k = false
  certificate_visible : isBlank certificate = false
  usages_ne_nil : usages.toList ≠ []
  needsKey_eq : ∀ u ∈ usages.toList, u.needsKey = privateKey.isSome
deriving DecidableEq

namespace Credential

/-- What messages call a credential with these sources. -/
def kind (keyed : Bool) : String := if keyed then "private key" else "certificate-only"

/-- A credential from material and usages. The usage that is reported as unsupported is the
first in listing order, whatever the order in which the usages were given. -/
def create (privateKey : Option String) (certificate : String) (usages : List Usage) :
    Except ConfigurationError Credential :=
  if hk : ∀ k ∈ privateKey, isBlank k = false then
    if hc : isBlank certificate = false then
      let declared := UsageSet.ofList usages
      if hu : declared.toList = [] then .error (.emptyCollection "usages")
      else
        match h : declared.toList.find? (fun u => u.needsKey != privateKey.isSome) with
        | some u => .error (.unsupportedUsage u (kind privateKey.isSome))
        | none => .ok ⟨privateKey, certificate, declared, hk, hc, hu, by simpa using h⟩
    else .error (.missingField "certificate")
  else .error (.missingField "privateKey")

/-- A relying party credential, backed by its private key. -/
def withPrivateKey (privateKey certificate : String) (usages : List Usage) :
    Except ConfigurationError Credential :=
  create (some privateKey) certificate usages

/-- An asserting party credential, known by its certificate alone. -/
def certificateOnly (certificate : String) (usages : List Usage) :
    Except ConfigurationError Credential :=
  create none certificate usages

def signing (privateKey certificate : String) : Except ConfigurationError Credential :=
  withPrivateKey privateKey certificate [.signing]

def decryption (privateKey certificate : String) : Except ConfigurationError Credential :=
  withPrivateKey privateKey certificate [.decryption]

def verification (certificate : String) : Except ConfigurationError Credential :=
  certificateOnly certificate [.verification]

def encryption (certificate : String) : Except ConfigurationError Credential :=
  certificateOnly certificate [.encryption]

def hasUsage (c : Credential) (u : Usage) : Bool := c.usages.contains u

def isSigning (c : Credential) : Bool := c.hasUsage .signing

def isDecryption (c : Credential) : Bool := c.hasUsage .decryption

def isVerification (c : Credential) : Bool := c.hasUsage .verification

def isEncryption (c : Credential) : Bool := c.hasUsage .encryption

def hasPrivateKey (c : Credential) : Bool := c.privateKey.isSome

/-- Identifies the certificate without revealing any key: its SHA-256 digest in the URL-safe
base64 alphabet. -/
def fingerprint (c : Credential) : String :=
  Digest.Base64Url.encode (Digest.Sha256.ofString c.certificate).bytes

/-- A credential has a key exactly when a usage it declares needs one. -/
theorem needsKey_of_hasUsage {c : Credential} {u : Usage} (h : c.hasUsage u = true) :
    u.needsKey = c.hasPrivateKey :=
  c.needsKey_eq u (UsageSet.mem_toList.2 h)

/-- Two credentials with the same material and usages are the same. -/
theorem ext {c d : Credential} (hk : c.privateKey = d.privateKey)
    (hc : c.certificate = d.certificate) (hu : c.usages = d.usages) : c = d := by
  cases c; cases d; simp_all

end Credential

end RelyingParty
