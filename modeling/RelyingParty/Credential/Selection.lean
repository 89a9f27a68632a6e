import RelyingParty.Credential.Basic

/-!
# Choosing credentials from a list

A flat list of credentials is sorted into four lists, one per usage. A credential with several
usages lands in each list that it declares, and the order of the flat list is kept.
-/

namespace RelyingParty

/-- A named condition on a credential. -/
inductive Credential.Selector where
  | hasUsage (usage : Usage)
  | hasPrivateKey
  | certificateIs (certificate : String)
deriving DecidableEq, Repr

namespace Credential

def Selector.accepts : Selector → Credential → Bool
  | hasUsage u, c => c.hasUsage u
  | hasPrivateKey, c => c.hasPrivateKey
  | certificateIs s, c => c.certificate = s

/-- The credentials that satisfy a condition, in order and with their repetitions. -/
def select (cs : List Credential) (p : Credential → Bool) : List Credential := cs.filter p

end Credential

/-- A list of credentials sorted by usage. -/
structure Categorized where
  signing : List Credential
  decryption : List Credential
  verification : List Credential
  encryption : List Credential
deriving DecidableEq

namespace Categorized

def ofList (cs : List Credential) : Categorized where
  signing := Credential.select cs Credential.isSigning
  decryption := Credential.select cs Credential.isDecryption
  verification := Credential.select cs Credential.isVerification
  encryption := Credential.select cs Credential.isEncryption

def empty : Categorized := ⟨[], [], [], []⟩

def isEmpty (k : Categorized) : Bool :=
  k.signing.isEmpty && k.decryption.isEmpty && k.verification.isEmpty && k.encryption.isEmpty

/-- The list for one usage. -/
def bucket (k : Categorized) : Usage → List Credential
  | .signing => k.signing
  | .decryption => k.decryption
  | .verification => k.verification
  | .encryption => k.encryption

theorem bucket_ofList (cs : List Credential) (u : Usage) :
    (ofList cs).bucket u = cs.filter fun c => c.hasUsage u := by
  cases u <;> rfl

end Categorized

end RelyingParty
