import RelyingParty.Proofs.Credential.Set
import RelyingParty.Registration.Builder

/-!
# The four buckets of a builder

A builder keeps its credentials in four sets, two of its own and two in the nested builder. What
reconciliation and the routes into the buckets do is the same for each of the four, so it is
said once, with the usage as a parameter: `bucket u` is the set for `u`, and `extendBuckets f`
extends every bucket `u` by `f u` and touches nothing else.

The main statement, `reconciled_eq`, reads reconciliation in these terms: every bucket is
extended by the members of the flat set that declare its usage, and the flat set is emptied.
-/

namespace RelyingParty.Registration

/-- The credentials of a list that declare a usage. -/
def declaring (xs : List Credential) (u : Usage) : List Credential :=
  xs.filter fun c => c.hasUsage u

theorem hasUsage_of_mem_declaring {xs : List Credential} {u : Usage} {c : Credential}
    (h : c ∈ declaring xs u) : c.hasUsage u = true :=
  (List.mem_filter.mp h).2

theorem declaring_append (xs ys : List Credential) (u : Usage) :
    declaring (xs ++ ys) u = declaring xs u ++ declaring ys u := List.filter_append xs ys

@[simp] theorem declaring_declaring (xs : List Credential) (u : Usage) :
    declaring (declaring xs u) u = declaring xs u :=
  List.filter_eq_self.mpr fun _ hc => hasUsage_of_mem_declaring hc

/-- The credentials for one usage. -/
def bucket (r : Registration) : Usage → List Credential
  | .signing => r.signingCredentials
  | .decryption => r.decryptionCredentials
  | .verification => r.assertingParty.verificationCredentials
  | .encryption => r.assertingParty.encryptionCredentials

/-- Two registrations that can differ in their credentials alone. -/
structure SameValues (r r' : Registration) : Prop where
  registrationId : r'.registrationId = r.registrationId
  entityId : r'.entityId = r.entityId
  location : r'.assertionConsumerServiceLocation = r.assertionConsumerServiceLocation
  partyEntityId : r'.assertingParty.entityId = r.assertingParty.entityId
  partyLocation : r'.assertingParty.singleSignOnServiceLocation
    = r.assertingParty.singleSignOnServiceLocation
  signed : r'.assertingParty.wantsAuthnRequestsSigned = r.assertingParty.wantsAuthnRequestsSigned
  binding : r'.assertingParty.singleSignOnServiceBinding
    = r.assertingParty.singleSignOnServiceBinding

namespace Builder

/-- The set for one usage. -/
def bucket (b : Builder) : Usage → CredentialSet
  | .signing => b.signingCredentials
  | .decryption => b.decryptionCredentials
  | .verification => b.assertingParty.verificationCredentials
  | .encryption => b.assertingParty.encryptionCredentials

/-- Changes the set for one usage. -/
def modifyBucket (b : Builder) (f : CredentialSet → CredentialSet) : Usage → Builder
  | .signing => b.modifySigning f
  | .decryption => b.modifyDecryption f
  | .verification => b.modifyAssertingParty (·.modifyVerification f)
  | .encryption => b.modifyAssertingParty (·.modifyEncryption f)

/-- Extends each of the four sets. -/
def extendBuckets (b : Builder) (f : Usage → List Credential) : Builder :=
  Usage.all.foldl (fun b u => b.modifyBucket (·.extend (f u)) u) b

@[simp] theorem bucket_extendBuckets (b : Builder) (f : Usage → List Credential) (u : Usage) :
    (b.extendBuckets f).bucket u = (b.bucket u).extend (f u) := by
  cases u <;> rfl

@[simp] theorem credentials_extendBuckets (b : Builder) (f : Usage → List Credential) :
    (b.extendBuckets f).credentials = b.credentials := rfl

/-- Nothing is changed by extending with nothing. -/
theorem extendBuckets_nil (b : Builder) : b.extendBuckets (fun _ => []) = b := rfl

/-- Extending the buckets, field by field. -/
theorem extendBuckets_eq (b : Builder) (f : Usage → List Credential) :
    b.extendBuckets f = { b with
      signingCredentials := b.signingCredentials.extend (f .signing)
      decryptionCredentials := b.decryptionCredentials.extend (f .decryption)
      assertingParty := b.assertingParty
        |>.modifyVerification (·.extend (f .verification))
        |>.modifyEncryption (·.extend (f .encryption)) } := rfl

theorem extendBuckets_append (b : Builder) (f g : Usage → List Credential) :
    b.extendBuckets (fun u => f u ++ g u) = (b.extendBuckets f).extendBuckets g := by
  simp only [extendBuckets_eq, CredentialSet.extend_append,
    AssertingParty.Builder.modifyVerification, AssertingParty.Builder.modifyEncryption]

/-- Nothing comes of extending buckets by what is in them. -/
theorem extendBuckets_of_forall_mem {b : Builder} {f : Usage → List Credential}
    (h : ∀ u, ∀ c ∈ f u, c ∈ b.bucket u) : b.extendBuckets f = b := by
  have hs : b.signingCredentials.extend (f .signing) = b.signingCredentials :=
    CredentialSet.extend_of_forall_mem (h .signing)
  have hd : b.decryptionCredentials.extend (f .decryption) = b.decryptionCredentials :=
    CredentialSet.extend_of_forall_mem (h .decryption)
  have hv : b.assertingParty.verificationCredentials.extend (f .verification)
      = b.assertingParty.verificationCredentials :=
    CredentialSet.extend_of_forall_mem (h .verification)
  have he : b.assertingParty.encryptionCredentials.extend (f .encryption)
      = b.assertingParty.encryptionCredentials :=
    CredentialSet.extend_of_forall_mem (h .encryption)
  simp only [extendBuckets_eq, AssertingParty.Builder.modifyVerification,
    AssertingParty.Builder.modifyEncryption, hs, hd, hv, he]

/-- **Reconciliation, bucket by bucket.** -/
theorem reconciled_eq (b : Builder) :
    b.reconciled
      = { b.extendBuckets (declaring b.credentials.members) with credentials := .empty } := rfl

@[simp] theorem credentials_reconciled (b : Builder) : b.reconciled.credentials = .empty := rfl

@[simp] theorem bucket_reconciled (b : Builder) (u : Usage) :
    b.reconciled.bucket u = (b.bucket u).extend (declaring b.credentials.members u) := by
  cases u <;> rfl

/-- A builder without a flat set is as it will be reconciled. -/
theorem reconciled_of_empty {b : Builder} (h : b.credentials = .empty) : b.reconciled = b := by
  have hf : declaring b.credentials.members = fun _ => [] := by
    rw [h]
    rfl
  rw [reconciled_eq, hf, extendBuckets_nil]
  cases b
  simpa using h.symm

theorem reconciled_reconciled (b : Builder) : b.reconciled.reconciled = b.reconciled :=
  reconciled_of_empty (credentials_reconciled b)

end Builder

end RelyingParty.Registration
