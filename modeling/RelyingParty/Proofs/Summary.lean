import Mathlib.Data.List.Forall2
import RelyingParty.Proofs.Credential.Constructors
import RelyingParty.Proofs.Digest.Base64Url
import RelyingParty.Summary

/-!
# What a summary tells

A summary tells registrations apart by everything that is no key material and by nothing else. Of a
credential it keeps the usages and the digest of the certificate (`Credential.LooksLike`), the latter
written in symbols that lose nothing of it; whether there is a key, and which, has no part in it.
-/

namespace RelyingParty

namespace Credential

/-- The SHA-256 digest of the certificate. -/
def digest (c : Credential) : List UInt8 := (Digest.Sha256.ofString c.certificate).bytes

/-- Two credentials declare the same usages, and their certificates have the same digest. -/
structure LooksLike (c c' : Credential) : Prop where
  usages : c.usages = c'.usages
  digest : c.digest = c'.digest

variable {c c' : Credential}

theorem length_digest (c : Credential) : c.digest.length = 32 :=
  (Digest.Sha256.ofString c.certificate).length_bytes

/-- **A fingerprint is the digest,** in other words. -/
theorem fingerprint_eq_iff : c.fingerprint = c'.fingerprint ↔ c.digest = c'.digest :=
  Digest.Base64Url.encode_injective.eq_iff

theorem toList_fingerprint (c : Credential) :
    c.fingerprint.toList = Digest.Base64Url.symbols c.digest := String.toList_ofList

theorem length_fingerprint (c : Credential) : c.fingerprint.length = 43 := by
  rw [← String.length_toList, toList_fingerprint, Digest.Base64Url.length_symbols, length_digest]

theorem summary_eq_iff : c.summary = c'.summary ↔ c.LooksLike c' := by
  rw [summary, summary, CredentialSummary.mk.injEq, fingerprint_eq_iff]
  constructor
  · intro h
    refine ⟨?_, h.1⟩
    rw [← c.usages.ofList_toList, ← c'.usages.ofList_toList, h.2]
  · intro h
    exact ⟨h.digest, by rw [h.usages]⟩

/-- Summaries of lists are equal when the lists look alike place by place. -/
theorem map_summary_eq_iff {cs cs' : List Credential} :
    cs.map summary = cs'.map summary ↔ List.Forall₂ LooksLike cs cs' := by
  rw [← List.forall₂_eq_eq_eq, List.forall₂_map_left_iff, List.forall₂_map_right_iff]
  simp only [summary_eq_iff]

end Credential

open Credential (LooksLike)

theorem AssertingParty.summary_eq_iff {p p' : AssertingParty} : p.summary = p'.summary ↔
    p.entityId = p'.entityId ∧ p.wantsAuthnRequestsSigned = p'.wantsAuthnRequestsSigned ∧
      p.singleSignOnServiceLocation = p'.singleSignOnServiceLocation ∧
      p.singleSignOnServiceBinding = p'.singleSignOnServiceBinding ∧
      List.Forall₂ LooksLike p.verificationCredentials p'.verificationCredentials ∧
      List.Forall₂ LooksLike p.encryptionCredentials p'.encryptionCredentials := by
  rw [summary, summary, AssertingPartySummary.mk.injEq, Credential.map_summary_eq_iff,
    Credential.map_summary_eq_iff]

/-- **A summary identifies all but the key material.** Two registrations have the same summary
exactly when their texts, bindings and flags are the same and the lists for each usage have the same
length and look alike place by place. What stands for a certificate in it are 43 symbols of the
URL-safe alphabet, without padding, and they are as good as the digest. -/
theorem Registration.summary_identifies (r r' : Registration) :
    (r.summary = r'.summary ↔
      r.registrationId = r'.registrationId ∧ r.entityId = r'.entityId ∧
      r.assertionConsumerServiceLocation = r'.assertionConsumerServiceLocation ∧
      r.assertingParty.entityId = r'.assertingParty.entityId ∧
      r.assertingParty.singleSignOnServiceLocation
        = r'.assertingParty.singleSignOnServiceLocation ∧
      r.assertingParty.singleSignOnServiceBinding = r'.assertingParty.singleSignOnServiceBinding ∧
      r.assertingParty.wantsAuthnRequestsSigned = r'.assertingParty.wantsAuthnRequestsSigned ∧
      List.Forall₂ LooksLike r.signingCredentials r'.signingCredentials ∧
      List.Forall₂ LooksLike r.decryptionCredentials r'.decryptionCredentials ∧
      List.Forall₂ LooksLike r.assertingParty.verificationCredentials
        r'.assertingParty.verificationCredentials ∧
      List.Forall₂ LooksLike r.assertingParty.encryptionCredentials
        r'.assertingParty.encryptionCredentials) ∧
    (∀ c : Credential, c.fingerprint.length = 43 ∧
      ∀ x ∈ c.fingerprint.toList, x ∈ Digest.Base64Url.alphabet ∧ x ≠ '=') ∧
    (∀ c c' : Credential, c.fingerprint = c'.fingerprint ↔ c.digest = c'.digest) := by
  refine ⟨?_, ?_, fun _ _ => Credential.fingerprint_eq_iff⟩
  · rw [summary, summary, RegistrationSummary.mk.injEq, AssertingParty.summary_eq_iff,
      Credential.map_summary_eq_iff, Credential.map_summary_eq_iff]
    tauto
  · intro c
    refine ⟨c.length_fingerprint, ?_⟩
    intro x hx
    rw [c.toList_fingerprint] at hx
    have hmem := Digest.Base64Url.forall_mem_symbols c.digest x hx
    refine ⟨hmem, ?_⟩
    intro hpad
    subst hpad
    exact absurd hmem (by decide)

end RelyingParty
