import RelyingParty.Proofs.Registration.Trace
import RelyingParty.Proofs.Specimen
import RelyingParty.Session.Registration

/-!
# Deriving a builder from what was built

A derived builder starts from the defaults, sets every text again and extends empty sets by the
buckets. What it arrives at is the builder that was built, once its flat set has been sorted
(`toBuilder_of_build`): a bucket comes back in its order because it holds no credential twice,
and a text comes back as set because a build passes none that is unset.

So deriving and building again changes nothing and has no flat set to report, and where there
was no flat set in the first place the two builders are one and the same from then on.
-/

namespace RelyingParty

namespace AssertingParty.Builder

/-- The builder derived from a party that a valid builder describes. -/
theorem toBuilder_described {b : Builder} (hv : b.Valid) : b.described.toBuilder = b := by
  obtain ⟨entityId, signed, verification, encryption, location, binding⟩ := b
  obtain ⟨e, rfl, -⟩ := isMissing_eq_false_iff.mp hv.entityId
  obtain ⟨l, rfl, -⟩ := isMissing_eq_false_iff.mp hv.location
  have hver : CredentialSet.empty.extend verification.members = verification :=
    verification.ofList_members
  have henc : CredentialSet.empty.extend encryption.members = encryption :=
    encryption.ofList_members
  simp [described, toBuilder, setEntityId, setWantsAuthnRequestsSigned, modifyVerification,
    modifyEncryption, setSingleSignOnServiceLocation, setSingleSignOnServiceBinding, hver,
    henc]

/-- **A party's builder is derived from it as it was.** -/
theorem toBuilder_of_build {b : Builder} {p : AssertingParty} (h : b.build = .ok p) :
    p.toBuilder = b := by
  obtain ⟨hv, rfl⟩ := build_eq_ok_iff.mp h
  exact toBuilder_described hv

end AssertingParty.Builder

namespace Registration.Builder

/-- The builder derived from a registration that a valid builder without a flat set describes. -/
theorem toBuilder_described {b : Builder} (hv : b.Valid) (hf : b.credentials = .empty) :
    b.described.toBuilder = b := by
  have hp : b.described.assertingParty.toBuilder = b.assertingParty :=
    AssertingParty.Builder.toBuilder_described hv.party
  obtain ⟨id, entityId, location, party, flat, signing, decryption⟩ := b
  obtain ⟨l, rfl, -⟩ := isMissing_eq_false_iff.mp hv.location
  obtain rfl : flat = .empty := hf
  have hs : CredentialSet.empty.extend signing.members = signing := signing.ofList_members
  have hd : CredentialSet.empty.extend decryption.members = decryption :=
    decryption.ofList_members
  rw [toBuilder, hp]
  simp [described, ofId, setEntityId, modifySigning, modifyDecryption,
    setAssertionConsumerServiceLocation, modifyAssertingParty, hs, hd]

/-- **A registration's builder is derived from it as it was sorted.** -/
theorem toBuilder_of_build {b : Builder} {r : Registration} (h : b.build.value = .ok r) :
    r.toBuilder = b.reconciled := by
  obtain ⟨hv, rfl⟩ := build_value_eq_ok_iff.mp h
  exact toBuilder_described (valid_reconciled_iff.mpr hv) (credentials_reconciled b)

end Registration.Builder

/-- **Deriving a builder loses and adds nothing.** Building again gives what there was, without
a report on a flat set. A builder that had no flat set is itself what is derived, so whatever
settings follow, nothing tells the two apart. The same holds of asserting parties. -/
theorem toBuilder_faithful :
    (∀ (b : Registration.Builder) (r : Registration), b.build.value = .ok r →
      r.toBuilder.build.value = .ok r ∧
        (∀ e ∈ r.toBuilder.build.events, e.reportsFlatSet = false) ∧
        (b.credentials = .empty → r.toBuilder = b ∧ ∀ further : List Registration.Setting,
          (r.toBuilder.applyAll further).build = (b.applyAll further).build)) ∧
      ∀ (b : AssertingParty.Builder) (p : AssertingParty), b.build = .ok p →
        p.toBuilder.build = .ok p ∧ p.toBuilder = b ∧
          ∀ further : List AssertingParty.Setting,
            (p.toBuilder.applyAll further).build = (b.applyAll further).build := by
  constructor
  · intro b r h
    have hb := Registration.Builder.toBuilder_of_build h
    refine ⟨?_, ?_, ?_⟩
    · rw [hb, Registration.Builder.build_reconciled_value, h]
    · rw [hb]
      exact Registration.Builder.build_quiet (Registration.Builder.credentials_reconciled b)
    · intro hf
      have heq : r.toBuilder = b := by
        rw [hb, Registration.Builder.reconciled_of_empty hf]
      exact ⟨heq, fun further => by rw [heq]⟩
  · intro b p h
    have hb := AssertingParty.Builder.toBuilder_of_build h
    refine ⟨?_, hb, fun further => by rw [hb]⟩
    rw [hb, h]

open Specimen in
/-- A builder with a flat set, one without, and a party's builder. -/
theorem toBuilder_faithful_specimen :
    (∃ r, (builder.modifyCredentials (·.insert keyPair)).build.value = .ok r ∧
        r.toBuilder.build.value = .ok r ∧
        ∀ e ∈ r.toBuilder.build.events, e.reportsFlatSet = false) ∧
      (∃ r, builder.build.value = .ok r ∧ builder.credentials = .empty ∧ r.toBuilder = builder) ∧
      ∃ p, partyBuilder.build = .ok p ∧ p.toBuilder.build = .ok p ∧ p.toBuilder = partyBuilder := by
  have hflat : (builder.modifyCredentials (·.insert keyPair)).build.value
      = .ok (builder.modifyCredentials (·.insert keyPair)).reconciled.described := rfl
  have hplain : builder.build.value = .ok builder.reconciled.described := rfl
  have hparty : partyBuilder.build = .ok partyBuilder.described := rfl
  obtain ⟨hagain, hquiet, -⟩ := toBuilder_faithful.1 _ _ hflat
  obtain ⟨-, -, hsame⟩ := toBuilder_faithful.1 _ _ hplain
  obtain ⟨hpagain, hpsame, -⟩ := toBuilder_faithful.2 _ _ hparty
  exact ⟨⟨_, hflat, hagain, hquiet⟩, ⟨_, hplain, rfl, (hsame rfl).1⟩, _, hparty, hpagain, hpsame⟩

end RelyingParty
