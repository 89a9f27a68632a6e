import RelyingParty.Proofs.Registration.Outcome
import RelyingParty.Proofs.Registration.Run
import RelyingParty.Proofs.Specimen

/-!
# Registrations that have been built are sound

The invariant of every registration a build returns: its texts show something, its buckets hold
no credential twice and none that does not belong there, and there is some credential.

Part of it is checked by the build. That keys and parties match is not: a signing credential has
a private key, and none is in a bucket of the other party too, because a credential cannot be
made otherwise, and sorting a flat set puts it only where it declares the usage.
-/

namespace RelyingParty.Registration

/-- What every registration that has been built satisfies. -/
structure Sound (r : Registration) : Prop where
  registrationId_visible : Text.isBlank r.registrationId = false
  entityId_visible : Text.isBlank r.entityId = false
  location_visible : Text.isBlank r.assertionConsumerServiceLocation = false
  partyEntityId_visible : Text.isBlank r.assertingParty.entityId = false
  partyLocation_visible : Text.isBlank r.assertingParty.singleSignOnServiceLocation = false
  /-- No bucket holds a credential twice. -/
  nodup : ∀ u, (r.bucket u).Nodup
  /-- Every credential declares the usage of its bucket. -/
  declares : ∀ u, ∀ c ∈ r.bucket u, c.hasUsage u = true
  /-- The relying party's credentials have a private key in which something shows. -/
  keyed : ∀ u, u.needsKey = true →
    ∀ c ∈ r.bucket u, ∃ k, c.privateKey = some k ∧ Text.isBlank k = false
  /-- The asserting party's credentials have none. -/
  keyless : ∀ u, u.needsKey = false → ∀ c ∈ r.bucket u, c.privateKey = none
  /-- No credential is in buckets of both parties. -/
  separate : ∀ u v, u.needsKey = true → v.needsKey = false → ∀ c ∈ r.bucket u, c ∉ r.bucket v
  credentials_ne_nil : r.credentials ≠ []

namespace Builder

theorem isBlank_getD {value : Option String} (h : isMissing value = false) :
    Text.isBlank (value.getD "") = false := by
  obtain ⟨text, rfl, ht⟩ := isMissing_eq_false_iff.mp h
  exact ht

/-- A valid builder without a flat set describes a sound registration. -/
theorem Valid.sound {b : Builder} (h : b.Valid) (hf : b.credentials = .empty) :
    b.described.Sound where
  registrationId_visible := h.registrationId
  entityId_visible := h.entityId
  location_visible := isBlank_getD h.location
  partyEntityId_visible := isBlank_getD h.party.entityId
  partyLocation_visible := isBlank_getD h.party.location
  nodup := by
    intro u
    rw [bucket_described]
    exact (b.bucket u).nodup
  declares := by
    intro u c hc
    rw [bucket_described] at hc
    exact h.usages u c hc
  keyed := by
    intro u hu c hc
    rw [bucket_described] at hc
    exact Credential.exists_privateKey (h.usages u c hc) hu
  keyless := by
    intro u hu c hc
    rw [bucket_described] at hc
    exact Credential.privateKey_eq_none (h.usages u c hc) hu
  separate := by
    intro u v hu hv c hcu hcv
    rw [bucket_described] at hcu hcv
    have huv := Credential.needsKey_eq_of_hasUsage (h.usages u c hcu) (h.usages v c hcv)
    rw [hu, hv] at huv
    exact Bool.noConfusion huv
  credentials_ne_nil := by
    have hb := isEmpty_union hf
    rw [h.notBare] at hb
    exact List.isEmpty_eq_false_iff.mp hb

/-- **What a build returns is sound,** whatever led to the builder. -/
theorem sound_of_build {b : Builder} {r : Registration} (h : b.build.value = .ok r) :
    r.Sound := by
  obtain ⟨hv, rfl⟩ := build_value_eq_ok_iff.mp h
  exact (valid_reconciled_iff.mpr hv).sound (credentials_reconciled b)

end Builder

namespace Session

/-- Every registration that the session has built is sound. -/
def Sound (s : Session) : Prop := ∀ r ∈ s.built, r.Sound

theorem sound_start (b : Builder) : Sound { builder := b } := by
  intro r hr
  exact absurd hr List.not_mem_nil

/-- **Preserved by every step.** -/
theorem sound_step {s : Session} (h : s.Sound) (st : Step) : (s.step st).2.Sound := by
  intro r hr
  rcases built_step s st with hs | ⟨q, hq, hs⟩
  · rw [hs] at hr
    exact h r hr
  · rw [hs] at hr
    rcases List.mem_append.mp hr with hr | hr
    · exact h r hr
    · rw [List.mem_singleton.mp hr]
      exact Builder.sound_of_build hq

theorem sound_after {s : Session} (h : s.Sound) (steps : List Step) : (s.after steps).Sound := by
  induction steps generalizing s with
  | nil => exact h
  | cons st sts ih => exact ih (sound_step h st)

/-- **Every registration that is ever built is sound.** The builder that the session starts with
is any builder: an empty one, one that settings describe, one with sets changed by any means. -/
theorem sound_of_mem_built (b : Builder) (steps : List Step) (r : Registration)
    (h : r ∈ (Session.after { builder := b } steps).built) : r.Sound :=
  sound_after (sound_start b) steps r h

open Specimen in
/-- A build from a flat set, a derived builder that fails, and the same builder corrected. -/
theorem sound_of_mem_built_specimen :
    ∃ r ∈ (Session.after { builder := Specimen.builder }
        [.set (.credentials [.insert keyPair, .insert verifier]), .build, .derive 0,
         .set (.registrationId " "), .build, .set (.registrationId "sp-2"), .build]).built,
      r.registrationId = "sp-2" ∧ r.bucket .decryption = [keyPair] ∧ r.Sound := by
  let steps : List Step :=
    [.set (.credentials [.insert keyPair, .insert verifier]), .build, .derive 0,
     .set (.registrationId " "), .build, .set (.registrationId "sp-2"), .build]
  have hany : (Session.after { builder := Specimen.builder } steps).built.any
      (fun r => r.registrationId = "sp-2" ∧ r.bucket .decryption = [keyPair]) = true := by decide
  obtain ⟨r, hr, hid⟩ := List.any_eq_true.mp hany
  obtain ⟨hid, hd⟩ := of_decide_eq_true hid
  exact ⟨r, hr, hid, hd, sound_of_mem_built Specimen.builder steps r hr⟩

end Session

end RelyingParty.Registration
