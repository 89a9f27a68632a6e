import RelyingParty.Proofs.Registration.FlatRoute

/-!
# One more credential in the flat set

Whoever adds a credential to the flat set of a builder that can be built need not fear for the
registration. The credential ends up last in every bucket whose usage it declares, unless it is there
already, and nothing else moves (`members_bucket_reconciled_addFlat`).

Nor does it hide or cause an error. No check reads the flat set but the one that asks whether there is
any credential at all, and that one has passed now. Where it was the one that failed, what is left to
check are the usages in buckets that are empty, so the build succeeds (`firstFailure_checks_addFlat`).
-/

namespace RelyingParty.Registration.Builder

/-- The builder with one more credential in its flat set. -/
def addFlat (b : Builder) (c : Credential) : Builder := b.modifyCredentials (·.insert c)

variable {b : Builder} {c : Credential}

/-- **Once sorted, one credential has been appended to the buckets that it declares.** -/
theorem reconciled_addFlat (b : Builder) (c : Credential) :
    (b.addFlat c).reconciled = b.reconciled.extendBuckets (declaring [c]) :=
  reconciled_flatRoute b [c]

theorem members_bucket_reconciled_addFlat (b : Builder) (c : Credential) (u : Usage) :
    ((b.addFlat c).reconciled.bucket u).members
      = if c.hasUsage u = true ∧ c ∉ b.reconciled.bucket u
        then (b.reconciled.bucket u).members ++ [c] else (b.reconciled.bucket u).members := by
  rw [reconciled_addFlat, bucket_extendBuckets]
  by_cases hu : c.hasUsage u = true
  · have hone : declaring [c] u = [c] := by simp [declaring, hu]
    rw [hone, CredentialSet.extend_cons, CredentialSet.extend_nil]
    by_cases hc : c ∈ b.reconciled.bucket u
    · rw [CredentialSet.insert_of_mem hc, if_neg (fun h => h.2 hc)]
    · rw [CredentialSet.members_insert_of_not_mem hc, if_pos ⟨hu, hc⟩]
  · have hnone : declaring [c] u = [] := by simp [declaring, hu]
    rw [hnone, CredentialSet.extend_nil, if_neg (fun h => hu h.1)]

/-- A credential that is wherever it can go changes nothing. -/
theorem reconciled_addFlat_of_mem (h : ∀ u, c.hasUsage u = true → c ∈ b.reconciled.bucket u) :
    (b.addFlat c).reconciled = b.reconciled := by
  rw [reconciled_addFlat]
  refine extendBuckets_of_forall_mem ?_
  intro u d hd
  have hdc : d = c := List.mem_singleton.mp (List.mem_filter.mp hd).1
  rw [hdc]
  exact h u (hdc ▸ hasUsage_of_mem_declaring hd)

/-! ## The checks -/

/-- What is checked before it is asked whether there is any credential. -/
def earlyChecks (b : Builder) : List Check :=
  b.assertingParty.checks ++
  [⟨Text.isBlank b.registrationId, .missingField "registrationId"⟩,
   ⟨Text.isBlank b.entityId, .missingField "entityId"⟩,
   ⟨isMissing b.assertionConsumerServiceLocation,
    .missingField "assertionConsumerServiceLocation"⟩]

/-- What is checked after that. -/
def lateChecks (b : Builder) : List Check :=
  [⟨b.signingCredentials.lacks .signing, .usageMismatch "signingX509Credentials" .signing⟩,
   ⟨b.decryptionCredentials.lacks .decryption,
    .usageMismatch "decryptionX509Credentials" .decryption⟩]

theorem checks_eq (b : Builder) :
    b.checks = b.earlyChecks ++ ⟨b.isBare, .emptyCollection "credentials"⟩ :: b.lateChecks := rfl

/-- No check before it reports what this one reports. -/
theorem firstFailure_early_ne :
    firstFailure b.earlyChecks ≠ some (.emptyCollection "credentials") := by
  intro h
  obtain ⟨k, hk, he⟩ := exists_mem_of_firstFailure h
  have hother : ∀ k ∈ b.earlyChecks, k.error ≠ .emptyCollection "credentials" := by
    simp [earlyChecks, AssertingParty.Builder.checks]
  exact hother k hk he

/-- Nor does one after it. -/
theorem firstFailure_late_ne :
    firstFailure b.lateChecks ≠ some (.emptyCollection "credentials") := by
  intro h
  obtain ⟨k, hk, he⟩ := exists_mem_of_firstFailure h
  have hother : ∀ k ∈ b.lateChecks, k.error ≠ .emptyCollection "credentials" := by
    simp [lateChecks]
  exact hother k hk he

/-- Empty buckets lack nothing. -/
theorem firstFailure_late_of_isBare (h : b.isBare = true) : firstFailure b.lateChecks = none := by
  obtain ⟨hempty, -⟩ := isBare_eq_true_iff.mp h
  have hs : b.signingCredentials.lacks .signing = false :=
    CredentialSet.lacks_eq_false_iff.mpr fun c hc => absurd hc (hempty .signing c)
  have hd : b.decryptionCredentials.lacks .decryption = false :=
    CredentialSet.lacks_eq_false_iff.mpr fun c hc => absurd hc (hempty .decryption c)
  rw [lateChecks, hs, hd]
  rfl

/-- That there is no credential is reported of bare builders only. -/
theorem isBare_of_firstFailure
    (h : firstFailure b.checks = some (.emptyCollection "credentials")) : b.isBare = true := by
  cases hbare : b.isBare with
  | true => rfl
  | false =>
      rw [checks_eq, firstFailure_append, firstFailure_cons, hbare, Option.or_eq_some_iff] at h
      rcases h with h | ⟨-, h⟩
      · exact absurd h firstFailure_early_ne
      · exact absurd h firstFailure_late_ne

theorem isBare_addFlat (b : Builder) (c : Credential) : (b.addFlat c).isBare = false := by
  rw [← Bool.not_eq_true]
  intro h
  obtain ⟨-, hflat⟩ := isBare_eq_true_iff.mp h
  exact hflat c (CredentialSet.mem_insert.mpr (Or.inr rfl))

/-- **One check gives another answer.** -/
theorem firstFailure_checks_addFlat (b : Builder) (c : Credential) :
    firstFailure (b.addFlat c).checks
      = if firstFailure b.checks = some (.emptyCollection "credentials") then none
        else firstFailure b.checks := by
  have hearly : (b.addFlat c).earlyChecks = b.earlyChecks := rfl
  have hlate : (b.addFlat c).lateChecks = b.lateChecks := rfl
  rw [checks_eq, checks_eq, firstFailure_append, firstFailure_append, firstFailure_cons,
    firstFailure_cons, isBare_addFlat, hearly, hlate]
  cases he : firstFailure b.earlyChecks with
  | some e =>
      have hne : e ≠ .emptyCollection "credentials" := fun h => firstFailure_early_ne (h ▸ he)
      simp [hne]
  | none =>
      cases hbare : b.isBare with
      | true => simp [firstFailure_late_of_isBare hbare]
      | false => simp [firstFailure_late_ne]

/-! ## The build -/

/-- A bucket of what is built, before and after. -/
theorem bucket_described_addFlat (b : Builder) (c : Credential) (u : Usage) :
    (b.addFlat c).reconciled.described.bucket u
      = if c.hasUsage u = true ∧ c ∉ b.reconciled.described.bucket u
        then b.reconciled.described.bucket u ++ [c] else b.reconciled.described.bucket u := by
  rw [bucket_described, bucket_described, members_bucket_reconciled_addFlat]
  rfl

theorem bucket_described_of_isBare (h : b.isBare = true) (u : Usage) :
    b.reconciled.described.bucket u = [] := by
  rw [← isBare_reconciled] at h
  obtain ⟨hempty, -⟩ := isBare_eq_true_iff.mp h
  rw [bucket_described]
  exact List.eq_nil_iff_forall_not_mem.mpr (hempty u)

/-- The registration stays as it is just when the credential was wherever it can go. -/
theorem described_addFlat_eq_iff :
    (b.addFlat c).reconciled.described = b.reconciled.described
      ↔ ∀ u, c.hasUsage u = true → c ∈ b.reconciled.described.bucket u := by
  constructor
  · intro h u hu
    have hbucket := bucket_described_addFlat b c u
    by_cases hc : c ∈ b.reconciled.described.bucket u
    · exact hc
    · -- a bucket is not what it was with something at its end
      rw [h, if_pos ⟨hu, hc⟩] at hbucket
      exact absurd (List.self_eq_append_right.mp hbucket) (List.cons_ne_nil c [])
  · intro h
    rw [reconciled_addFlat_of_mem]
    intro u hu
    have hmem := h u hu
    rw [bucket_described] at hmem
    exact hmem

theorem sameValues_described_addFlat (b : Builder) (c : Credential) :
    SameValues b.reconciled.described (b.addFlat c).reconciled.described := by
  constructor <;> rfl

/-- **A credential can always be added to the flat set.** If the builder builds a registration, it
still does, with the same values, and with the credential at the end of each bucket that it declares
and was not in; nothing changes just when it was in all of them. If the builder fails, it fails as
before, unless credentials were all it lacked: then it builds a registration with this one. -/
theorem build_addFlat (b : Builder) (c : Credential) :
    (∀ r, b.build.value = .ok r → ∃ r', (b.addFlat c).build.value = .ok r' ∧ SameValues r r' ∧
      (∀ u, r'.bucket u = if c.hasUsage u = true ∧ c ∉ r.bucket u then r.bucket u ++ [c]
        else r.bucket u) ∧
      (r' = r ↔ ∀ u, c.hasUsage u = true → c ∈ r.bucket u)) ∧
    (∀ e, b.build.value = .error e → e ≠ .emptyCollection "credentials" →
      (b.addFlat c).build.value = .error e) ∧
    (b.build.value = .error (.emptyCollection "credentials") →
      ∃ r', (b.addFlat c).build.value = .ok r' ∧
        ∀ u, r'.bucket u = if c.hasUsage u = true then [c] else []) := by
  have hchecks := firstFailure_checks_addFlat b c
  simp only [build_value_eq, report_eq_ok_iff, report_eq_error_iff]
  refine ⟨?_, ?_, ?_⟩
  · intro r hr
    obtain ⟨hnone, rfl⟩ := hr
    rw [hnone, if_neg nofun] at hchecks
    exact ⟨_, ⟨hchecks, rfl⟩, sameValues_described_addFlat b c, bucket_described_addFlat b c,
      described_addFlat_eq_iff⟩
  · intro e he hne
    rw [he, if_neg fun h => hne (Option.some.inj h)] at hchecks
    exact hchecks
  · intro hbare
    rw [if_pos hbare] at hchecks
    refine ⟨_, ⟨hchecks, rfl⟩, ?_⟩
    intro u
    rw [bucket_described_addFlat, bucket_described_of_isBare (isBare_of_firstFailure hbare)]
    simp

open Specimen in
/-- A credential of two usages that is in neither bucket, one that is in its bucket already, a builder
with a blank id, and one that has no credential. -/
theorem build_addFlat_specimen :
    let blank := builder.setRegistrationId " "
    let bare := builder.modifySigning (fun _ => .empty) |>.modifyAssertingParty
      (·.modifyVerification fun _ => .empty)
    ∃ r, builder.build.value = .ok r ∧
      (∃ r', (builder.addFlat keyPair).build.value = .ok r' ∧ r'.registrationId = r.registrationId ∧
        r'.bucket .signing = [signer, keyPair] ∧ r'.bucket .decryption = [keyPair]) ∧
      (builder.addFlat signer).build.value = .ok r ∧
      (blank.addFlat keyPair).build.value = .error (.missingField "registrationId") ∧
      bare.build.value = .error (.emptyCollection "credentials") ∧
      ∃ r', (bare.addFlat keyPair).build.value = .ok r' ∧ r'.bucket .signing = [keyPair] ∧
        r'.bucket .verification = [] := by
  intro blank bare
  have hok : builder.build.value = .ok builder.reconciled.described := rfl
  have hblank : blank.build.value = .error (.missingField "registrationId") := by
    rw [build_value_eq, report_eq_error_iff]
    decide
  have hbare : bare.build.value = .error (.emptyCollection "credentials") := by
    rw [build_value_eq, report_eq_error_iff]
    decide
  obtain ⟨r₁, hr₁, hsame, hbucket, -⟩ := (build_addFlat builder keyPair).1 _ hok
  obtain ⟨r₂, hr₂, -, -, hiff⟩ := (build_addFlat builder signer).1 _ hok
  obtain ⟨r₃, hr₃, hone⟩ := (build_addFlat bare keyPair).2.2 hbare
  refine ⟨_, hok, ⟨r₁, hr₁, hsame.registrationId, ?_, ?_⟩, ?_,
    (build_addFlat blank keyPair).2.1 _ hblank nofun, hbare, r₃, hr₃, hone .signing,
    hone .verification⟩
  · exact (hbucket .signing).trans (by decide)
  · exact (hbucket .decryption).trans (by decide)
  · rw [hr₂, hiff.mpr]
    intro u hu
    cases u with
    | signing => decide
    | decryption | verification | encryption => exact absurd hu (by decide)

end RelyingParty.Registration.Builder
