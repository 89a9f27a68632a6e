import RelyingParty.Proofs.Check
import RelyingParty.Proofs.Credential.Constructors
import RelyingParty.Proofs.Registration.Bucket

/-!
# What a build returns

A build is a list of checks and a value. The checks look at the builder as it stands, before its
flat set is sorted; the value is read off the builder afterwards. That the two fit together is
the point of this file: sorting puts into a bucket only what declares its usage, so no usage
check changes its answer, and every credential declares some usage, so sorting never makes a
builder with credentials look bare.

`build_value_eq` is the closed form that everything about the results of builds starts from.
-/

namespace RelyingParty.AssertingParty.Builder

/-- What can be wrong with an asserting party, in the order in which it is reported. -/
def checks (b : Builder) : List Check :=
  [⟨isMissing b.entityId, .missingField "entityId"⟩,
   ⟨b.verificationCredentials.lacks .verification,
    .usageMismatch "verificationX509Credentials" .verification⟩,
   ⟨b.encryptionCredentials.lacks .encryption,
    .usageMismatch "encryptionX509Credentials" .encryption⟩,
   ⟨isMissing b.singleSignOnServiceLocation, .missingField "singleSignOnServiceLocation"⟩]

/-- The party with the values of a builder. -/
def described (b : Builder) : AssertingParty where
  entityId := b.entityId.getD ""
  wantsAuthnRequestsSigned := b.wantsAuthnRequestsSigned
  verificationCredentials := b.verificationCredentials.members
  encryptionCredentials := b.encryptionCredentials.members
  singleSignOnServiceLocation := b.singleSignOnServiceLocation.getD ""
  singleSignOnServiceBinding := b.singleSignOnServiceBinding

/-- **The closed form of building a party.** -/
theorem build_eq (b : Builder) : b.build = report b.checks b.described := by
  simp only [build, checks, requireText_bind, requireUsage_bind, report_cons, report_nil]
  rfl

/-- What the checks ask for, taken together. -/
structure Valid (b : Builder) : Prop where
  entityId : isMissing b.entityId = false
  location : isMissing b.singleSignOnServiceLocation = false
  verification : ∀ c ∈ b.verificationCredentials, c.hasUsage .verification = true
  encryption : ∀ c ∈ b.encryptionCredentials, c.hasUsage .encryption = true

theorem firstFailure_checks_eq_none_iff {b : Builder} : firstFailure b.checks = none ↔ b.Valid := by
  rw [firstFailure_eq_none_iff]
  simp only [checks, List.forall_mem_cons, List.not_mem_nil, false_imp_iff, implies_true, and_true,
    CredentialSet.lacks_eq_false_iff]
  constructor
  · intro h
    obtain ⟨he, hv, hn, hl⟩ := h
    exact ⟨he, hl, hv, hn⟩
  · intro h
    exact ⟨h.entityId, h.verification, h.encryption, h.location⟩

theorem build_eq_ok_iff {b : Builder} {p : AssertingParty} :
    b.build = .ok p ↔ b.Valid ∧ b.described = p := by
  rw [build_eq, report_eq_ok_iff, firstFailure_checks_eq_none_iff]

end RelyingParty.AssertingParty.Builder

namespace RelyingParty.Registration.Builder

/-- Whether there is no credential at all, neither in a bucket nor in the flat set. -/
def isBare (b : Builder) : Bool :=
  (Usage.all.all fun u => (b.bucket u).isEmpty) && b.credentials.isEmpty

/-- What can be wrong with a registration, in the order in which it is reported: first whatever
is wrong with its asserting party. -/
def checks (b : Builder) : List Check :=
  b.assertingParty.checks ++
  [⟨Text.isBlank b.registrationId, .missingField "registrationId"⟩,
   ⟨Text.isBlank b.entityId, .missingField "entityId"⟩,
   ⟨isMissing b.assertionConsumerServiceLocation,
    .missingField "assertionConsumerServiceLocation"⟩,
   ⟨b.isBare, .emptyCollection "credentials"⟩,
   ⟨b.signingCredentials.lacks .signing, .usageMismatch "signingX509Credentials" .signing⟩,
   ⟨b.decryptionCredentials.lacks .decryption,
    .usageMismatch "decryptionX509Credentials" .decryption⟩]

/-- The registration with the values of a builder, its flat set aside. -/
def described (b : Builder) : Registration where
  registrationId := b.registrationId
  entityId := b.entityId
  assertionConsumerServiceLocation := b.assertionConsumerServiceLocation.getD ""
  credentials := union b.signingCredentials.members b.decryptionCredentials.members
    b.assertingParty.described
  signingCredentials := b.signingCredentials.members
  decryptionCredentials := b.decryptionCredentials.members
  assertingParty := b.assertingParty.described

theorem bucket_described (b : Builder) (u : Usage) :
    b.described.bucket u = (b.bucket u).members := by
  cases u <;> rfl

theorem isBare_eq_true_iff {b : Builder} :
    b.isBare = true ↔ (∀ u c, c ∉ b.bucket u) ∧ ∀ c, c ∉ b.credentials := by
  simp only [isBare, Bool.and_eq_true, List.all_eq_true, CredentialSet.isEmpty,
    List.isEmpty_iff, List.eq_nil_iff_forall_not_mem, CredentialSet.mem_iff]
  constructor
  · intro h
    exact ⟨fun u => h.1 u u.mem_all, h.2⟩
  · intro h
    exact ⟨fun u _ => h.1 u, h.2⟩

/-- The union of the buckets of a builder without a flat set is empty when it is bare. -/
theorem isEmpty_union {b : Builder} (h : b.credentials = .empty) :
    (union b.signingCredentials.members b.decryptionCredentials.members
      b.assertingParty.described).isEmpty = b.isBare := by
  rw [union, ← CredentialSet.isEmpty, CredentialSet.isEmpty_ofList, Bool.eq_iff_iff]
  simp [isBare, Usage.all, bucket, h, CredentialSet.isEmpty, AssertingParty.Builder.described]

/-- Checking a builder whose flat set has been sorted. -/
theorem validate_eq {b : Builder} (h : b.credentials = .empty) :
    b.validate = report b.checks b.described := by
  rw [validate, AssertingParty.Builder.build_eq, checks]
  refine report_bind ?_
  simp only [requireText_bind, requireUsage_bind, report_cons, report_nil, isEmpty_union h]
  rfl

/-- **Sorting hides no credential**, since each of them declares some usage. -/
theorem isBare_reconciled (b : Builder) : b.reconciled.isBare = b.isBare := by
  rw [Bool.eq_iff_iff, isBare_eq_true_iff, isBare_eq_true_iff]
  simp only [bucket_reconciled, credentials_reconciled, CredentialSet.mem_extend]
  constructor
  · intro h
    obtain ⟨hb, -⟩ := h
    refine ⟨fun u c hc => hb u c (Or.inl hc), ?_⟩
    intro c hc
    obtain ⟨u, hu⟩ := c.exists_hasUsage
    exact hb u c (Or.inr (List.mem_filter.mpr ⟨hc, hu⟩))
  · intro h
    obtain ⟨hb, hf⟩ := h
    refine ⟨?_, fun c hc => absurd hc List.not_mem_nil⟩
    intro u c hc
    rcases hc with hc | hc
    · exact hb u c hc
    · exact hf c (List.mem_filter.mp hc).1

/-- **Sorting settles no check.** What holds up the sorted builder holds up the builder. -/
theorem checks_reconciled (b : Builder) : b.reconciled.checks = b.checks := by
  have hl : ∀ u, (b.reconciled.bucket u).lacks u = (b.bucket u).lacks u := by
    intro u
    rw [bucket_reconciled]
    exact CredentialSet.lacks_extend fun c hc => hasUsage_of_mem_declaring hc
  have hs : b.reconciled.signingCredentials.lacks .signing = b.signingCredentials.lacks .signing :=
    hl .signing
  have hd : b.reconciled.decryptionCredentials.lacks .decryption
      = b.decryptionCredentials.lacks .decryption := hl .decryption
  have hv : b.reconciled.assertingParty.verificationCredentials.lacks .verification
      = b.assertingParty.verificationCredentials.lacks .verification := hl .verification
  have he : b.reconciled.assertingParty.encryptionCredentials.lacks .encryption
      = b.assertingParty.encryptionCredentials.lacks .encryption := hl .encryption
  simp only [checks, AssertingParty.Builder.checks, isBare_reconciled, hs, hd, hv, he]
  rfl

/-- **The closed form of a build's result.** -/
theorem build_value_eq (b : Builder) :
    b.build.value = report b.checks b.reconciled.described := by
  rw [← checks_reconciled]
  exact validate_eq (credentials_reconciled b)

/-- Sorting beforehand makes no difference to the result. -/
theorem build_reconciled_value (b : Builder) : b.reconciled.build.value = b.build.value := by
  show b.reconciled.reconciled.validate = b.reconciled.validate
  rw [reconciled_reconciled]

/-- What the checks ask for, taken together. -/
structure Valid (b : Builder) : Prop where
  party : b.assertingParty.Valid
  registrationId : Text.isBlank b.registrationId = false
  entityId : Text.isBlank b.entityId = false
  location : isMissing b.assertionConsumerServiceLocation = false
  /-- There is some credential. -/
  notBare : b.isBare = false
  signing : ∀ c ∈ b.signingCredentials, c.hasUsage .signing = true
  decryption : ∀ c ∈ b.decryptionCredentials, c.hasUsage .decryption = true

/-- Every credential of a valid builder declares the usage of its bucket. -/
theorem Valid.usages {b : Builder} (h : b.Valid) (u : Usage) :
    ∀ c ∈ b.bucket u, c.hasUsage u = true := by
  cases u with
  | signing => exact h.signing
  | decryption => exact h.decryption
  | verification => exact h.party.verification
  | encryption => exact h.party.encryption

theorem firstFailure_checks_eq_none_iff {b : Builder} : firstFailure b.checks = none ↔ b.Valid := by
  rw [firstFailure_eq_none_iff, checks, List.forall_mem_append, ← firstFailure_eq_none_iff,
    AssertingParty.Builder.firstFailure_checks_eq_none_iff]
  simp only [List.forall_mem_cons, List.not_mem_nil, false_imp_iff, implies_true, and_true,
    CredentialSet.lacks_eq_false_iff]
  constructor
  · intro h
    obtain ⟨hp, hid, he, hl, hb, hs, hd⟩ := h
    exact ⟨hp, hid, he, hl, hb, hs, hd⟩
  · intro h
    exact ⟨h.party, h.registrationId, h.entityId, h.location, h.notBare, h.signing, h.decryption⟩

/-- Sorting the flat set makes no builder valid and no builder invalid. -/
theorem valid_reconciled_iff {b : Builder} : b.reconciled.Valid ↔ b.Valid := by
  rw [← firstFailure_checks_eq_none_iff, checks_reconciled, firstFailure_checks_eq_none_iff]

theorem build_value_eq_ok_iff {b : Builder} {r : Registration} :
    b.build.value = .ok r ↔ b.Valid ∧ b.reconciled.described = r := by
  rw [build_value_eq, report_eq_ok_iff, firstFailure_checks_eq_none_iff]

/-- **The first failure decides.** A build accepts exactly the builders that pass every check and
reports the first that fails of any other. The checks are made on the sets as they stand,
whatever the flat set will add to them. -/
theorem build_reports_first_failure (b : Builder) :
    (∀ e, b.build.value = .error e ↔ firstFailure b.checks = some e) ∧
      ((∃ r, b.build.value = .ok r) ↔ ∀ c ∈ b.checks, c.fails = false) := by
  rw [build_value_eq]
  refine ⟨fun e => report_eq_error_iff, ?_⟩
  rw [← firstFailure_eq_none_iff]
  constructor
  · intro hok
    obtain ⟨r, hr⟩ := hok
    exact (report_eq_ok_iff.mp hr).1
  · intro hnone
    exact ⟨_, report_eq_ok_iff.mpr ⟨hnone, rfl⟩⟩

/-- Everything is wrong with this builder; the party's entity id comes first. -/
example : (ofId " ").build.value = .error (.missingField "entityId") := rfl

end RelyingParty.Registration.Builder
