import RelyingParty.Proofs.Registration.Soundness

/-!
# Copying a registration through the flat set

There is an older way to copy a registration: take the list of all its credentials and put them into
the flat set of a new builder. The list goes through the buckets one after the other, so a credential
of two usages comes before those that share its second usage alone, and when the copy is sorted it
stands before them in the second bucket too. What cannot happen is that a credential gets lost.

The order in which a flat set comes out of this is `regrouped`. The buckets that come first for their
party keep their order, the other two keep their members, and what has been regrouped stays as it is
when it is regrouped again (`regrouped_regrouped`): from the first copy on, copies are equal.
-/

namespace RelyingParty.Registration

/-- The members of a flat set in the order in which its sorted buckets list them. -/
def regrouped (flat : CredentialSet) : CredentialSet :=
  .ofList (declaring flat.members .signing ++ declaring flat.members .decryption
    ++ declaring flat.members .verification ++ declaring flat.members .encryption)

/-- No credential that serves one party is chosen for the other. -/
theorem declaring_other_party {u v : Usage} (h : u.needsKey ≠ v.needsKey) (xs : List Credential) :
    declaring (declaring xs u) v = [] := by
  refine List.filter_eq_nil_iff.mpr ?_
  intro c hc hv
  exact h (Credential.needsKey_eq_of_hasUsage (hasUsage_of_mem_declaring hc) hv)

theorem nodup_declaring (s : CredentialSet) (u : Usage) : (declaring s.members u).Nodup :=
  s.nodup.filter _

theorem mem_declaring {xs : List Credential} {u : Usage} {c : Credential} :
    c ∈ declaring xs u ↔ c ∈ xs ∧ c.hasUsage u = true := List.mem_filter

variable {flat : CredentialSet}

/-- **Nothing is lost.** -/
theorem mem_regrouped {c : Credential} : c ∈ regrouped flat ↔ c ∈ flat := by
  rw [regrouped, CredentialSet.mem_ofList]
  simp only [List.mem_append, mem_declaring]
  constructor
  · rintro (((⟨h, -⟩ | ⟨h, -⟩) | ⟨h, -⟩) | ⟨h, -⟩) <;> exact h
  · intro h
    obtain ⟨u, hu⟩ := c.exists_hasUsage
    cases u with
    | signing => exact Or.inl (Or.inl (Or.inl ⟨h, hu⟩))
    | decryption => exact Or.inl (Or.inl (Or.inr ⟨h, hu⟩))
    | verification => exact Or.inl (Or.inr ⟨h, hu⟩)
    | encryption => exact Or.inr ⟨h, hu⟩

/-- What is chosen for a usage has the same members, perhaps in another order. -/
theorem perm_declaring_regrouped (flat : CredentialSet) (u : Usage) :
    (declaring (regrouped flat).members u).Perm (declaring flat.members u) := by
  refine (List.perm_ext_iff_of_nodup (nodup_declaring _ u) (nodup_declaring _ u)).mpr ?_
  intro c
  rw [mem_declaring, mem_declaring, ← CredentialSet.mem_iff, ← CredentialSet.mem_iff,
    mem_regrouped]

theorem declaring_regrouped (flat : CredentialSet) (u : Usage) :
    declaring (regrouped flat).members u = (CredentialSet.ofList
      (declaring (declaring flat.members .signing) u
        ++ declaring (declaring flat.members .decryption) u
        ++ declaring (declaring flat.members .verification) u
        ++ declaring (declaring flat.members .encryption) u)).members := by
  rw [← declaring_append, ← declaring_append, ← declaring_append]
  exact CredentialSet.filter_members_ofList _ _

/-- A list without repetitions is not changed by some of its elements after it. -/
theorem members_ofList_append {xs ys : List Credential} (hxs : xs.Nodup) (h : ∀ c ∈ ys, c ∈ xs) :
    (CredentialSet.ofList (xs ++ ys)).members = xs := by
  rw [CredentialSet.ofList_append, CredentialSet.extend_of_forall_mem
    (fun c hc => CredentialSet.mem_ofList.mpr (h c hc))]
  exact CredentialSet.members_ofList_of_nodup hxs

/-- **Signing credentials stay in order,** since they are listed first. -/
theorem declaring_regrouped_signing (flat : CredentialSet) :
    declaring (regrouped flat).members .signing = declaring flat.members .signing := by
  rw [declaring_regrouped, declaring_declaring,
    declaring_other_party (u := .verification) (by decide),
    declaring_other_party (u := .encryption) (by decide), List.append_nil, List.append_nil]
  refine members_ofList_append (nodup_declaring flat _) ?_
  intro c hc
  obtain ⟨hd, hs⟩ := mem_declaring.mp hc
  exact mem_declaring.mpr ⟨(mem_declaring.mp hd).1, hs⟩

/-- **So do verification credentials,** the first of their party. -/
theorem declaring_regrouped_verification (flat : CredentialSet) :
    declaring (regrouped flat).members .verification = declaring flat.members .verification := by
  rw [declaring_regrouped, declaring_declaring,
    declaring_other_party (u := .signing) (by decide),
    declaring_other_party (u := .decryption) (by decide), List.nil_append, List.nil_append]
  refine members_ofList_append (nodup_declaring flat _) ?_
  intro c hc
  obtain ⟨he, hv⟩ := mem_declaring.mp hc
  exact mem_declaring.mpr ⟨(mem_declaring.mp he).1, hv⟩

/-- Decryption credentials that also sign come first now. -/
theorem declaring_regrouped_decryption (flat : CredentialSet) :
    declaring (regrouped flat).members .decryption = (CredentialSet.ofList
      (declaring (declaring flat.members .signing) .decryption
        ++ declaring flat.members .decryption)).members := by
  rw [declaring_regrouped, declaring_declaring,
    declaring_other_party (u := .verification) (by decide),
    declaring_other_party (u := .encryption) (by decide), List.append_nil, List.append_nil]

/-- Encryption credentials that also verify come first now. -/
theorem declaring_regrouped_encryption (flat : CredentialSet) :
    declaring (regrouped flat).members .encryption = (CredentialSet.ofList
      (declaring (declaring flat.members .verification) .encryption
        ++ declaring flat.members .encryption)).members := by
  rw [declaring_regrouped, declaring_declaring,
    declaring_other_party (u := .signing) (by decide),
    declaring_other_party (u := .decryption) (by decide), List.nil_append, List.nil_append]

/-- **Regrouping again changes nothing.** The credentials that have moved to the front of their
bucket are listed with another bucket before it. -/
theorem regrouped_regrouped (flat : CredentialSet) :
    regrouped (regrouped flat) = regrouped flat := by
  have hd : ∀ c ∈ declaring (declaring flat.members .signing) .decryption,
      c ∈ declaring flat.members .signing := by
    intro c hc
    exact (mem_declaring.mp hc).1
  have he : ∀ c ∈ declaring (declaring flat.members .verification) .encryption,
      c ∈ declaring flat.members .signing ++ (CredentialSet.ofList
          (declaring (declaring flat.members .signing) .decryption
            ++ declaring flat.members .decryption)).members
        ++ declaring flat.members .verification := by
    intro c hc
    exact List.mem_append_right _ (mem_declaring.mp hc).1
  rw [regrouped, declaring_regrouped_signing, declaring_regrouped_decryption,
    declaring_regrouped_verification, declaring_regrouped_encryption,
    CredentialSet.ofList_append_ofList he, CredentialSet.ofList_append, CredentialSet.ofList_append,
    CredentialSet.ofList_append_ofList hd, ← CredentialSet.ofList_append,
    ← CredentialSet.ofList_append, regrouped]

/-! ## Registrations from a flat set alone -/

/-- The builder that copies a registration: its values, no buckets, and all its credentials in the
flat set. -/
def flatCopy (r : Registration) : Builder where
  registrationId := r.registrationId
  entityId := r.entityId
  assertionConsumerServiceLocation := some r.assertionConsumerServiceLocation
  assertingParty :=
    { entityId := some r.assertingParty.entityId
      wantsAuthnRequestsSigned := r.assertingParty.wantsAuthnRequestsSigned
      singleSignOnServiceLocation := some r.assertingParty.singleSignOnServiceLocation
      singleSignOnServiceBinding := r.assertingParty.singleSignOnServiceBinding }
  credentials := .ofList r.credentials

/-- Copies are told apart by values and credentials. -/
theorem flatCopy_congr {r r' : Registration} (hvalues : SameValues r r')
    (hcredentials : r'.credentials = r.credentials) : r'.flatCopy = r.flatCopy := by
  simp only [flatCopy, hvalues.registrationId, hvalues.entityId, hvalues.location,
    hvalues.partyEntityId, hvalues.partyLocation, hvalues.signed, hvalues.binding, hcredentials]

theorem bucket_flatCopy (r : Registration) (u : Usage) : r.flatCopy.bucket u = .empty := by
  cases u <;> rfl

namespace Builder

variable {b : Builder}

/-- Without buckets of its own, a builder is sorted into what its flat set declares. -/
theorem bucket_described_of_empty (h : ∀ u, b.bucket u = .empty) (u : Usage) :
    b.reconciled.described.bucket u = declaring b.credentials.members u := by
  rw [bucket_described, bucket_reconciled, h]
  exact CredentialSet.members_ofList_of_nodup (nodup_declaring b.credentials u)

theorem credentials_described_of_empty (h : ∀ u, b.bucket u = .empty) :
    b.reconciled.described.credentials = (regrouped b.credentials).members := by
  have hunion : b.reconciled.described.credentials = (CredentialSet.ofList
      (b.reconciled.described.bucket .signing ++ b.reconciled.described.bucket .decryption
        ++ b.reconciled.described.bucket .verification
        ++ b.reconciled.described.bucket .encryption)).members := rfl
  rw [hunion]
  simp only [bucket_described_of_empty h, regrouped]

/-- A copy of what comes of a flat set has that flat set, regrouped. -/
theorem credentials_flatCopy_described (h : ∀ u, b.bucket u = .empty) :
    b.reconciled.described.flatCopy.credentials = regrouped b.credentials := by
  rw [flatCopy, credentials_described_of_empty h]
  exact CredentialSet.ofList_members _

theorem sameValues_flatCopy (r : Registration) : SameValues r r.flatCopy.reconciled.described := by
  constructor <;> rfl

end Builder

/-- **A sound registration can be copied.** -/
theorem Sound.valid_flatCopy {r : Registration} (h : r.Sound) : r.flatCopy.Valid where
  party :=
    { entityId := h.partyEntityId_visible
      location := h.partyLocation_visible
      verification := by simp [flatCopy, CredentialSet.mem_iff]
      encryption := by simp [flatCopy, CredentialSet.mem_iff] }
  registrationId := h.registrationId_visible
  entityId := h.entityId_visible
  location := h.location_visible
  notBare := by
    rw [← Bool.not_eq_true, Builder.isBare_eq_true_iff]
    intro hbare
    obtain ⟨c, hc⟩ := List.exists_mem_of_ne_nil _ h.credentials_ne_nil
    exact hbare.2 c (CredentialSet.mem_ofList.mpr hc)
  signing := by simp [flatCopy, CredentialSet.mem_iff]
  decryption := by simp [flatCopy, CredentialSet.mem_iff]

/-- **Copies settle.** A registration built of a flat set alone can be copied, and the copy has its
values, its list of credentials and its signing and verification buckets. The other two buckets have
the same members, perhaps in another order. A copy of the copy is the copy itself. -/
theorem flatCopy_settles (b : Builder) (r : Registration) (hb : ∀ u, b.bucket u = .empty)
    (hr : b.build.value = .ok r) :
    ∃ r', r.flatCopy.build.value = .ok r' ∧ SameValues r r' ∧ r'.credentials = r.credentials ∧
      r'.bucket .signing = r.bucket .signing ∧ r'.bucket .verification = r.bucket .verification ∧
      (r'.bucket .decryption).Perm (r.bucket .decryption) ∧
      (r'.bucket .encryption).Perm (r.bucket .encryption) ∧
      r'.flatCopy.build.value = .ok r' := by
  have hvalid := (Builder.sound_of_build hr).valid_flatCopy
  obtain ⟨-, rfl⟩ := Builder.build_value_eq_ok_iff.mp hr
  have hcopy := Builder.build_value_eq_ok_iff.mpr ⟨hvalid, rfl⟩
  have hvalues := Builder.sameValues_flatCopy b.reconciled.described
  have hflat := Builder.credentials_flatCopy_described hb
  have hempty := bucket_flatCopy b.reconciled.described
  have hcredentials : b.reconciled.described.flatCopy.reconciled.described.credentials
      = b.reconciled.described.credentials := by
    rw [Builder.credentials_described_of_empty hempty, Builder.credentials_described_of_empty hb,
      hflat, regrouped_regrouped]
  have hbefore := Builder.bucket_described_of_empty hb
  have hafter : ∀ u, b.reconciled.described.flatCopy.reconciled.described.bucket u
      = declaring (regrouped b.credentials).members u := by
    intro u
    rw [Builder.bucket_described_of_empty hempty, hflat]
  refine ⟨_, hcopy, hvalues, hcredentials, ?_, ?_, ?_, ?_, ?_⟩
  · rw [hafter, hbefore, declaring_regrouped_signing]
  · rw [hafter, hbefore, declaring_regrouped_verification]
  · rw [hafter, hbefore]
    exact perm_declaring_regrouped b.credentials .decryption
  · rw [hafter, hbefore]
    exact perm_declaring_regrouped b.credentials .encryption
  · rw [flatCopy_congr hvalues hcredentials]
    exact hcopy

open Specimen in
/-- A credential that also signs comes before one that only decrypts from the first copy on. -/
theorem flatCopy_settles_specimen :
    let b : Builder :=
      { builder with
        signingCredentials := .empty
        assertingParty := { partyBuilder with verificationCredentials := .empty }
        credentials := .ofList [decrypter, keyPair, verifier] }
    (∀ u, b.bucket u = .empty) ∧
      ∃ r r', b.build.value = .ok r ∧ r.flatCopy.build.value = .ok r' ∧
        r.bucket .decryption = [decrypter, keyPair] ∧
        r'.bucket .decryption = [keyPair, decrypter] ∧
        r'.bucket .signing = r.bucket .signing ∧
        r.credentials = [keyPair, decrypter, verifier] ∧ r'.credentials = r.credentials ∧
        r'.flatCopy.build.value = .ok r' := by
  intro b
  have hb : ∀ u, b.bucket u = .empty := by
    intro u
    cases u <;> rfl
  have hok : b.build.value = .ok b.reconciled.described :=
    Builder.build_value_eq_ok_iff.mpr
      ⟨Builder.firstFailure_checks_eq_none_iff.mp (by decide), rfl⟩
  obtain ⟨r', hcopy, -, hcredentials, hsigning, -, -, -, hagain⟩ := flatCopy_settles b _ hb hok
  obtain ⟨-, hr'⟩ := Builder.build_value_eq_ok_iff.mp hcopy
  refine ⟨hb, _, r', hok, hcopy, by decide, ?_, hsigning, by decide, hcredentials, hagain⟩
  rw [← hr']
  decide

end RelyingParty.Registration
