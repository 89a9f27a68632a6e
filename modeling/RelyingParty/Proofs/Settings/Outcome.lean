import RelyingParty.Proofs.Registration.Outcome
import RelyingParty.Proofs.Settings.Resolution

/-!
# What settings build into

Once every credential entry has resolved, a build from settings is a function of the settings'
texts and of five lists of credentials. This file gives it in closed form: the checks that are
made, read off the settings (`checks`), and the registration that passes them, field by field
(`Describes`). A text is used as it is configured, and a default stands in only for a value that
is absent; one that is present and blank is refused.
-/

namespace RelyingParty

/-- What the credential entries of a registration resolve to, list by list. -/
structure RelyingPartySettings.Resolution where
  signing : List Credential
  decryption : List Credential
  flat : List Credential
  verification : List Credential
  encryption : List Credential

namespace CredentialSettings

theorem resolveAll_eq_ok {w : World} {id field : String} {cs : List CredentialSettings}
    {xs : List Credential} (h : cs.map (·.resolve w id field) = xs.map .ok) :
    resolveAll w id field cs = .ok xs := by
  induction cs generalizing xs with
  | nil =>
      rw [List.map_nil, eq_comm, List.map_eq_nil_iff] at h
      rw [h]
      rfl
  | cons c cs ih =>
      obtain ⟨x, xs, rfl, hx, hxs⟩ := List.map_eq_cons_iff.mp h.symm
      have hc : c.resolve w id field = .ok x := hx.symm
      rw [resolveAll, hc, ih hxs.symm]
      rfl

theorem resolveAll_eq_ok_iff {w : World} {id field : String} {cs : List CredentialSettings}
    {xs : List Credential} :
    resolveAll w id field cs = .ok xs ↔ cs.map (·.resolve w id field) = xs.map .ok := by
  refine ⟨?_, resolveAll_eq_ok⟩
  induction cs generalizing xs with
  | nil =>
      intro h
      cases h
      rfl
  | cons c cs ih =>
      intro h
      obtain ⟨x, hc, hrest⟩ := bind_eq_ok h
      obtain ⟨ys, hcs, hxs⟩ := bind_eq_ok hrest
      cases hxs
      rw [List.map_cons, List.map_cons, hc, ih hcs]

end CredentialSettings

namespace RelyingPartySettings

variable {w : World} {s : RelyingPartySettings} {R : Resolution}

namespace Resolution

/-- The credentials of the list for one usage. -/
def typed (R : Resolution) : Usage → List Credential
  | .signing => R.signing
  | .decryption => R.decryption
  | .verification => R.verification
  | .encryption => R.encryption

/-- What ends up in the bucket for a usage: the list for it, then the credentials of the flat list
that declare it, each at its first occurrence. -/
def bucket (R : Resolution) (u : Usage) : List Credential :=
  (R.typed u ++ Registration.declaring R.flat u).eraseDups

/-- Whether there is no credential at all. -/
def isEmpty (R : Resolution) : Bool :=
  R.signing.isEmpty && R.decryption.isEmpty && R.verification.isEmpty && R.encryption.isEmpty
    && R.flat.isEmpty

end Resolution

/-- Every credential entry resolves, and these are the credentials. -/
structure ResolvesTo (w : World) (s : RelyingPartySettings) (R : Resolution) : Prop where
  signing : s.signingCredentials.map (·.resolve w s.registrationId "signingX509Credentials")
    = R.signing.map .ok
  decryption : s.decryptionCredentials.map
    (·.resolve w s.registrationId "decryptionX509Credentials") = R.decryption.map .ok
  flat : s.credentials.map (·.resolve w s.registrationId "credentials") = R.flat.map .ok
  verification : s.assertingParty.verificationCredentials.map
    (·.resolve w s.registrationId "verificationX509Credentials") = R.verification.map .ok
  encryption : s.assertingParty.encryptionCredentials.map
    (·.resolve w s.registrationId "encryptionX509Credentials") = R.encryption.map .ok

/-- The builder that settings fill with their texts and with these credentials. -/
def filled (s : RelyingPartySettings) (R : Resolution) : Registration.Builder :=
  s.fill R.signing R.decryption R.flat (s.assertingParty.fill R.verification R.encryption)

theorem ResolvesTo.toBuilder_eq (h : s.ResolvesTo w R) : s.toBuilder w = .ok (s.filled R) := by
  have hparty : s.assertingParty.toBuilder w s.registrationId
      = .ok (s.assertingParty.fill R.verification R.encryption) := by
    rw [AssertingPartySettings.toBuilder, CredentialSettings.resolveAll_eq_ok h.verification,
      CredentialSettings.resolveAll_eq_ok h.encryption]
    rfl
  rw [toBuilder, CredentialSettings.resolveAll_eq_ok h.signing,
    CredentialSettings.resolveAll_eq_ok h.decryption, CredentialSettings.resolveAll_eq_ok h.flat,
    hparty]
  rfl

/-- A builder comes only of settings whose entries resolve. -/
theorem exists_resolvesTo {b : Registration.Builder} (h : s.toBuilder w = .ok b) :
    ∃ R, s.ResolvesTo w R ∧ s.filled R = b := by
  obtain ⟨signing, hsigning, h⟩ := bind_eq_ok h
  obtain ⟨decryption, hdecryption, h⟩ := bind_eq_ok h
  obtain ⟨flat, hflat, h⟩ := bind_eq_ok h
  obtain ⟨party, hparty, h⟩ := bind_eq_ok h
  obtain ⟨verification, hverification, hparty⟩ := bind_eq_ok hparty
  obtain ⟨encryption, hencryption, hparty⟩ := bind_eq_ok hparty
  cases hparty
  cases h
  refine ⟨⟨signing, decryption, flat, verification, encryption⟩, ?_, rfl⟩
  constructor
  · exact CredentialSettings.resolveAll_eq_ok_iff.mp hsigning
  · exact CredentialSettings.resolveAll_eq_ok_iff.mp hdecryption
  · exact CredentialSettings.resolveAll_eq_ok_iff.mp hflat
  · exact CredentialSettings.resolveAll_eq_ok_iff.mp hverification
  · exact CredentialSettings.resolveAll_eq_ok_iff.mp hencryption

/-- The party's builder, field by field: only what is absent is left at its default. -/
theorem party_fill_eq (p : AssertingPartySettings) (verification encryption : List Credential) :
    p.fill verification encryption =
      { entityId := p.entityId
        wantsAuthnRequestsSigned := p.wantsAuthnRequestsSigned.getD true
        verificationCredentials := .ofList verification
        encryptionCredentials := .ofList encryption
        singleSignOnServiceLocation := p.singleSignOnServiceLocation
        singleSignOnServiceBinding := p.singleSignOnServiceBinding.getD .redirect } := by
  obtain ⟨entityId, signed, _, _, location, binding⟩ := p
  cases entityId <;> cases signed <;> cases location <;> cases binding <;> rfl

/-- The builder, field by field: only what is absent is left at its default. -/
theorem filled_eq (s : RelyingPartySettings) (R : Resolution) :
    s.filled R =
      { registrationId := s.registrationId
        entityId := s.entityId.getD Registration.defaultEntityIdTemplate
        assertionConsumerServiceLocation := s.assertionConsumerServiceLocation
        assertingParty := s.assertingParty.fill R.verification R.encryption
        credentials := .ofList R.flat
        signingCredentials := .ofList R.signing
        decryptionCredentials := .ofList R.decryption } := by
  obtain ⟨id, entityId, location, _, _, _, party⟩ := s
  cases entityId <;> cases location <;> rfl

/-- Whether some credential of a list lacks a usage. -/
def lacking (cs : List Credential) (u : Usage) : Bool := cs.any fun c => !c.hasUsage u

/-- What can be wrong with settings whose entries resolve, in the order in which it is reported. -/
def checks (s : RelyingPartySettings) (R : Resolution) : List Check :=
  [⟨isMissing s.assertingParty.entityId, .missingField "entityId"⟩,
   ⟨lacking R.verification .verification,
    .usageMismatch "verificationX509Credentials" .verification⟩,
   ⟨lacking R.encryption .encryption, .usageMismatch "encryptionX509Credentials" .encryption⟩,
   ⟨isMissing s.assertingParty.singleSignOnServiceLocation,
    .missingField "singleSignOnServiceLocation"⟩,
   ⟨Text.isBlank s.registrationId, .missingField "registrationId"⟩,
   ⟨s.entityId.any Text.isBlank, .missingField "entityId"⟩,
   ⟨isMissing s.assertionConsumerServiceLocation,
    .missingField "assertionConsumerServiceLocation"⟩,
   ⟨R.isEmpty, .emptyCollection "credentials"⟩,
   ⟨lacking R.signing .signing, .usageMismatch "signingX509Credentials" .signing⟩,
   ⟨lacking R.decryption .decryption, .usageMismatch "decryptionX509Credentials" .decryption⟩]

theorem lacks_ofList (cs : List Credential) (u : Usage) :
    (CredentialSet.ofList cs).lacks u = lacking cs u := by
  rw [Bool.eq_iff_iff, CredentialSet.lacks_eq_true_iff]
  simp [lacking, CredentialSet.mem_ofList]

/-- **The checks of a build are those of the settings.** The default entity id always passes. -/
theorem checks_filled (s : RelyingPartySettings) (R : Resolution) :
    (s.filled R).checks = s.checks R := by
  have hentity : Text.isBlank (s.entityId.getD Registration.defaultEntityIdTemplate)
      = s.entityId.any Text.isBlank := by
    cases s.entityId with
    | none => decide
    | some text => rfl
  -- the sets drop repetitions, but none of them is empty unless its list is
  have hbare : (s.filled R).isBare = R.isEmpty := by
    rw [filled_eq, party_fill_eq]
    simp [Registration.Builder.isBare, Usage.all, Registration.Builder.bucket,
      CredentialSet.isEmpty_ofList, Resolution.isEmpty, Bool.and_assoc]
  rw [Registration.Builder.checks, hbare, filled_eq, party_fill_eq]
  simp only [AssertingParty.Builder.checks, lacks_ofList, hentity]
  rfl

theorem valid_filled_iff : (s.filled R).Valid ↔ firstFailure (s.checks R) = none := by
  rw [← Registration.Builder.firstFailure_checks_eq_none_iff, checks_filled]

/-- A bucket that is filled from a list takes in the flat set as if both lists were one. -/
theorem extend_declaring_ofList (xs flat : List Credential) (u : Usage) :
    (CredentialSet.ofList xs).extend (Registration.declaring (CredentialSet.ofList flat).members u)
      = .ofList (xs ++ Registration.declaring flat u) := by
  rw [CredentialSet.ofList_append]
  exact CredentialSet.extend_filter_extend (.ofList xs) .empty flat (fun c => c.hasUsage u)

/-- **The bucket for a usage**, once the flat set has been sorted. -/
theorem members_bucket_filled (s : RelyingPartySettings) (R : Resolution) (u : Usage) :
    ((s.filled R).reconciled.bucket u).members = R.bucket u := by
  have hbucket : (s.filled R).bucket u = .ofList (R.typed u) := by
    rw [filled_eq, party_fill_eq]
    cases u <;> rfl
  have hflat : (s.filled R).credentials = .ofList R.flat := by
    rw [filled_eq]
  rw [Registration.Builder.bucket_reconciled, hbucket, hflat, extend_declaring_ofList,
    CredentialSet.members_ofList, Resolution.bucket]

/-- The registration that settings describe once their entries have resolved. -/
structure Describes (s : RelyingPartySettings) (R : Resolution) (r : Registration) : Prop where
  registrationId : r.registrationId = s.registrationId
  /-- A configured entity id is used as it is, and it is not blank. -/
  entityId_given : ∀ text, s.entityId = some text →
    r.entityId = text ∧ Text.isBlank text = false
  /-- The template stands in for an entity id that is absent. -/
  entityId_absent : s.entityId = none → r.entityId = Registration.defaultEntityIdTemplate
  location : s.assertionConsumerServiceLocation = some r.assertionConsumerServiceLocation
  bucket : ∀ u, r.bucket u = R.bucket u
  /-- All buckets together, each credential once. -/
  credentials : r.credentials = (R.bucket .signing ++ R.bucket .decryption
    ++ R.bucket .verification ++ R.bucket .encryption).eraseDups
  partyEntityId : s.assertingParty.entityId = some r.assertingParty.entityId
  partyLocation : s.assertingParty.singleSignOnServiceLocation
    = some r.assertingParty.singleSignOnServiceLocation
  /-- Requests are signed unless the settings say otherwise. -/
  signed : r.assertingParty.wantsAuthnRequestsSigned
    = s.assertingParty.wantsAuthnRequestsSigned.getD true
  /-- The redirect binding is used unless the settings name another. -/
  binding : r.assertingParty.singleSignOnServiceBinding
    = s.assertingParty.singleSignOnServiceBinding.getD .redirect

/-- A required text that is not missing is there. -/
theorem eq_some_getD {value : Option String} (h : isMissing value = false) :
    value = some (value.getD "") := by
  obtain ⟨text, rfl, -⟩ := isMissing_eq_false_iff.mp h
  rfl

theorem describes_of_passed (h : firstFailure (s.checks R) = none) :
    s.Describes R (s.filled R).reconciled.described := by
  have hvalid : (s.filled R).Valid := valid_filled_iff.mpr h
  have hentity : (s.filled R).entityId = s.entityId.getD Registration.defaultEntityIdTemplate := by
    rw [filled_eq]
  have hlocation : (s.filled R).assertionConsumerServiceLocation
      = s.assertionConsumerServiceLocation := by
    rw [filled_eq]
  have hparty : (s.filled R).assertingParty
      = s.assertingParty.fill R.verification R.encryption := by
    rw [filled_eq]
  have hpartyEntity : (s.filled R).assertingParty.entityId = s.assertingParty.entityId := by
    rw [hparty, party_fill_eq]
  have hpartyLocation : (s.filled R).assertingParty.singleSignOnServiceLocation
      = s.assertingParty.singleSignOnServiceLocation := by
    rw [hparty, party_fill_eq]
  refine
    { registrationId := ?_, entityId_given := ?_, entityId_absent := ?_, location := ?_,
      bucket := ?_, credentials := ?_, partyEntityId := ?_, partyLocation := ?_, signed := ?_,
      binding := ?_ }
  · show (s.filled R).registrationId = s.registrationId
    rw [filled_eq]
  · -- the check looks at the configured text, so a blank one has not passed
    intro text htext
    have hvisible := hvalid.entityId
    rw [hentity, htext] at hvisible
    refine ⟨?_, hvisible⟩
    show (s.filled R).entityId = text
    rw [hentity, htext]
    rfl
  · intro hnone
    show (s.filled R).entityId = _
    rw [hentity, hnone]
    rfl
  · rw [← hlocation]
    exact eq_some_getD hvalid.location
  · intro u
    rw [Registration.Builder.bucket_described, members_bucket_filled]
  · simp only [← members_bucket_filled s R, ← CredentialSet.members_ofList]
    rfl
  · rw [← hpartyEntity]
    exact eq_some_getD hvalid.party.entityId
  · rw [← hpartyLocation]
    exact eq_some_getD hvalid.party.location
  · show (s.filled R).assertingParty.wantsAuthnRequestsSigned = _
    rw [hparty, party_fill_eq]
  · show (s.filled R).assertingParty.singleSignOnServiceBinding = _
    rw [hparty, party_fill_eq]

/-- A build from settings whose entries resolve is the build of the builder they fill. -/
theorem ResolvesTo.build_value (h : s.ResolvesTo w R) :
    (s.build w).value
      = (s.filled R).build.value.mapError (.configuration s.registrationId) := by
  rw [build, h.toBuilder_eq]

/-- And so are its records. -/
theorem ResolvesTo.build_events (h : s.ResolvesTo w R) :
    (s.build w).events = (s.filled R).build.events := by
  rw [build, h.toBuilder_eq]

/-- A registration comes only of settings whose entries resolve. -/
theorem exists_resolvesTo_of_build {r : Registration} (h : (s.build w).value = .ok r) :
    ∃ R, s.ResolvesTo w R := by
  cases hb : s.toBuilder w with
  | error e =>
      rw [build_of_toBuilder_error hb] at h
      cases h
  | ok b =>
      obtain ⟨R, hR, -⟩ := exists_resolvesTo hb
      exact ⟨R, hR⟩

/-- **The meaning of settings whose entries resolve.** If something is wrong with them, the build
reports the first defect, in the order of `checks`, under the settings' registration id.
Otherwise it returns the registration that they describe. -/
theorem build_of_resolvesTo (w : World) (s : RelyingPartySettings) (R : Resolution)
    (h : s.ResolvesTo w R) :
    (∀ e, firstFailure (s.checks R) = some e →
      (s.build w).value = .error (.configuration s.registrationId e)) ∧
    (firstFailure (s.checks R) = none →
      ∃ r, (s.build w).value = .ok r ∧ s.Describes R r) := by
  rw [h.build_value, Registration.Builder.build_value_eq, checks_filled]
  constructor
  · intro e he
    rw [report_eq_error_iff.mpr he]
    rfl
  · intro hnone
    refine ⟨_, ?_, describes_of_passed hnone⟩
    rw [report_eq_ok_iff.mpr ⟨hnone, rfl⟩]
    rfl

open Specimen in
/-- Settings whose entity id is absent, with a credential of two usages in two lists. They describe
a registration, and with a blank entity id they are refused, even though the other location is
absent as well. -/
theorem build_of_resolvesTo_specimen :
    let s : RelyingPartySettings :=
      { registrationId := "sp", assertionConsumerServiceLocation := some "acs",
        signingCredentials := [signerEntry], credentials := [pairEntry, verifierEntry, signerEntry],
        assertingParty :=
          { entityId := some "idp", singleSignOnServiceLocation := some "sso",
            verificationCredentials := [verifierEntry, verifierEntry] } }
    let blank : RelyingPartySettings :=
      { s with entityId := some " ", assertionConsumerServiceLocation := none }
    let R : Resolution :=
      { signing := [signer], decryption := [], flat := [keyPair, verifier, signer],
        verification := [verifier, verifier], encryption := [] }
    s.ResolvesTo world R ∧ blank.ResolvesTo world R ∧
      (∃ r, (s.build world).value = .ok r ∧ s.Describes R r ∧
        r.entityId = Registration.defaultEntityIdTemplate ∧ r.bucket .signing = [signer, keyPair] ∧
        r.bucket .decryption = [keyPair] ∧ r.bucket .verification = [verifier]) ∧
      (blank.build world).value = .error (.configuration "sp" (.missingField "entityId")) := by
  intro s blank R
  have hs : s.ResolvesTo world R := by constructor <;> rfl
  have hblank : blank.ResolvesTo world R := by constructor <;> rfl
  obtain ⟨r, hok, hr⟩ := (build_of_resolvesTo world s R hs).2 (by decide)
  refine ⟨hs, hblank, ⟨r, hok, hr, hr.entityId_absent rfl, ?_, ?_, ?_⟩, ?_⟩
  · exact (hr.bucket .signing).trans (by decide)
  · exact (hr.bucket .decryption).trans (by decide)
  · exact (hr.bucket .verification).trans (by decide)
  · exact (build_of_resolvesTo world blank R hblank).1 _ (by decide)

end RelyingPartySettings

end RelyingParty
