import RelyingParty.Proofs.Credential.KeyRenaming
import RelyingParty.Proofs.Registration.Outcome
import RelyingParty.Proofs.Registration.Run
import RelyingParty.Proofs.Registration.Trace
import RelyingParty.Proofs.Specimen

/-!
# Private keys do not leak

A session is run twice, the second time with the private keys renamed. Each step answers the same
up to the renaming, and all that is meant for other eyes is the very same: the errors, the truth
values, the records of a build, descriptions and summaries. So nothing that can be seen of a
session tells more about a key than which credentials are equal.

Renaming commutes with building because the checks ask for usages only and the records hold
fingerprints of certificates; it commutes with deriving a builder since both only extend sets. Steps
on a set keep what they are, with the keys of the credentials they bring in renamed. A change of a
set that is any function is taken along the renaming (`rekeyChange`).
-/

namespace RelyingParty

variable (ρ : KeyRenaming)

namespace AssertingParty

/-- The party with the keys of its credentials renamed. A built party has none, but nothing here
depends on that. -/
def rekey (p : AssertingParty) : AssertingParty :=
  { p with
    verificationCredentials := p.verificationCredentials.map (Credential.rekey ρ)
    encryptionCredentials := p.encryptionCredentials.map (Credential.rekey ρ) }

theorem rekey_injective : Function.Injective (rekey ρ) := by
  intro p q h
  cases p
  cases q
  simpa [rekey, Credential.map_rekey_inj] using h

@[simp] theorem describe_rekey (p : AssertingParty) : (p.rekey ρ).describe = p.describe := by
  simp [describe, rekey, Credential.describeList, Function.comp_def]

@[simp] theorem summary_rekey (p : AssertingParty) : (p.rekey ρ).summary = p.summary := by
  simp [summary, rekey, Function.comp_def]

/-- The setting with the keys renamed. -/
noncomputable def Setting.rekey : Setting → Setting
  | .verification steps => .verification (steps.map (CredentialSet.Step.rekey ρ))
  | .encryption steps => .encryption (steps.map (CredentialSet.Step.rekey ρ))
  | .modifyVerification change => .modifyVerification (CredentialSet.rekeyChange ρ change)
  | .modifyEncryption change => .modifyEncryption (CredentialSet.rekeyChange ρ change)
  | s => s

namespace Builder

/-- The builder with the keys of its credentials renamed. -/
def rekey (b : Builder) : Builder :=
  { b with
    verificationCredentials := b.verificationCredentials.rekey ρ
    encryptionCredentials := b.encryptionCredentials.rekey ρ }

@[simp] theorem describe_rekey (b : Builder) : (b.rekey ρ).describe = b.describe := by
  simp [describe, rekey]

theorem apply_rekey (b : Builder) (s : Setting) :
    (b.rekey ρ).apply (s.rekey ρ) = (b.apply s).rekey ρ := by
  cases s with
  | verification _ | encryption _ | modifyVerification _ | modifyEncryption _ =>
      simp [Setting.rekey, apply, rekey, modifyVerification, modifyEncryption,
        CredentialSet.applyAll_rekey, CredentialSet.rekeyChange_rekey]
  | _ => rfl

theorem applyAll_rekey (b : Builder) (settings : List Setting) :
    (b.rekey ρ).applyAll (settings.map (Setting.rekey ρ)) = (b.applyAll settings).rekey ρ := by
  induction settings generalizing b with
  | nil => rfl
  | cons s ss ih =>
      show ((b.rekey ρ).apply (s.rekey ρ)).applyAll (ss.map (Setting.rekey ρ)) = _
      rw [apply_rekey, ih]
      rfl

theorem answer_rekey (b : Builder) (s : Setting) :
    (b.rekey ρ).answer (s.rekey ρ)
      = (b.answer s).map (List.map (CredentialSet.Answer.rekey ρ)) := by
  cases s with
  | verification steps | encryption steps =>
      simp [Setting.rekey, answer, rekey, CredentialSet.answers_rekey]
  | _ => rfl

theorem answers_rekey (b : Builder) (settings : List Setting) :
    (b.rekey ρ).answers (settings.map (Setting.rekey ρ))
      = (b.answers settings).map (Option.map (List.map (CredentialSet.Answer.rekey ρ))) := by
  induction settings generalizing b with
  | nil => rfl
  | cons s ss ih =>
      rw [List.map_cons, answers, answers, answer_rekey, apply_rekey, ih, List.map_cons]

theorem checks_rekey (b : Builder) : (b.rekey ρ).checks = b.checks := by
  simp [checks, rekey]

end Builder

theorem toBuilder_rekey (p : AssertingParty) : (p.rekey ρ).toBuilder = p.toBuilder.rekey ρ := by
  simp [toBuilder, rekey, Builder.rekey, Builder.setEntityId, Builder.setWantsAuthnRequestsSigned,
    Builder.modifyVerification, Builder.modifyEncryption, Builder.setSingleSignOnServiceLocation,
    Builder.setSingleSignOnServiceBinding, CredentialSet.empty_extend_rekey]

end AssertingParty

namespace Registration

/-- The registration with the keys of its credentials renamed. -/
def rekey (r : Registration) : Registration :=
  { r with
    credentials := r.credentials.map (Credential.rekey ρ)
    signingCredentials := r.signingCredentials.map (Credential.rekey ρ)
    decryptionCredentials := r.decryptionCredentials.map (Credential.rekey ρ)
    assertingParty := r.assertingParty.rekey ρ }

theorem rekey_injective : Function.Injective (rekey ρ) := by
  intro q r h
  cases q
  cases r
  simpa [rekey, Credential.map_rekey_inj, (AssertingParty.rekey_injective ρ).eq_iff] using h

@[simp] theorem describe_rekey (r : Registration) : (r.rekey ρ).describe = r.describe := by
  simp [describe, rekey, Credential.describeList, Function.comp_def]

@[simp] theorem summary_rekey (r : Registration) : (r.rekey ρ).summary = r.summary := by
  simp [summary, rekey, Function.comp_def]

/-- The setting with the keys renamed. -/
noncomputable def Setting.rekey : Setting → Setting
  | .signing steps => .signing (steps.map (CredentialSet.Step.rekey ρ))
  | .decryption steps => .decryption (steps.map (CredentialSet.Step.rekey ρ))
  | .credentials steps => .credentials (steps.map (CredentialSet.Step.rekey ρ))
  | .modifySigning change => .modifySigning (CredentialSet.rekeyChange ρ change)
  | .modifyDecryption change => .modifyDecryption (CredentialSet.rekeyChange ρ change)
  | .modifyCredentials change => .modifyCredentials (CredentialSet.rekeyChange ρ change)
  | .assertingParty fresh settings =>
      .assertingParty fresh (settings.map (AssertingParty.Setting.rekey ρ))
  | s => s

/-- The answer with the keys renamed in what it lists. -/
def Setting.Answer.rekey : Setting.Answer → Setting.Answer
  | .done => .done
  | .answers as => .answers (as.map (CredentialSet.Answer.rekey ρ))
  | .nested as => .nested (as.map (Option.map (List.map (CredentialSet.Answer.rekey ρ))))

theorem declaring_map_rekey (cs : List Credential) (u : Usage) :
    declaring (cs.map (Credential.rekey ρ)) u = (declaring cs u).map (Credential.rekey ρ) := by
  unfold declaring
  rw [List.filter_map]
  rfl

namespace Builder

/-- The builder with the keys of its credentials renamed. -/
def rekey (b : Builder) : Builder :=
  { b with
    assertingParty := b.assertingParty.rekey ρ
    credentials := b.credentials.rekey ρ
    signingCredentials := b.signingCredentials.rekey ρ
    decryptionCredentials := b.decryptionCredentials.rekey ρ }

@[simp] theorem describe_rekey (b : Builder) : (b.rekey ρ).describe = b.describe := by
  simp [describe, rekey]

theorem nestedBuilder_rekey (b : Builder) (fresh : Bool) :
    (b.rekey ρ).nestedBuilder fresh = (b.nestedBuilder fresh).rekey ρ := by
  cases fresh <;> rfl

theorem apply_rekey (b : Builder) (s : Setting) :
    (b.rekey ρ).apply (s.rekey ρ) = (b.apply s).rekey ρ := by
  cases s with
  | signing _ | decryption _ | credentials _ | modifySigning _ | modifyDecryption _
  | modifyCredentials _ =>
      simp [Setting.rekey, apply, rekey, modifySigning, modifyDecryption, modifyCredentials,
        CredentialSet.applyAll_rekey, CredentialSet.rekeyChange_rekey]
  | assertingParty fresh settings =>
      simp only [Setting.rekey, apply, nestedBuilder_rekey, AssertingParty.Builder.applyAll_rekey]
      rfl
  | _ => rfl

theorem answer_rekey (b : Builder) (s : Setting) :
    (b.rekey ρ).answer (s.rekey ρ) = (b.answer s).rekey ρ := by
  cases s with
  | signing steps | decryption steps | credentials steps =>
      simp [Setting.rekey, answer, rekey, Setting.Answer.rekey, CredentialSet.answers_rekey]
  | assertingParty fresh settings =>
      simp only [Setting.rekey, answer, nestedBuilder_rekey, AssertingParty.Builder.answers_rekey]
      rfl
  | _ => rfl

@[simp] theorem bucket_rekey (b : Builder) (u : Usage) :
    (b.rekey ρ).bucket u = (b.bucket u).rekey ρ := by
  cases u <;> rfl

theorem extendBuckets_rekey (b : Builder) (f : Usage → List Credential) :
    (b.rekey ρ).extendBuckets (fun u => (f u).map (Credential.rekey ρ))
      = (b.extendBuckets f).rekey ρ := by
  simp only [extendBuckets_eq, rekey, AssertingParty.Builder.rekey,
    AssertingParty.Builder.modifyVerification, AssertingParty.Builder.modifyEncryption,
    CredentialSet.extend_rekey]

theorem reconciled_rekey (b : Builder) : (b.rekey ρ).reconciled = b.reconciled.rekey ρ := by
  -- what the flat set hands to a bucket is chosen by usage, which keeps its place when renamed
  have hdeclaring : declaring (b.rekey ρ).credentials.members
      = fun u => (declaring b.credentials.members u).map (Credential.rekey ρ) :=
    funext (declaring_map_rekey ρ b.credentials.members)
  rw [reconciled_eq, hdeclaring, extendBuckets_rekey]
  rfl

/-- **No check asks for a key.** -/
theorem checks_rekey (b : Builder) : (b.rekey ρ).checks = b.checks := by
  have hbare : (b.rekey ρ).isBare = b.isBare := by
    simp only [isBare, bucket_rekey, CredentialSet.isEmpty_rekey]
    exact congrArg _ (CredentialSet.isEmpty_rekey ρ b.credentials)
  have hparty : (b.rekey ρ).assertingParty.checks = b.assertingParty.checks :=
    AssertingParty.Builder.checks_rekey ρ b.assertingParty
  have hsigning := CredentialSet.lacks_rekey ρ b.signingCredentials .signing
  have hdecryption := CredentialSet.lacks_rekey ρ b.decryptionCredentials .decryption
  simp only [checks, hbare, hparty]
  simp only [rekey, hsigning, hdecryption]

theorem union_rekey (signing decryption : List Credential) (p : AssertingParty) :
    union (signing.map (Credential.rekey ρ)) (decryption.map (Credential.rekey ρ)) (p.rekey ρ)
      = (union signing decryption p).map (Credential.rekey ρ) := by
  simp only [union, AssertingParty.rekey, ← List.map_append, CredentialSet.ofList_rekey,
    CredentialSet.members_rekey]

theorem described_rekey (b : Builder) : (b.rekey ρ).described = b.described.rekey ρ := by
  have hunion := union_rekey ρ b.signingCredentials.members b.decryptionCredentials.members
    b.assertingParty.described
  simp only [described, Registration.rekey, ← hunion]
  rfl

/-- **A build fails as before, or gives the registration with its keys renamed.** -/
theorem build_rekey_value (b : Builder) :
    (b.rekey ρ).build.value = b.build.value.map (Registration.rekey ρ) := by
  rw [build_value_eq, build_value_eq, checks_rekey, reconciled_rekey, described_rekey]
  exact report_map b.checks b.reconciled.described (Registration.rekey ρ)

/-- **A build leaves the same records.** -/
theorem build_rekey_events (b : Builder) : (b.rekey ρ).build.events = b.build.events := by
  have hreconciled : (b.rekey ρ).reconciliationEvents = b.reconciliationEvents := by
    have hempty : (b.rekey ρ).credentials.isEmpty = b.credentials.isEmpty :=
      CredentialSet.isEmpty_rekey ρ b.credentials
    have hreport : flatSetReport (b.rekey ρ).registrationId (b.rekey ρ).credentials.members
        = flatSetReport b.registrationId b.credentials.members := by
      simp [flatSetReport, rekey, declaring_map_rekey]
    rw [reconciliationEvents_eq, reconciliationEvents_eq, hempty, hreport]
  have houtcome : outcomeEvents (b.rekey ρ).registrationId (b.build.value.map (Registration.rekey ρ))
      = outcomeEvents b.registrationId b.build.value := by
    cases b.build.value with
    | error e => rfl
    | ok r =>
        simp [outcomeEvents, Except.map, Registration.rekey, AssertingParty.rekey, fingerprints,
          Function.comp_def]
  rw [build_events, build_events, build_rekey_value, hreconciled, houtcome]

end Builder

theorem toBuilder_rekey (r : Registration) : (r.rekey ρ).toBuilder = r.toBuilder.rekey ρ := by
  simp [toBuilder, rekey, Builder.rekey, Builder.ofId, Builder.setEntityId, Builder.modifySigning,
    Builder.modifyDecryption, Builder.setAssertionConsumerServiceLocation,
    Builder.modifyAssertingParty, AssertingParty.toBuilder_rekey, CredentialSet.empty_extend_rekey]
  rfl

namespace Session

/-- The session with the keys of all its credentials renamed. -/
def rekey (s : Session) : Session where
  builder := s.builder.rekey ρ
  built := s.built.map (Registration.rekey ρ)
  saved := s.saved.map (Builder.rekey ρ)

/-- The step with the keys of the credentials it brings in renamed. -/
noncomputable def Step.rekey : Step → Step
  | .set setting => .set (setting.rekey ρ)
  | st => st

/-- The answer with the keys renamed in the credentials and registrations that it hands out.
Errors, records, truth values and texts are the same. -/
def Answer.rekey : Answer → Answer
  | .set answer => .set (answer.rekey ρ)
  | .built result events => .built (result.map (Registration.rekey ρ)) events
  | .registration r => .registration (r.rekey ρ)
  | .flag b => .flag b
  | .text t => .text t
  | .done => .done
  | .absent => .absent

theorem built_rekey_getElem? (s : Session) (i : Nat) :
    (s.rekey ρ).built[i]? = s.built[i]?.map (Registration.rekey ρ) :=
  List.getElem?_map

/-- **One step answers the same, up to the renaming, and leads to the same session.** -/
theorem step_rekey (s : Session) (st : Step) :
    (s.rekey ρ).step (st.rekey ρ) = ((s.step st).1.rekey ρ, (s.step st).2.rekey ρ) := by
  cases st with
  | set setting =>
      simp only [Step.rekey, step, rekey, Builder.answer_rekey, Builder.apply_rekey]
      rfl
  | build =>
      have hvalue := Builder.build_rekey_value ρ s.builder
      have hevents := Builder.build_rekey_events ρ s.builder
      simp only [Step.rekey, step, rekey, hvalue, hevents]
      cases s.builder.build.value with
      | error e => simp [Except.map, Except.toOption, Answer.rekey]
      | ok r => simp [Except.map, Except.toOption, Answer.rekey]
  | restart id => rfl
  | derive i =>
      simp only [Step.rekey, step, built_rekey_getElem?]
      cases s.built[i]? with
      | none => rfl
      | some r =>
          simp only [Option.map_some, toBuilder_rekey]
          rfl
  | assertingPartyOf i =>
      simp only [Step.rekey, step, built_rekey_getElem?]
      cases s.built[i]? with
      | none => rfl
      | some r =>
          have hparty : (r.rekey ρ).assertingParty.toBuilder
              = r.assertingParty.toBuilder.rekey ρ :=
            AssertingParty.toBuilder_rekey ρ r.assertingParty
          simp only [Option.map_some, hparty]
          rfl
  | save => simp [Step.rekey, step, rekey, Answer.rekey]
  | restore i =>
      have hsaved : (s.rekey ρ).saved[i]? = s.saved[i]?.map (Builder.rekey ρ) :=
        List.getElem?_map
      simp only [Step.rekey, step, hsaved]
      cases s.saved[i]? <;> rfl
  | equal i j =>
      simp only [Step.rekey, step, built_rekey_getElem?]
      cases s.built[i]? with
      | none => rfl
      | some q =>
          cases s.built[j]? with
          | none => rfl
          | some r =>
              -- registrations are compared with their keys, of which none may become equal
              simp [Answer.rekey, (rekey_injective ρ).eq_iff]
  | summary i =>
      simp only [Step.rekey, step, built_rekey_getElem?]
      cases s.built[i]? with
      | none => rfl
      | some r => simp [orAbsent, Answer.rekey, summaryText]
  | aliases i =>
      simp only [Step.rekey, step, built_rekey_getElem?]
      cases s.built[i]? <;> rfl
  | describe i =>
      simp only [Step.rekey, step, built_rekey_getElem?]
      cases s.built[i]? with
      | none => rfl
      | some r => simp [orAbsent, Answer.rekey]
  | describeBuilder => simp [Step.rekey, step, rekey, Answer.rekey]

theorem run_rekey (s : Session) (steps : List Step) :
    (s.rekey ρ).run (steps.map (Step.rekey ρ)) = (s.run steps).map (Answer.rekey ρ) := by
  induction steps generalizing s with
  | nil => rfl
  | cons st sts ih => rw [List.map_cons, run, run, step_rekey, ih, List.map_cons]

theorem after_rekey (s : Session) (steps : List Step) :
    (s.rekey ρ).after (steps.map (Step.rekey ρ)) = (s.after steps).rekey ρ := by
  induction steps generalizing s with
  | nil => rfl
  | cons st sts ih => rw [List.map_cons, after_cons, after_cons, step_rekey, ih]

end Session

/-- **Private keys do not leak.** Take credential definitions and a run of steps, and both again
with the private keys renamed. Each definition is refused with the same error or gives the
credential with its key renamed, which is described as before. Each step then answers the same,
up to the keys in what it hands out, and at the end of the run, which is any point of a longer
one, the builder looks the same, builds to the same error or to the registration with its keys
renamed, leaves the same records, and everything built so far has the same description and the
same summary. -/
theorem keys_do_not_leak (id : String) (definitions : List Credential.Definition)
    (steps : List Session.Step) :
    let renamedDefinitions := definitions.map (Credential.Definition.rekey ρ)
    let renamedSteps := steps.map (Session.Step.rekey ρ)
    let plain := Session.after { builder := .ofId id } steps
    let renamed := Session.after { builder := .ofId id } renamedSteps
    (renamedDefinitions.map Credential.Definition.build
        = definitions.map fun d => d.build.map (Credential.rekey ρ)) ∧
      (renamedDefinitions.map fun d => d.build.map Credential.describe)
        = (definitions.map fun d => d.build.map Credential.describe) ∧
      Session.run { builder := .ofId id } renamedSteps
        = (Session.run { builder := .ofId id } steps).map (Session.Answer.rekey ρ) ∧
      renamed.builder.describe = plain.builder.describe ∧
      renamed.builder.build.value = plain.builder.build.value.map (Registration.rekey ρ) ∧
      renamed.builder.build.events = plain.builder.build.events ∧
      renamed.built = plain.built.map (Registration.rekey ρ) ∧
      renamed.built.map Registration.describe = plain.built.map Registration.describe ∧
      renamed.built.map Registration.summary = plain.built.map Registration.summary := by
  intro renamedDefinitions renamedSteps plain renamed
  have hbuild : ∀ d : Credential.Definition, (d.rekey ρ).build = d.build.map (Credential.rekey ρ) :=
    Credential.Definition.build_rekey ρ
  have hdescribe : ∀ d : Credential.Definition,
      (d.rekey ρ).build.map Credential.describe = d.build.map Credential.describe := by
    intro d
    rw [hbuild]
    cases d.build with
    | error e => rfl
    | ok c => exact congrArg Except.ok (Credential.describe_rekey ρ c)
  have hrun := Session.run_rekey ρ { builder := .ofId id } steps
  have hafter : renamed = plain.rekey ρ := Session.after_rekey ρ { builder := .ofId id } steps
  refine ⟨?_, ?_, hrun, ?_, ?_, ?_, ?_, ?_, ?_⟩
  · simp [renamedDefinitions, hbuild]
  · simp [renamedDefinitions, hdescribe]
  · rw [hafter]
    exact Builder.describe_rekey ρ plain.builder
  · rw [hafter]
    exact Builder.build_rekey_value ρ plain.builder
  · rw [hafter]
    exact Builder.build_rekey_events ρ plain.builder
  · rw [hafter]
    rfl
  · rw [hafter]
    simp [Session.rekey]
  · rw [hafter]
    simp [Session.rekey]

end Registration

namespace KeyRenaming

/-- The key with a mark before it, if anything shows in it. -/
def mark (k : String) : String := if Text.isBlank k then k else "marked " ++ k

theorem isBlank_mark (k : String) : Text.isBlank (mark k) = Text.isBlank k := by
  unfold mark
  split
  · rfl
  · next hk =>
      rw [Bool.eq_false_iff.mpr hk]
      exact Text.isBlank_eq_false_iff.mpr ⟨'m', by simp [String.toList_append], by decide⟩

theorem mark_injective : Function.Injective mark := by
  intro k l h
  have hblank : Text.isBlank k = Text.isBlank l := by
    rw [← isBlank_mark, h, isBlank_mark]
  unfold mark at h
  rw [hblank] at h
  split at h
  · exact h
  · exact (String.append_right_inj _).mp h

/-- A renaming that changes every key that a credential can have. -/
def marking : KeyRenaming := ⟨mark, mark_injective, isBlank_mark⟩

end KeyRenaming

open Specimen in
/-- Two credentials with one key, renamed: a set still tells them apart, refuses one that it has
and gives up one that it is asked for, and the registration built differs in its keys alone. -/
theorem Registration.keys_do_not_leak_specimen :
    let steps : List Session.Step :=
      [.set (.signing [.insert keyPair, .insert signer, .insert signer, .remove keyPair]),
       .set (.assertingParty false [.entityId "idp", .singleSignOnServiceLocation "sso"]),
       .set (.assertionConsumerServiceLocation "acs"), .build]
    let plain := Session.after { builder := .ofId "sp" } steps
    let renamed :=
      Session.after { builder := .ofId "sp" } (steps.map (Session.Step.rekey .marking))
    (plain.built.map fun r => r.signingCredentials.map Credential.privateKey) = [[some "key"]] ∧
      (renamed.built.map fun r => r.signingCredentials.map Credential.privateKey)
        = [[some "marked key"]] ∧
      renamed.built.map Registration.summary = plain.built.map Registration.summary := by
  intro steps plain renamed
  obtain ⟨-, -, -, -, -, -, hbuilt, -, hsummary⟩ :=
    keys_do_not_leak .marking "sp" [.signing "key" "signer"] steps
  have hplain : (plain.built.map fun r => r.signingCredentials.map Credential.privateKey)
      = [[some "key"]] := by
    decide
  refine ⟨hplain, ?_, hsummary⟩
  have hkeys : (renamed.built.map fun r => r.signingCredentials.map Credential.privateKey)
      = (plain.built.map fun r => r.signingCredentials.map Credential.privateKey).map
          (List.map (Option.map KeyRenaming.mark)) := by
    rw [hbuilt, List.map_map, List.map_map]
    refine List.map_congr_left ?_
    intro r _
    simp [rekey, Credential.rekey, KeyRenaming.marking]
  rw [hkeys, hplain]
  decide

end RelyingParty
