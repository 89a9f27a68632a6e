import RelyingParty.Proofs.Credential.Set
import RelyingParty.Session.Registration

/-!
# Where runs lead

A builder is changed by a run of settings, and a session by a run of steps. This file says what
one step of a session does to the registrations it has built (`built_step`), which is all that
an invariant of them needs, and that no builder is out of reach: `script` lists the settings
that make a given builder out of one with nothing but an id (`applyAll_script`). Statements
about every builder are therefore statements about every builder that a run leads to.
-/

namespace RelyingParty

/-- One setting for a value that may not be there. -/
def settingOf {α β : Type} (value : Option α) (set : α → β) : List β := (value.map set).toList

namespace AssertingParty.Builder

/-- Settings that make the builder out of an empty one. -/
def script (b : Builder) : List Setting :=
  settingOf b.entityId .entityId
    ++ settingOf b.singleSignOnServiceLocation .singleSignOnServiceLocation
    ++ [.wantsAuthnRequestsSigned b.wantsAuthnRequestsSigned,
        .singleSignOnServiceBinding b.singleSignOnServiceBinding,
        .verification [.assign b.verificationCredentials.members],
        .encryption [.assign b.encryptionCredentials.members]]

theorem applyAll_script (b : Builder) : ({} : Builder).applyAll b.script = b := by
  obtain ⟨entityId, signed, verification, encryption, location, binding⟩ := b
  have hv := CredentialSet.ofList_members verification
  have he := CredentialSet.ofList_members encryption
  cases entityId <;> cases location <;>
    simp [script, settingOf, applyAll, apply, setEntityId, setSingleSignOnServiceLocation,
      setWantsAuthnRequestsSigned, setSingleSignOnServiceBinding, modifyVerification,
      modifyEncryption, CredentialSet.applyAll, CredentialSet.apply, hv, he]

end AssertingParty.Builder

namespace Registration

namespace Builder

theorem applyAll_append (b : Builder) (xs ys : List Setting) :
    b.applyAll (xs ++ ys) = (b.applyAll xs).applyAll ys := List.foldl_append

/-- Settings that make the builder out of one with its id. -/
def script (b : Builder) : List Setting :=
  settingOf b.assertionConsumerServiceLocation .assertionConsumerServiceLocation
    ++ [.entityId b.entityId,
        .assertingParty true b.assertingParty.script,
        .credentials [.assign b.credentials.members],
        .signing [.assign b.signingCredentials.members],
        .decryption [.assign b.decryptionCredentials.members]]

/-- **Every builder is reached by a run of settings.** -/
theorem applyAll_script (b : Builder) : (ofId b.registrationId).applyAll b.script = b := by
  obtain ⟨id, entityId, location, party, flat, signing, decryption⟩ := b
  have hp := party.applyAll_script
  have hf := CredentialSet.ofList_members flat
  have hs := CredentialSet.ofList_members signing
  have hd := CredentialSet.ofList_members decryption
  cases location <;>
    simp [script, settingOf, applyAll, apply, ofId, setEntityId, nestedBuilder,
      setAssertionConsumerServiceLocation, modifyAssertingParty, modifyCredentials, modifySigning,
      modifyDecryption, CredentialSet.applyAll, CredentialSet.apply, hp, hf, hs, hd]

end Builder

namespace Session

/-- The session after a run of steps. -/
def after (s : Session) (steps : List Step) : Session := steps.foldl (fun s st => (s.step st).2) s

@[simp] theorem after_nil (s : Session) : s.after [] = s := rfl

@[simp] theorem after_cons (s : Session) (st : Step) (sts : List Step) :
    s.after (st :: sts) = (s.step st).2.after sts := rfl

/-- **What one step adds to the registrations built:** at most one, and what it adds is what the
builder at work has just been built into. -/
theorem built_step (s : Session) (st : Step) :
    (s.step st).2.built = s.built ∨
      ∃ r, s.builder.build.value = .ok r ∧ (s.step st).2.built = s.built ++ [r] := by
  cases st with
  | build =>
      cases h : s.builder.build.value with
      | error e => exact Or.inl (by simp [step, h, Except.toOption])
      | ok r => exact Or.inr ⟨r, rfl, by simp [step, h, Except.toOption]⟩
  | derive _ | assertingPartyOf _ | restore _ | equal _ _ =>
      refine Or.inl ?_
      simp only [step]
      split <;> rfl
  | set _ | restart _ | save | summary _ | aliases _ | describe _ | describeBuilder =>
      exact Or.inl rfl

end Session

end Registration

end RelyingParty
