import RelyingParty.Proofs.Registration.Outcome
import RelyingParty.Proofs.Registration.Run
import RelyingParty.Proofs.Specimen

/-!
# What a run of settings writes

A run of settings is a history: values written over one another and under older names, changes of
sets, a nested builder thrown away in the middle. This file says how much of the history a build
can still tell. For each field it is the value written last, for each set the changes of that set
in their order, and for the asserting party only what came after its builder was last replaced.
All of it is collected in `Writes`, without looking at any builder. A change of a set is any
function at all, so it may ask what is in the set and do one thing or another.

The builder after a run is its writes and nothing else (`applyAll_eq_builder`). So the order of
settings that concern different fields is forgotten, as are the builds on the way.
-/

namespace RelyingParty

/-- What a list of changes makes of a set, one after the other. -/
def CredentialSet.changedBy (s : CredentialSet) (changes : List (CredentialSet → CredentialSet)) :
    CredentialSet :=
  changes.foldl (fun t change => change t) s

section LastWrite

variable {β σ α : Type} {step : β → σ → β}

/-- The value that a run writes last, where `written` says what a single setting writes. -/
def lastWrite (written : σ → Option α) (run : List σ) : Option α :=
  (run.filterMap written).getLast?

theorem lastWrite_cons (written : σ → Option α) (s : σ) (run : List σ) :
    lastWrite written (s :: run) = (lastWrite written run).or (written s) := by
  unfold lastWrite
  cases h : written s with
  | none => rw [List.filterMap_cons_none h, Option.or_none]
  | some v =>
      rw [List.filterMap_cons_some h, List.getLast?_cons]
      cases (run.filterMap written).getLast? <;> rfl

/-- **The last write wins.** A field that each setting either overwrites or leaves alone holds,
after a run, what the run wrote last, or else what it held before. -/
theorem foldl_lastWrite (get : β → Option α) (written : σ → Option α)
    (h : ∀ b s, get (step b s) = (written s).or (get b)) (b : β) (run : List σ) :
    get (run.foldl step b) = (lastWrite written run).or (get b) := by
  induction run generalizing b with
  | nil => rfl
  | cons s run ih =>
      -- what the rest writes stands before what the first setting writes
      rw [List.foldl_cons, ih, h, lastWrite_cons, Option.or_assoc]

/-- The last write wins over the value of a field that always has one. -/
theorem foldl_lastWrite_getD (get : β → α) (written : σ → Option α)
    (h : ∀ b s, get (step b s) = (written s).getD (get b)) (b : β) (run : List σ) :
    get (run.foldl step b) = (lastWrite written run).getD (get b) := by
  have hstep : ∀ b s, some (get (step b s)) = (written s).or (some (get b)) := by
    intro b s
    rw [h, Option.or_some]
  have hrun := foldl_lastWrite (fun b => some (get b)) written hstep b run
  rw [Option.or_some] at hrun
  exact Option.some.inj hrun

/-- **No change is lost.** A set that each setting either changes or leaves alone goes through the
changes of the whole run. -/
theorem foldl_changes (get : β → CredentialSet)
    (change : σ → Option (CredentialSet → CredentialSet))
    (h : ∀ b s, get (step b s) = (change s).getD id (get b)) (b : β) (run : List σ) :
    get (run.foldl step b) = (get b).changedBy (run.filterMap change) := by
  induction run generalizing b with
  | nil => rfl
  | cons s run ih =>
      rw [List.foldl_cons, ih, h]
      cases hs : change s with
      | none => rw [List.filterMap_cons_none hs]; rfl
      | some f => rw [List.filterMap_cons_some hs]; rfl

end LastWrite

namespace AssertingParty

namespace Setting

def entityId? : Setting → Option String
  | .entityId v => some v
  | _ => none

def wantsAuthnRequestsSigned? : Setting → Option Bool
  | .wantsAuthnRequestsSigned v | .signAuthnRequest v => some v
  | _ => none

def location? : Setting → Option String
  | .singleSignOnServiceLocation v | .webSsoUrl v => some v
  | _ => none

def binding? : Setting → Option Binding
  | .singleSignOnServiceBinding v | .binding v => some v
  | _ => none

def verificationChange? : Setting → Option (CredentialSet → CredentialSet)
  | .verification steps => some (·.applyAll steps)
  | .modifyVerification change => some change
  | _ => none

def encryptionChange? : Setting → Option (CredentialSet → CredentialSet)
  | .encryption steps => some (·.applyAll steps)
  | .modifyEncryption change => some change
  | _ => none

/-- The setting under its current name. -/
def current : Setting → Setting
  | .signAuthnRequest v => .wantsAuthnRequestsSigned v
  | .webSsoUrl v => .singleSignOnServiceLocation v
  | .binding v => .singleSignOnServiceBinding v
  | s => s

end Setting

/-- What a history of settings comes to: the last value of each field, if it was ever written,
and the changes of each set. -/
structure Writes where
  entityId : Option String
  wantsAuthnRequestsSigned : Option Bool
  location : Option String
  binding : Option Binding
  verification : List (CredentialSet → CredentialSet)
  encryption : List (CredentialSet → CredentialSet)

namespace Writes

def ofRun (run : List Setting) : Writes where
  entityId := lastWrite Setting.entityId? run
  wantsAuthnRequestsSigned := lastWrite Setting.wantsAuthnRequestsSigned? run
  location := lastWrite Setting.location? run
  binding := lastWrite Setting.binding? run
  verification := run.filterMap Setting.verificationChange?
  encryption := run.filterMap Setting.encryptionChange?

/-- The builder with these writes, and with the default of every field never written. -/
def builder (w : Writes) : Builder where
  entityId := w.entityId
  wantsAuthnRequestsSigned := w.wantsAuthnRequestsSigned.getD true
  verificationCredentials := CredentialSet.empty.changedBy w.verification
  encryptionCredentials := CredentialSet.empty.changedBy w.encryption
  singleSignOnServiceLocation := w.location
  singleSignOnServiceBinding := w.binding.getD .redirect

end Writes

namespace Builder

theorem ext {a b : Builder} (hentity : a.entityId = b.entityId)
    (hsigned : a.wantsAuthnRequestsSigned = b.wantsAuthnRequestsSigned)
    (hver : a.verificationCredentials = b.verificationCredentials)
    (henc : a.encryptionCredentials = b.encryptionCredentials)
    (hlocation : a.singleSignOnServiceLocation = b.singleSignOnServiceLocation)
    (hbinding : a.singleSignOnServiceBinding = b.singleSignOnServiceBinding) : a = b := by
  cases a; cases b; simp_all

/-- **One setting, field by field:** it writes what it gives and leaves the rest. -/
theorem apply_eq (b : Builder) (s : Setting) :
    b.apply s =
      { entityId := s.entityId?.or b.entityId
        wantsAuthnRequestsSigned := s.wantsAuthnRequestsSigned?.getD b.wantsAuthnRequestsSigned
        verificationCredentials := s.verificationChange?.getD id b.verificationCredentials
        encryptionCredentials := s.encryptionChange?.getD id b.encryptionCredentials
        singleSignOnServiceLocation := s.location?.or b.singleSignOnServiceLocation
        singleSignOnServiceBinding := s.binding?.getD b.singleSignOnServiceBinding } := by
  cases s <;> rfl

/-- An older name is the current one. -/
theorem apply_current (b : Builder) (s : Setting) : b.apply s.current = b.apply s := by
  cases s <;> rfl

/-- **A party's builder is its writes.** -/
theorem applyAll_eq_builder (run : List Setting) :
    ({} : Builder).applyAll run = (Writes.ofRun run).builder := by
  have hentity := foldl_lastWrite Builder.entityId Setting.entityId?
    (fun b s => congrArg Builder.entityId (apply_eq b s)) {} run
  have hsigned := foldl_lastWrite_getD Builder.wantsAuthnRequestsSigned
    Setting.wantsAuthnRequestsSigned?
    (fun b s => congrArg Builder.wantsAuthnRequestsSigned (apply_eq b s)) {} run
  have hver := foldl_changes Builder.verificationCredentials Setting.verificationChange?
    (fun b s => congrArg Builder.verificationCredentials (apply_eq b s)) {} run
  have henc := foldl_changes Builder.encryptionCredentials Setting.encryptionChange?
    (fun b s => congrArg Builder.encryptionCredentials (apply_eq b s)) {} run
  have hlocation := foldl_lastWrite Builder.singleSignOnServiceLocation Setting.location?
    (fun b s => congrArg Builder.singleSignOnServiceLocation (apply_eq b s)) {} run
  have hbinding := foldl_lastWrite_getD Builder.singleSignOnServiceBinding Setting.binding?
    (fun b s => congrArg Builder.singleSignOnServiceBinding (apply_eq b s)) {} run
  exact ext (hentity.trans Option.or_none) hsigned hver henc (hlocation.trans Option.or_none)
    hbinding

theorem applyAll_map_current (b : Builder) (run : List Setting) :
    b.applyAll (run.map Setting.current) = b.applyAll run := by
  unfold applyAll
  rw [List.foldl_map]
  simp only [apply_current]

end Builder

end AssertingParty

namespace Registration

namespace Setting

def registrationId? : Setting → Option String
  | .registrationId v => some v
  | _ => none

def entityId? : Setting → Option String
  | .entityId v | .localEntityIdTemplate v => some v
  | _ => none

def location? : Setting → Option String
  | .assertionConsumerServiceLocation v | .assertionConsumerServiceUrlTemplate v => some v
  | _ => none

def signingChange? : Setting → Option (CredentialSet → CredentialSet)
  | .signing steps => some (·.applyAll steps)
  | .modifySigning change => some change
  | _ => none

def decryptionChange? : Setting → Option (CredentialSet → CredentialSet)
  | .decryption steps => some (·.applyAll steps)
  | .modifyDecryption change => some change
  | _ => none

def flatChange? : Setting → Option (CredentialSet → CredentialSet)
  | .credentials steps => some (·.applyAll steps)
  | .modifyCredentials change => some change
  | _ => none

/-- The settings that reach the nested builder. -/
def partySettings : Setting → List AssertingParty.Setting
  | .remoteIdpEntityId v => [.entityId v]
  | .idpWebSsoUrl v => [.singleSignOnServiceLocation v]
  | .assertingParty _ settings => settings
  | _ => []

/-- Whether the setting replaces the nested builder before anything else. -/
def replacesParty : Setting → Bool
  | .assertingParty fresh _ => fresh
  | _ => false

/-- The setting under its current name. -/
def current : Setting → Setting
  | .localEntityIdTemplate v => .entityId v
  | .assertionConsumerServiceUrlTemplate v => .assertionConsumerServiceLocation v
  | .remoteIdpEntityId v => .assertingParty false [.entityId v]
  | .idpWebSsoUrl v => .assertingParty false [.singleSignOnServiceLocation v]
  | .assertingParty fresh settings => .assertingParty fresh (settings.map (·.current))
  | s => s

end Setting

/-- A run from the setting that replaces the nested builder last, or all of it if none does. -/
def sinceReplacement : List Setting → List Setting
  | [] => []
  | s :: run => if run.any Setting.replacesParty then sinceReplacement run else s :: run

theorem sinceReplacement_of_none {run : List Setting}
    (h : run.any Setting.replacesParty = false) : sinceReplacement run = run := by
  cases run with
  | nil => rfl
  | cons s run =>
      rw [List.any_cons, Bool.or_eq_false_iff] at h
      simp [sinceReplacement, h.2]

/-- What a history of settings comes to: the last value of each field, if it was ever written,
the changes of each set, and what the settings of the asserting party come to. -/
structure Writes where
  registrationId : Option String
  entityId : Option String
  location : Option String
  signing : List (CredentialSet → CredentialSet)
  decryption : List (CredentialSet → CredentialSet)
  flat : List (CredentialSet → CredentialSet)
  /-- Only from the last replacement of the nested builder on. -/
  party : AssertingParty.Writes

namespace Writes

def ofRun (run : List Setting) : Writes where
  registrationId := lastWrite Setting.registrationId? run
  entityId := lastWrite Setting.entityId? run
  location := lastWrite Setting.location? run
  signing := run.filterMap Setting.signingChange?
  decryption := run.filterMap Setting.decryptionChange?
  flat := run.filterMap Setting.flatChange?
  party := .ofRun ((sinceReplacement run).flatMap Setting.partySettings)

/-- The builder with these writes, and with the default of every field never written. -/
def builder (w : Writes) (id : String) : Builder where
  registrationId := w.registrationId.getD id
  entityId := w.entityId.getD defaultEntityIdTemplate
  assertionConsumerServiceLocation := w.location
  assertingParty := w.party.builder
  credentials := CredentialSet.empty.changedBy w.flat
  signingCredentials := CredentialSet.empty.changedBy w.signing
  decryptionCredentials := CredentialSet.empty.changedBy w.decryption

end Writes

namespace Builder

theorem ext {a b : Builder} (hid : a.registrationId = b.registrationId)
    (hentity : a.entityId = b.entityId)
    (hlocation : a.assertionConsumerServiceLocation = b.assertionConsumerServiceLocation)
    (hparty : a.assertingParty = b.assertingParty) (hflat : a.credentials = b.credentials)
    (hsigning : a.signingCredentials = b.signingCredentials)
    (hdecryption : a.decryptionCredentials = b.decryptionCredentials) : a = b := by
  cases a; cases b; simp_all

/-- **One setting, field by field:** it writes what it gives and leaves the rest. -/
theorem apply_eq (b : Builder) (s : Setting) :
    b.apply s =
      { registrationId := s.registrationId?.getD b.registrationId
        entityId := s.entityId?.getD b.entityId
        assertionConsumerServiceLocation := s.location?.or b.assertionConsumerServiceLocation
        assertingParty := (b.nestedBuilder s.replacesParty).applyAll s.partySettings
        credentials := s.flatChange?.getD id b.credentials
        signingCredentials := s.signingChange?.getD id b.signingCredentials
        decryptionCredentials := s.decryptionChange?.getD id b.decryptionCredentials } := by
  cases s <;> rfl

/-- An older name is the current one. -/
theorem apply_current (b : Builder) (s : Setting) : b.apply s.current = b.apply s := by
  cases s with
  | assertingParty fresh settings =>
      simp only [Setting.current, apply, AssertingParty.Builder.applyAll_map_current]
  | _ => rfl

/-- **Only what follows the last replacement reaches the nested builder.** -/
theorem assertingParty_applyAll (b : Builder) (run : List Setting) :
    (b.applyAll run).assertingParty
      = (b.nestedBuilder (run.any Setting.replacesParty)).applyAll
          ((sinceReplacement run).flatMap Setting.partySettings) := by
  induction run generalizing b with
  | nil => rfl
  | cons s run ih =>
      have hrun : (b.applyAll (s :: run)).assertingParty
          = ((b.apply s).applyAll run).assertingParty := rfl
      rw [hrun, ih]
      by_cases hr : run.any Setting.replacesParty = true
      · -- a later setting replaces the party, and `s` is lost on it
        have hany : (s :: run).any Setting.replacesParty = true := by
          rw [List.any_cons, hr, Bool.or_true]
        rw [hr, hany, sinceReplacement, if_pos hr]
        rfl
      · -- `s` is the last that may replace the party
        have hnone : run.any Setting.replacesParty = false := Bool.eq_false_iff.mpr hr
        have hany : (s :: run).any Setting.replacesParty = s.replacesParty := by
          rw [List.any_cons, hnone, Bool.or_false]
        have hnested : (b.apply s).nestedBuilder false
            = (b.nestedBuilder s.replacesParty).applyAll s.partySettings :=
          congrArg Builder.assertingParty (apply_eq b s)
        rw [hnone, hany, sinceReplacement, if_neg hr, sinceReplacement_of_none hnone, hnested,
          List.flatMap_cons]
        exact List.foldl_append.symm

/-- **A builder is its writes.** -/
theorem applyAll_eq_builder (id : String) (run : List Setting) :
    (ofId id).applyAll run = (Writes.ofRun run).builder id := by
  have hid := foldl_lastWrite_getD Builder.registrationId Setting.registrationId?
    (fun b s => congrArg Builder.registrationId (apply_eq b s)) (ofId id) run
  have hentity := foldl_lastWrite_getD Builder.entityId Setting.entityId?
    (fun b s => congrArg Builder.entityId (apply_eq b s)) (ofId id) run
  have hlocation := foldl_lastWrite Builder.assertionConsumerServiceLocation Setting.location?
    (fun b s => congrArg Builder.assertionConsumerServiceLocation (apply_eq b s)) (ofId id) run
  have hparty := assertingParty_applyAll (ofId id) run
  -- a builder that has nothing but an id does not care whether its nested builder is replaced
  have hdefault : (ofId id).nestedBuilder (run.any Setting.replacesParty) = {} := by
    cases run.any Setting.replacesParty <;> rfl
  rw [hdefault, AssertingParty.Builder.applyAll_eq_builder] at hparty
  have hflat := foldl_changes Builder.credentials Setting.flatChange?
    (fun b s => congrArg Builder.credentials (apply_eq b s)) (ofId id) run
  have hsigning := foldl_changes Builder.signingCredentials Setting.signingChange?
    (fun b s => congrArg Builder.signingCredentials (apply_eq b s)) (ofId id) run
  have hdecryption := foldl_changes Builder.decryptionCredentials Setting.decryptionChange?
    (fun b s => congrArg Builder.decryptionCredentials (apply_eq b s)) (ofId id) run
  exact ext hid hentity (hlocation.trans Option.or_none) hparty hflat hsigning hdecryption

end Builder

namespace Session

namespace Step

def setting? : Step → Option Setting
  | .set s => some s
  | _ => none

/-- Whether a step leaves the same builder at work: it is a setting, a build, or a look at what is
there. The other steps go on with a builder, or a nested builder, that comes from elsewhere. -/
def keepsBuilder : Step → Bool
  | .restart _ | .derive _ | .assertingPartyOf _ | .restore _ => false
  | _ => true

/-- The step with its setting, if it is one, under its current name. -/
def current : Step → Step
  | .set s => .set s.current
  | st => st

end Step

/-- What a run of steps writes to the builder. -/
def writes (steps : List Step) : Writes := .ofRun (steps.filterMap Step.setting?)

theorem builder_step {s : Session} {st : Step} (h : st.keepsBuilder = true) :
    (s.step st).2.builder = s.builder.applyAll st.setting?.toList := by
  cases st with
  | restart _ | derive _ | assertingPartyOf _ | restore _ => exact Bool.noConfusion h
  | equal _ _ =>
      simp only [step]
      split <;> rfl
  | set _ | build | save | summary _ | aliases _ | describe _ | describeBuilder => rfl

/-- Builds leave no trace in the builder, whatever comes of them. -/
theorem builder_after {s : Session} {steps : List Step}
    (h : ∀ st ∈ steps, st.keepsBuilder = true) :
    (s.after steps).builder = s.builder.applyAll (steps.filterMap Step.setting?) := by
  induction steps generalizing s with
  | nil => rfl
  | cons st sts ih =>
      obtain ⟨hst, hsts⟩ := List.forall_mem_cons.mp h
      rw [after_cons, ih hsts, builder_step hst, ← Builder.applyAll_append]
      congr 1
      cases hs : st.setting? with
      | none => rw [List.filterMap_cons_none hs]; rfl
      | some x => rw [List.filterMap_cons_some hs]; rfl

/-- **A session's builder is the writes of its steps.** -/
theorem builder_after_eq (id : String) {steps : List Step}
    (h : ∀ st ∈ steps, st.keepsBuilder = true) :
    (after { builder := .ofId id } steps).builder = (writes steps).builder id := by
  rw [builder_after h]
  exact Builder.applyAll_eq_builder id _

theorem step_current (s : Session) (st : Step) : (s.step st.current).2 = (s.step st).2 := by
  cases st with
  | set x =>
      simp only [Step.current, step, Builder.apply_current]
  | _ => rfl

theorem after_map_current (s : Session) (steps : List Step) :
    s.after (steps.map Step.current) = s.after steps := by
  induction steps generalizing s with
  | nil => rfl
  | cons st sts ih =>
      rw [List.map_cons, after_cons, after_cons, step_current, ih]

/-- **A build is determined by what was written last.** It is the build of the writes; so runs
with the same writes, however their settings are ordered and wherever they build in between, come
to the same result and the same records. Writing a field under its older name or its current one
makes no difference to anything the session holds, and so to no build. -/
theorem build_determined_by_writes (id : String) :
    (∀ steps : List Step, (∀ st ∈ steps, st.keepsBuilder = true) →
      (after { builder := .ofId id } steps).builder.build = ((writes steps).builder id).build) ∧
    (∀ xs ys : List Step, (∀ st ∈ xs, st.keepsBuilder = true) →
      (∀ st ∈ ys, st.keepsBuilder = true) → writes xs = writes ys →
      (after { builder := .ofId id } xs).builder.build
        = (after { builder := .ofId id } ys).builder.build) ∧
    ∀ (s : Session) (xs ys : List Step), xs.map Step.current = ys.map Step.current →
      s.after xs = s.after ys ∧ (s.after xs).builder.build = (s.after ys).builder.build := by
  refine ⟨?_, ?_, ?_⟩
  · intro steps h
    rw [builder_after_eq id h]
  · intro xs ys hx hy hw
    rw [builder_after_eq id hx, builder_after_eq id hy, hw]
  · intro s xs ys h
    have hsame : s.after xs = s.after ys := by
      rw [← after_map_current s xs, h, after_map_current s ys]
    exact ⟨hsame, by rw [hsame]⟩

open Specimen in
/-- Looks at the set before it changes it, and has a condition of its own. -/
def withoutPair (s : CredentialSet) : CredentialSet :=
  if s.contains signer then s.retain fun c => c.certificate ≠ "pair" else s.insert signer

open Specimen in
/-- Older names, values written over, a build that fails and a party that is replaced. -/
def scatteredRun : List Step :=
  [.set (.remoteIdpEntityId "gone"), .set (.localEntityIdTemplate "entity"), .build,
   .set (.assertingParty true [.webSsoUrl "draft", .entityId "idp"]),
   .set (.signing [.insert keyPair, .insert signer]), .set (.idpWebSsoUrl "sso"),
   .set (.assertionConsumerServiceUrlTemplate "acs"), .set (.modifySigning withoutPair)]

open Specimen in
/-- The same writes in another order. -/
def orderlyRun : List Step :=
  [.set (.assertionConsumerServiceLocation "acs"),
   .set (.signing [.insert keyPair, .insert signer]),
   .set (.assertingParty true [.singleSignOnServiceLocation "sso"]),
   .set (.modifySigning withoutPair), .build,
   .set (.assertingParty false [.entityId "idp"]), .set (.entityId "entity")]

/-- Both runs, and the first under current names, come to one registration. -/
theorem build_determined_by_writes_specimen :
    (∀ st ∈ scatteredRun, st.keepsBuilder = true) ∧
      (∀ st ∈ orderlyRun, st.keepsBuilder = true) ∧ writes scatteredRun = writes orderlyRun ∧
      scatteredRun.map Step.current = (scatteredRun.map Step.current).map Step.current ∧
      ∃ r, (after { builder := .ofId "sp" } scatteredRun).builder.build.value = .ok r ∧
        (after { builder := .ofId "sp" } orderlyRun).builder.build.value = .ok r ∧
        (after { builder := .ofId "sp" } (scatteredRun.map Step.current)).builder.build.value
          = .ok r := by
  have hx : ∀ st ∈ scatteredRun, st.keepsBuilder = true := by simp [scatteredRun, Step.keepsBuilder]
  have hy : ∀ st ∈ orderlyRun, st.keepsBuilder = true := by simp [orderlyRun, Step.keepsBuilder]
  obtain ⟨hwrites, horder, hnames⟩ := build_determined_by_writes "sp"
  have hcurrent : scatteredRun.map Step.current
      = (scatteredRun.map Step.current).map Step.current := rfl
  have hr : ((writes scatteredRun).builder "sp").build.value
      = .ok ((writes scatteredRun).builder "sp").reconciled.described := rfl
  have hok := (congrArg Log.Traced.value (hwrites scatteredRun hx)).trans hr
  refine ⟨hx, hy, rfl, hcurrent, _, hok, ?_, ?_⟩
  · rw [← horder scatteredRun orderlyRun hx hy rfl]
    exact hok
  · rw [← (hnames { builder := .ofId "sp" } _ _ hcurrent).2]
    exact hok

end Session

end Registration

end RelyingParty
