import RelyingParty.Proofs.Credential.Outcome
import RelyingParty.Proofs.Settings.Dependence
import RelyingParty.Proofs.Settings.Outcome

/-!
# The sources that precedence selects

Of the sources that a credential entry names, precedence selects which ones count, and a build looks
at no others (`build_congr`). Here this is turned round: a file or a variable that every entry
spares can be anything. And it is said what becomes of a source that does count and is of no use. A
variable that is set gives the key, whatever else there is (`resolve_withKey`), so one that is set
to a blank text ends the build, and the inline key and the file behind it do not help.

Two worlds in which the same files can be read may still differ in why the others cannot. The reason
is part of the error and plays no other role, which `reasonless` says: forgetting the reasons in the
world is forgetting them in the result.
-/

namespace RelyingParty

open Text (isBlank)

/-! ## Why a file cannot be read -/

/-- The error without the reason why a file could not be read. -/
def SettingsError.reasonless : SettingsError → SettingsError
  | io path _ => io path .notFound
  | parse fault => parse fault
  | configuration id source => configuration id source

/-- The world in which each file that cannot be read is not there. -/
def World.reasonless (w : World) : World :=
  { w with read := fun path => (w.read path).mapError fun _ => .notFound }

section Reasonless

variable {w : World}

theorem mapError_bind {ε δ α β : Type} (x : Except ε α) (f : α → Except ε β) (g : ε → δ) :
    (x >>= f).mapError g = x.mapError g >>= fun a => (f a).mapError g := by
  cases x <;> rfl

theorem World.read_reasonless_of_ok {path text : String} (h : w.read path = .ok text) :
    w.reasonless.read path = .ok text := by
  show (w.read path).mapError _ = _
  rw [h]
  rfl

theorem World.read_reasonless_of_error {path : String} {failure : ReadFailure}
    (h : w.read path = .error failure) : w.reasonless.read path = .error .notFound := by
  show (w.read path).mapError _ = _
  rw [h]
  rfl

theorem World.Gives.reasonless {inline path : Option String}
    {r : Except SettingsError (Option String)} (h : w.Gives inline path r) :
    w.reasonless.Gives inline path (r.mapError .reasonless) := by
  cases h with
  | inline hinline => exact .inline hinline
  | file hinline hpath hread => exact .file hinline hpath (read_reasonless_of_ok hread)
  | unreadable hinline hpath hread =>
      exact .unreadable hinline hpath (read_reasonless_of_error hread)
  | nothing hinline hpath => exact .nothing hinline hpath

namespace CredentialSettings

variable {id field : String} {c : CredentialSettings}

theorem GivesKey.reasonless {r : Except SettingsError (Option String)} (h : c.GivesKey w r) :
    c.GivesKey w.reasonless (r.mapError .reasonless) := by
  cases h with
  | environment hname hset => exact .environment hname hset
  | otherwise hunset hgives => exact .otherwise hunset hgives.reasonless

theorem Resolves.reasonless {r : Except SettingsError Credential} (h : c.Resolves w id field r) :
    c.Resolves w.reasonless id field (r.mapError .reasonless) := by
  cases h with
  | certificateUnreadable hinline hpath hread =>
      exact .certificateUnreadable hinline hpath (World.read_reasonless_of_error hread)
  | nothingGiven hinline hpath => exact .nothingGiven hinline hpath
  | keyUnreadable hcertificate hunset hinline hpath hread =>
      exact .keyUnreadable hcertificate.reasonless hunset hinline hpath
        (World.read_reasonless_of_error hread)
  | refused hcertificate hkey hcreate =>
      exact .refused hcertificate.reasonless hkey.reasonless hcreate
  | credential hcertificate hkey hcreate =>
      exact .credential hcertificate.reasonless hkey.reasonless hcreate

theorem resolve_reasonless (w : World) (id field : String) (c : CredentialSettings) :
    c.resolve w.reasonless id field = (c.resolve w id field).mapError .reasonless :=
  (resolves_resolve w id field c).reasonless.resolve_eq

theorem resolveAll_reasonless (w : World) (id field : String) (cs : List CredentialSettings) :
    resolveAll w.reasonless id field cs
      = (resolveAll w id field cs).mapError .reasonless := by
  induction cs with
  | nil => rfl
  | cons c cs ih =>
      rw [resolveAll, resolveAll, resolve_reasonless, ih]
      simp only [mapError_bind]
      rfl

end CredentialSettings

/-- **Reasons pass through to the error.** -/
theorem RelyingPartySettings.toBuilder_reasonless (w : World) (s : RelyingPartySettings) :
    s.toBuilder w.reasonless = (s.toBuilder w).mapError .reasonless := by
  simp only [toBuilder, AssertingPartySettings.toBuilder,
    CredentialSettings.resolveAll_reasonless, mapError_bind]
  rfl

theorem RelyingPartySettings.build_reasonless (w : World) (s : RelyingPartySettings) :
    (s.build w.reasonless).value = (s.build w).value.mapError .reasonless ∧
      (s.build w.reasonless).events = (s.build w).events := by
  rw [build, build, toBuilder_reasonless]
  cases s.toBuilder w with
  | error e => exact ⟨rfl, rfl⟩
  | ok b =>
      refine ⟨?_, rfl⟩
      show b.build.value.mapError _ = (b.build.value.mapError _).mapError _
      cases b.build.value <;> rfl

end Reasonless

/-! ## Sources that do not count -/

namespace CredentialSettings

variable {w w' : World} {id field : String} {c : CredentialSettings} {text : String}

/-- The file does not count for the entry: its text is given inline, or it is the file of a key that
a variable gives or that goes with no certificate. -/
structure SparesFile (w : World) (c : CredentialSettings) (path : String) : Prop where
  certificate : c.certificatePath = some path → c.certificate.isSome
  key : c.privateKeyPath = some path →
    c.privateKey.isSome ∨ ¬ c.VariableUnset w ∨ ¬ c.NamesCertificate

/-- The variable does not count for the entry: its key goes with no certificate. -/
def SparesVariable (c : CredentialSettings) (name : String) : Prop :=
  c.privateKeyEnv = some name → ¬ c.NamesCertificate

/-- **Only sources that an entry does not spare can tell worlds apart.** -/
theorem sameSources_of_spared
    (hread : ∀ path, w'.read path = w.read path ∨ c.SparesFile w path)
    (hvariable : ∀ name, w'.variableText? name = w.variableText? name ∨ c.SparesVariable name) :
    c.SameSources w w' where
  certificateFile hinline path hpath := by
    rcases hread path with hsame | hspared
    · exact hsame
    · have hgiven := hspared.certificate hpath
      simp [hinline] at hgiven
  keyVariable hnames name hname := by
    rcases hvariable name with hsame | hspared
    · exact hsame
    · exact absurd hnames (hspared hname)
  keyFile hnames hinline hunset path hpath := by
    rcases hread path with hsame | hspared
    · exact hsame
    · rcases hspared.key hpath with hgiven | hset | hnone
      · simp [hinline] at hgiven
      · exact absurd hunset hset
      · exact absurd hnames hnone

/-! ## Variables that are set -/

/-- The variable of the entry is set to this text. -/
def VariableHolds (w : World) (c : CredentialSettings) (text : String) : Prop :=
  ∃ name, c.privateKeyEnv = some name ∧ w.variableText? name = some text

/-- The entry with this text for its key, and no other source of one. -/
def withKey (c : CredentialSettings) (text : String) : CredentialSettings :=
  { c with privateKey := some text, privateKeyPath := none, privateKeyEnv := none }

theorem VariableHolds.resolvePrivateKey_eq (h : c.VariableHolds w text) :
    c.resolvePrivateKey w = .ok (some text) := by
  obtain ⟨name, hname, hset⟩ := h
  exact (GivesKey.environment hname hset).resolvePrivateKey_eq

/-- **A variable that is set is the only source of the key.** -/
theorem resolve_withKey (h : c.VariableHolds w text) (id field : String) :
    c.resolve w id field = (c.withKey text).resolve w id field := by
  rw [resolve, resolve, h.resolvePrivateKey_eq]
  rfl

/-- A blank text in the variable makes no credential. -/
theorem not_resolves_of_blank (h : c.VariableHolds w text) (hblank : isBlank text = true)
    (credential : Credential) : ¬ c.Resolves w id field (.ok credential) := by
  intro hok
  cases hok with
  | credential hcertificate hkey hcreate =>
      have hk : some text = _ := Except.ok.inj
        (h.resolvePrivateKey_eq.symm.trans hkey.resolvePrivateKey_eq)
      obtain ⟨-, hown, -⟩ := Credential.create_eq_ok_iff.mp hcreate
      -- the credential would have the text for its key, and a blank one it does not admit
      have hvisible := credential.privateKey_visible text (hown.trans hk.symm)
      rw [hblank] at hvisible
      cases hvisible

/-- With a certificate, it is refused as a missing key. -/
theorem resolves_of_blank (h : c.VariableHolds w text) (hblank : isBlank text = true)
    {certificate : String}
    (hcertificate : w.Gives c.certificate c.certificatePath (.ok (some certificate))) :
    c.Resolves w id field (.error (.configuration id (.missingField "privateKey"))) := by
  obtain ⟨name, hname, hset⟩ := h
  exact .refused hcertificate (.environment hname hset)
    (Credential.create_eq_iff.mpr (.blankKey rfl hblank))

end CredentialSettings

namespace RelyingPartySettings

/-- **A build looks only at the sources that precedence selects.** Worlds in which these are the
same give the same builder, the same result and the same records. If they are the same but for the
reasons why files cannot be read, so is the result. Every other file and variable can be anything:
files whose text is given inline, files of keys that variables give, and whatever is named for the
key of an entry without a certificate. A variable that is set counts in place of the inline key and
of the file, even if it is blank. Then the build fails, and where nothing fails before that entry
and there is a certificate, for want of a key. -/
theorem build_looks_at_selected_sources (w : World) (s : RelyingPartySettings) :
    (∀ w', (∀ c ∈ s.credentialEntries, c.SameSources w w') →
      s.toBuilder w' = s.toBuilder w ∧ s.build w' = s.build w) ∧
    (∀ w', (∀ c ∈ s.credentialEntries, c.SameSources w.reasonless w'.reasonless) →
      (s.toBuilder w').mapError SettingsError.reasonless
        = (s.toBuilder w).mapError SettingsError.reasonless ∧
      (s.build w').value.mapError SettingsError.reasonless
        = (s.build w).value.mapError SettingsError.reasonless ∧
      (s.build w').events = (s.build w).events) ∧
    (∀ w',
      (∀ path, w'.read path = w.read path ∨ ∀ c ∈ s.credentialEntries, c.SparesFile w path) →
      (∀ name, w'.variableText? name = w.variableText? name ∨
        ∀ c ∈ s.credentialEntries, c.SparesVariable name) →
      s.toBuilder w' = s.toBuilder w ∧ s.build w' = s.build w) ∧
    (∀ (c : CredentialSettings) text, c.VariableHolds w text → ∀ id field,
      c.resolve w id field = (c.withKey text).resolve w id field) ∧
    (∀ before x after text, s.entries = before ++ x :: after → x.2.VariableHolds w text →
      isBlank text = true →
      (∃ e, s.toBuilder w = .error e ∧ s.build w = ⟨.error e, []⟩) ∧
      ((∀ y ∈ before, ∃ credential, y.2.Resolves w s.registrationId y.1 (.ok credential)) →
        (∃ certificate, w.Gives x.2.certificate x.2.certificatePath (.ok (some certificate))) →
        s.build w
          = ⟨.error (.configuration s.registrationId (.missingField "privateKey")), []⟩)) := by
  refine ⟨?_, ?_, ?_, ?_, ?_⟩
  · intro w' h
    exact ⟨toBuilder_congr h, build_congr h⟩
  · intro w' h
    -- without their reasons the worlds cannot be told apart, and the reasons only pass through
    have hbuild := build_congr h
    obtain ⟨hvalue, hevents⟩ := build_reasonless w s
    obtain ⟨hvalue', hevents'⟩ := build_reasonless w' s
    rw [← toBuilder_reasonless, ← toBuilder_reasonless, ← hvalue, ← hvalue', ← hevents, ← hevents',
      hbuild]
    exact ⟨toBuilder_congr h, rfl, rfl⟩
  · intro w' hread hvariable
    have hsame : ∀ c ∈ s.credentialEntries, c.SameSources w w' := by
      intro c hc
      refine CredentialSettings.sameSources_of_spared ?_ ?_
      · intro path
        exact (hread path).imp_right fun h => h c hc
      · intro name
        exact (hvariable name).imp_right fun h => h c hc
    exact ⟨toBuilder_congr hsame, build_congr hsame⟩
  · intro c text h id field
    exact CredentialSettings.resolve_withKey h id field
  · intro before x after text hsplit hset hblank
    have hx : x ∈ s.entries := by simp [hsplit]
    obtain ⟨e, he⟩ := exists_toBuilder_eq_error_iff.mpr
      ⟨x, hx, CredentialSettings.not_resolves_of_blank hset hblank⟩
    refine ⟨⟨e, he, build_of_toBuilder_error he⟩, ?_⟩
    -- some failure ends the build in any case; that it is this one takes what stands before
    intro hbefore hgives
    obtain ⟨certificate, hcertificate⟩ := hgives
    exact build_of_toBuilder_error (toBuilder_eq_error_of_first hsplit hbefore
      (CredentialSettings.resolves_of_blank hset hblank hcertificate))

open Specimen in
/-- The key of the first entry is in a variable, and all of the second is inline. The files behind
them can be there or not, but a blank variable is not made good by the file. -/
theorem build_looks_at_selected_sources_specimen :
    let shadowed : CredentialSettings :=
      { signerEntry with certificatePath := some "lost.pem", privateKeyPath := some "lost.pem" }
    let s : RelyingPartySettings :=
      { relyingParty with signingCredentials := [shadowed, pairEntry] }
    let found : World :=
      { world with
        read := fun path => if path = "pair.pem" then .ok "pair" else .ok "another text" }
    (∃ r, (s.build world).value = .ok r) ∧ s.build found = s.build world ∧
      s.build (found.withVariable "SP_KEY" (.text " "))
        = ⟨.error (.configuration "sp" (.missingField "privateKey")), []⟩ := by
  intro shadowed s found
  have hs : s.ResolvesTo world ⟨[signer, keyPair], [], [], [], []⟩ := by constructor <;> rfl
  have hbuilt : (s.build world).value
      = .ok (s.filled ⟨[signer, keyPair], [], [], [], []⟩).reconciled.described := by
    rw [hs.build_value, Registration.Builder.build_value_eq_ok_iff.mpr
      ⟨valid_filled_iff.mpr (by decide), rfl⟩]
    rfl
  refine ⟨⟨_, hbuilt⟩, ?_, ?_⟩
  · obtain ⟨-, -, hspared, -⟩ := build_looks_at_selected_sources world s
    refine (hspared found ?_ fun name => Or.inl rfl).2
    intro path
    by_cases hpath : path = "pair.pem"
    · exact Or.inl (by rw [hpath]; rfl)
    · refine Or.inr ?_
      intro c hc
      rcases List.mem_cons.mp hc with rfl | hc
      · exact ⟨fun _ => rfl, fun _ => Or.inl rfl⟩
      · obtain rfl := List.mem_singleton.mp hc
        refine ⟨fun hcertificate => absurd (Option.some.inj hcertificate).symm hpath, ?_⟩
        intro _
        refine Or.inr (Or.inl ?_)
        intro hunset
        cases hunset "SP_KEY" rfl
  · obtain ⟨-, -, -, -, hblank⟩ :=
      build_looks_at_selected_sources (found.withVariable "SP_KEY" (.text " ")) s
    refine (hblank [("signingX509Credentials", shadowed)] ("signingX509Credentials", pairEntry) []
      " " rfl ⟨"SP_KEY", rfl, rfl⟩ (by decide)).2 ?_ ⟨"pair", .file rfl rfl rfl⟩
    intro y hy
    obtain rfl := List.mem_singleton.mp hy
    exact ⟨signer, CredentialSettings.resolve_eq_iff.mp rfl⟩

end RelyingPartySettings

end RelyingParty
