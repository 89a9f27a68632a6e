import RelyingParty.Proofs.Specimen
import RelyingParty.Settings.Resolution

/-!
# Which credential entries resolve

A credential entry names sources for a certificate and for a private key. What comes of it is said
here as a relation, in terms of those sources and of the world alone: `Resolves` has one case for
the credential and four for the ways to fail. It agrees with resolution (`resolve_eq_iff`).

The settings of a registration hold five lists of entries, which are resolved one after the
other. Of all the entries in this order, the first that does not resolve decides what comes of
the settings, and nothing else that may be wrong with them is looked at.
-/

namespace RelyingParty

/-- What an inline value and the path of a file give together: the inline value if there is one,
else what reading the file gives, else nothing. -/
inductive World.Gives (w : World) (inline path : Option String) :
    Except SettingsError (Option String) → Prop
  | inline {text : String} (hinline : inline = some text) : Gives w inline path (.ok (some text))
  | file {p text : String} (hinline : inline = none) (hpath : path = some p)
      (hread : w.read p = .ok text) : Gives w inline path (.ok (some text))
  | unreadable {p : String} {failure : ReadFailure} (hinline : inline = none)
      (hpath : path = some p) (hread : w.read p = .error failure) :
      Gives w inline path (.error (.io p failure))
  | nothing (hinline : inline = none) (hpath : path = none) : Gives w inline path (.ok none)

namespace World

variable {w : World} {inline path : Option String}

theorem material_file {p : String} (hinline : inline = none) (hpath : path = some p) :
    w.material inline path = ((w.read p).mapError (.io p)).map some := by
  rw [hinline, hpath]
  rfl

theorem gives_material (w : World) (inline path : Option String) :
    w.Gives inline path (w.material inline path) := by
  cases hi : inline with
  | some text => exact .inline rfl
  | none =>
      cases hp : path with
      | none => exact .nothing rfl rfl
      | some p =>
          rw [material_file rfl rfl]
          cases hr : w.read p with
          | error failure => exact .unreadable rfl rfl hr
          | ok text => exact .file rfl rfl hr

theorem Gives.material_eq {r : Except SettingsError (Option String)}
    (h : w.Gives inline path r) : w.material inline path = r := by
  cases h with
  | inline hinline =>
      rw [hinline]
      rfl
  | file hinline hpath hread | unreadable hinline hpath hread =>
      rw [material_file hinline hpath, hread]
      rfl
  | nothing hinline hpath =>
      rw [hinline, hpath]
      rfl

end World

namespace CredentialSettings

variable {w : World} {id field : String} {c : CredentialSettings}

/-- No variable holds the private key. -/
def VariableUnset (w : World) (c : CredentialSettings) : Prop :=
  ∀ name ∈ c.privateKeyEnv, w.variableText? name = none

/-- What the sources of the private key give: a variable that is set comes first. -/
inductive GivesKey (w : World) (c : CredentialSettings) :
    Except SettingsError (Option String) → Prop
  | environment {name text : String} (hname : c.privateKeyEnv = some name)
      (hset : w.variableText? name = some text) : GivesKey w c (.ok (some text))
  | otherwise {r : Except SettingsError (Option String)} (hunset : c.VariableUnset w)
      (hgives : w.Gives c.privateKey c.privateKeyPath r) : GivesKey w c r

theorem resolvePrivateKey_of_unset (h : c.VariableUnset w) :
    c.resolvePrivateKey w = w.material c.privateKey c.privateKeyPath := by
  have hnone : c.privateKeyEnv.bind w.variableText? = none := Option.bind_eq_none_iff.mpr h
  rw [resolvePrivateKey, hnone]

theorem givesKey_resolvePrivateKey (w : World) (c : CredentialSettings) :
    c.GivesKey w (c.resolvePrivateKey w) := by
  cases hv : c.privateKeyEnv.bind w.variableText? with
  | some text =>
      obtain ⟨name, hname, hset⟩ := Option.bind_eq_some_iff.mp hv
      rw [resolvePrivateKey, hv]
      exact .environment hname hset
  | none =>
      have hunset : c.VariableUnset w := Option.bind_eq_none_iff.mp hv
      rw [resolvePrivateKey_of_unset hunset]
      exact .otherwise hunset (World.gives_material w _ _)

theorem GivesKey.resolvePrivateKey_eq {r : Except SettingsError (Option String)}
    (h : c.GivesKey w r) : c.resolvePrivateKey w = r := by
  cases h with
  | environment hname hset => rw [resolvePrivateKey, hname, Option.bind_some, hset]
  | otherwise hunset hgives => rw [resolvePrivateKey_of_unset hunset, hgives.material_eq]

/-- What comes of an entry of the collection `field` of the registration `id`. -/
inductive Resolves (w : World) (id field : String) (c : CredentialSettings) :
    Except SettingsError Credential → Prop
  /-- There is no inline certificate and its file cannot be read. -/
  | certificateUnreadable {path : String} {failure : ReadFailure} (hinline : c.certificate = none)
      (hpath : c.certificatePath = some path) (hread : w.read path = .error failure) :
      Resolves w id field c (.error (.io path failure))
  /-- There is neither a certificate nor the path of one; the key does not matter. -/
  | nothingGiven (hinline : c.certificate = none) (hpath : c.certificatePath = none) :
      Resolves w id field c (.error (.configuration id (.nullElement field)))
  /-- There is a certificate, but neither a variable nor an inline value gives the key, and its
  file cannot be read. -/
  | keyUnreadable {certificate path : String} {failure : ReadFailure}
      (hcertificate : w.Gives c.certificate c.certificatePath (.ok (some certificate)))
      (hunset : c.VariableUnset w) (hinline : c.privateKey = none)
      (hpath : c.privateKeyPath = some path) (hread : w.read path = .error failure) :
      Resolves w id field c (.error (.io path failure))
  /-- The material is there, with a key or without, and no credential can be made of it. -/
  | refused {certificate : String} {privateKey : Option String} {e : ConfigurationError}
      (hcertificate : w.Gives c.certificate c.certificatePath (.ok (some certificate)))
      (hkey : c.GivesKey w (.ok privateKey))
      (hcreate : Credential.create privateKey certificate c.usages = .error e) :
      Resolves w id field c (.error (.configuration id e))
  | credential {certificate : String} {privateKey : Option String} {credential : Credential}
      (hcertificate : w.Gives c.certificate c.certificatePath (.ok (some certificate)))
      (hkey : c.GivesKey w (.ok privateKey))
      (hcreate : Credential.create privateKey certificate c.usages = .ok credential) :
      Resolves w id field c (.ok credential)

/-- With a certificate, an entry is what its key makes of it. -/
theorem resolve_of_certificate {certificate : String}
    (h : c.resolveCertificate w = .ok (some certificate)) :
    c.resolve w id field = (c.resolvePrivateKey w >>= fun privateKey =>
      (Credential.create privateKey certificate c.usages).mapError (.configuration id)) := by
  rw [resolve, h]
  cases c.resolvePrivateKey w with
  | error e => rfl
  | ok privateKey => cases privateKey <;> rfl

theorem resolve_of_certificate_error {e : SettingsError} (h : c.resolveCertificate w = .error e) :
    c.resolve w id field = .error e := by
  rw [resolve, h]
  rfl

theorem resolve_of_no_certificate (h : c.resolveCertificate w = .ok none) :
    c.resolve w id field = .error (.configuration id (.nullElement field)) := by
  rw [resolve, h]
  rfl

theorem resolves_resolve (w : World) (id field : String) (c : CredentialSettings) :
    c.Resolves w id field (c.resolve w id field) := by
  have hgives : w.Gives c.certificate c.certificatePath (c.resolveCertificate w) :=
    World.gives_material w _ _
  cases hm : c.resolveCertificate w with
  | error e =>
      rw [hm] at hgives
      rw [resolve_of_certificate_error hm]
      cases hgives with
      | unreadable hinline hpath hread => exact .certificateUnreadable hinline hpath hread
  | ok certificate? =>
      rw [hm] at hgives
      cases certificate? with
      | none =>
          rw [resolve_of_no_certificate hm]
          cases hgives with
          | nothing hinline hpath => exact .nothingGiven hinline hpath
      | some certificate =>
          have hkey := givesKey_resolvePrivateKey w c
          rw [resolve_of_certificate hm]
          cases hk : c.resolvePrivateKey w with
          | error e =>
              rw [hk] at hkey
              cases hkey with
              | otherwise hunset hnone =>
                  cases hnone with
                  | unreadable hinline hpath hread =>
                      exact .keyUnreadable hgives hunset hinline hpath hread
          | ok privateKey =>
              rw [hk] at hkey
              show c.Resolves w id field
                ((Credential.create privateKey certificate c.usages).mapError (.configuration id))
              cases hc : Credential.create privateKey certificate c.usages with
              | error e => exact .refused hgives hkey hc
              | ok credential => exact .credential hgives hkey hc

theorem Resolves.resolve_eq {r : Except SettingsError Credential} (h : c.Resolves w id field r) :
    c.resolve w id field = r := by
  cases h with
  | certificateUnreadable hinline hpath hread =>
      exact resolve_of_certificate_error (World.Gives.unreadable hinline hpath hread).material_eq
  | nothingGiven hinline hpath =>
      exact resolve_of_no_certificate (World.Gives.nothing hinline hpath).material_eq
  | keyUnreadable hcertificate hunset hinline hpath hread =>
      have hkey : c.GivesKey w _ := .otherwise hunset (.unreadable hinline hpath hread)
      rw [resolve_of_certificate hcertificate.material_eq, hkey.resolvePrivateKey_eq]
      rfl
  | refused hcertificate hkey hcreate | credential hcertificate hkey hcreate =>
      rw [resolve_of_certificate hcertificate.material_eq, hkey.resolvePrivateKey_eq]
      simp only [bind, Except.bind, hcreate]
      rfl

/-- **An entry resolves as its sources say.** -/
theorem resolve_eq_iff {r : Except SettingsError Credential} :
    c.resolve w id field = r ↔ c.Resolves w id field r := by
  constructor
  · intro h
    rw [← h]
    exact resolves_resolve w id field c
  · intro h
    exact h.resolve_eq

end CredentialSettings

section FirstError

variable {ε α β : Type}

/-- The error of a computation that failed. -/
def errorOf? : Except ε α → Option ε
  | .error e => some e
  | .ok _ => none

theorem errorOf?_eq_some_iff {x : Except ε α} {e : ε} : errorOf? x = some e ↔ x = .error e := by
  cases x <;> simp [errorOf?]

theorem errorOf?_eq_none_iff {x : Except ε α} : errorOf? x = none ↔ ∃ a, x = .ok a := by
  cases x <;> simp [errorOf?]

/-- A computation that goes on after another succeeds only if both do. -/
theorem bind_eq_ok {x : Except ε α} {k : α → Except ε β} {b : β} (h : (x >>= k) = .ok b) :
    ∃ a, x = .ok a ∧ k a = .ok b := by
  cases x with
  | error e => cases h
  | ok a => exact ⟨a, rfl, h⟩

/-- The first of two computations that fails decides, if the second fails as it does whatever the
first gives. -/
theorem errorOf?_bind {x : Except ε α} {k : α → Except ε β} {next : Option ε}
    (h : ∀ a, errorOf? (k a) = next) : errorOf? (x >>= k) = (errorOf? x).or next := by
  cases x with
  | error e => rfl
  | ok a => exact h a

/-- Nothing more can fail once only the result remains to be put together. -/
theorem errorOf?_bind_pure (x : Except ε α) (f : α → β) :
    errorOf? (x >>= fun a => pure (f a)) = errorOf? x := by
  cases x <;> rfl

end FirstError

namespace RelyingPartySettings

/-- The error of an entry that does not resolve, the entry given with its collection. -/
def failure? (w : World) (id : String) (x : String × CredentialSettings) : Option SettingsError :=
  errorOf? (x.2.resolve w id x.1)

/-- Every credential entry with the name of its collection, in the order in which the entries are
resolved. -/
def entries (s : RelyingPartySettings) : List (String × CredentialSettings) :=
  s.signingCredentials.map (("signingX509Credentials", ·))
    ++ s.decryptionCredentials.map (("decryptionX509Credentials", ·))
    ++ s.credentials.map (("credentials", ·))
    ++ s.assertingParty.verificationCredentials.map (("verificationX509Credentials", ·))
    ++ s.assertingParty.encryptionCredentials.map (("encryptionX509Credentials", ·))

theorem errorOf?_resolveAll (w : World) (id field : String) (cs : List CredentialSettings) :
    errorOf? (CredentialSettings.resolveAll w id field cs)
      = (cs.map ((field, ·))).findSome? (failure? w id) := by
  induction cs with
  | nil => rfl
  | cons c cs ih =>
      have hrest : ∀ credential, errorOf? (do
          let credentials ← CredentialSettings.resolveAll w id field cs
          return credential :: credentials)
          = (cs.map ((field, ·))).findSome? (failure? w id) := by
        intro credential
        rw [← ih]
        exact errorOf?_bind_pure _ _
      rw [CredentialSettings.resolveAll, errorOf?_bind hrest, List.map_cons, List.findSome?_cons,
        failure?]
      cases errorOf? (c.resolve w id field) <;> rfl

theorem errorOf?_party_toBuilder (w : World) (id : String) (p : AssertingPartySettings) :
    errorOf? (p.toBuilder w id)
      = ((p.verificationCredentials.map (("verificationX509Credentials", ·))).findSome?
            (failure? w id)).or
          ((p.encryptionCredentials.map (("encryptionX509Credentials", ·))).findSome?
            (failure? w id)) := by
  rw [← errorOf?_resolveAll, ← errorOf?_resolveAll]
  exact errorOf?_bind fun verification => errorOf?_bind_pure _ _

/-- **The first entry that does not resolve decides.** -/
theorem errorOf?_toBuilder (w : World) (s : RelyingPartySettings) :
    errorOf? (s.toBuilder w) = s.entries.findSome? (failure? w s.registrationId) := by
  simp only [entries, List.findSome?_append, Option.or_assoc, ← errorOf?_party_toBuilder]
  simp only [← errorOf?_resolveAll]
  exact errorOf?_bind fun signing => errorOf?_bind fun decryption => errorOf?_bind fun flat =>
    errorOf?_bind_pure _ _

theorem failure?_eq_some_iff {w : World} {id : String} {x : String × CredentialSettings}
    {e : SettingsError} : failure? w id x = some e ↔ x.2.Resolves w id x.1 (.error e) := by
  rw [failure?, errorOf?_eq_some_iff, CredentialSettings.resolve_eq_iff]

theorem failure?_eq_none_iff {w : World} {id : String} {x : String × CredentialSettings} :
    failure? w id x = none ↔ ∃ credential, x.2.Resolves w id x.1 (.ok credential) := by
  simp only [failure?, errorOf?_eq_none_iff, CredentialSettings.resolve_eq_iff]

/-- Settings that give no builder are not built, and leave no record. -/
theorem build_of_toBuilder_error {w : World} {s : RelyingPartySettings} {e : SettingsError}
    (h : s.toBuilder w = .error e) : s.build w = ⟨.error e, []⟩ := by
  rw [build, h]
  rfl

/-- Settings give no builder when some entry does not resolve, and only then. -/
theorem exists_toBuilder_eq_error_iff {w : World} {s : RelyingPartySettings} :
    (∃ e, s.toBuilder w = .error e) ↔
      ∃ x ∈ s.entries, ∀ credential, ¬ x.2.Resolves w s.registrationId x.1 (.ok credential) := by
  have hnone : (∃ e, s.toBuilder w = .error e)
      ↔ ¬ ∀ x ∈ s.entries, failure? w s.registrationId x = none := by
    rw [← List.findSome?_eq_none_iff, ← errorOf?_toBuilder, errorOf?_eq_none_iff]
    cases s.toBuilder w <;> simp
  rw [hnone]
  simp only [failure?_eq_none_iff, Classical.not_forall, not_exists, exists_prop]

/-- An entry that does not resolve, after entries that do, decides. -/
theorem toBuilder_eq_error_of_first {w : World} {s : RelyingPartySettings} {e : SettingsError}
    {before after : List (String × CredentialSettings)} {x : String × CredentialSettings}
    (hsplit : s.entries = before ++ x :: after)
    (hbefore : ∀ y ∈ before, ∃ credential, y.2.Resolves w s.registrationId y.1 (.ok credential))
    (hx : x.2.Resolves w s.registrationId x.1 (.error e)) : s.toBuilder w = .error e := by
  rw [← errorOf?_eq_some_iff, errorOf?_toBuilder, hsplit, List.findSome?_append,
    List.findSome?_eq_none_iff.mpr fun y hy => failure?_eq_none_iff.mpr (hbefore y hy),
    List.findSome?_cons, failure?_eq_some_iff.mpr hx]
  rfl

/-- **Settings report the first entry that does not resolve,** in the order signing, decryption,
flat, verification, encryption and within a collection from the front. The builder and the build
both fail with what comes of that entry, and of nothing else: the settings may have blank texts,
misplaced usages or further entries that do not resolve. -/
theorem toBuilder_reports_first_unresolved (w : World) (s : RelyingPartySettings)
    (h : ∃ x ∈ s.entries, ∀ credential, ¬ x.2.Resolves w s.registrationId x.1 (.ok credential)) :
    ∃ before x after e, s.entries = before ++ x :: after ∧
      (∀ y ∈ before, ∃ credential, y.2.Resolves w s.registrationId y.1 (.ok credential)) ∧
      x.2.Resolves w s.registrationId x.1 (.error e) ∧
      (∀ r, x.2.Resolves w s.registrationId x.1 r → r = .error e) ∧
      s.toBuilder w = .error e ∧ s.build w = ⟨.error e, []⟩ := by
  obtain ⟨y, hy, hunresolved⟩ := h
  have hsome : s.entries.findSome? (failure? w s.registrationId) ≠ none := by
    intro hnone
    obtain ⟨credential, hresolves⟩ :=
      failure?_eq_none_iff.mp (List.findSome?_eq_none_iff.mp hnone y hy)
    exact hunresolved credential hresolves
  obtain ⟨e, he⟩ := Option.ne_none_iff_exists'.mp hsome
  obtain ⟨before, x, after, hsplit, hx, hbefore⟩ := List.findSome?_eq_some_iff.mp he
  have hfails := failure?_eq_some_iff.mp hx
  have hbuilder : s.toBuilder w = .error e := by
    rw [← errorOf?_eq_some_iff, errorOf?_toBuilder]
    exact he
  refine ⟨before, x, after, e, hsplit, ?_, hfails, ?_, hbuilder,
    build_of_toBuilder_error hbuilder⟩
  · intro z hz
    exact failure?_eq_none_iff.mp (hbefore z hz)
  · intro r hr
    rw [← hr.resolve_eq, hfails.resolve_eq]

open Specimen in
/-- An entry of the flat list whose key is lost, before an entry of the asserting party that gives
nothing, in settings whose id is blank. -/
theorem toBuilder_reports_first_unresolved_specimen :
    let s : RelyingPartySettings :=
      { registrationId := " ", signingCredentials := [pairEntry],
        credentials := [signerEntry, lostEntry, {}],
        assertingParty := { verificationCredentials := [{ certificatePath := some "idp.pem" }] } }
    (∃ x ∈ s.entries, ∀ credential, ¬ x.2.Resolves world s.registrationId x.1 (.ok credential)) ∧
      s.toBuilder world = .error (.io "lost.pem" .notFound) ∧
      s.build world = ⟨.error (.io "lost.pem" .notFound), []⟩ := by
  intro s
  have hlost : lostEntry.Resolves world " " "credentials" (.error (.io "lost.pem" .notFound)) :=
    .keyUnreadable (.inline rfl) (fun _ hname => by cases hname) rfl rfl rfl
  have hunresolved : ∃ x ∈ s.entries,
      ∀ credential, ¬ x.2.Resolves world s.registrationId x.1 (.ok credential) := by
    refine ⟨("credentials", lostEntry), by simp [s, entries], ?_⟩
    intro credential hok
    have hboth := hok.resolve_eq.symm.trans hlost.resolve_eq
    cases hboth
  obtain ⟨before, x, after, e, -, -, -, -, hbuilder, hbuild⟩ :=
    toBuilder_reports_first_unresolved world s hunresolved
  have he : s.toBuilder world = .error (.io "lost.pem" .notFound) := rfl
  rw [hbuilder] at he
  cases he
  exact ⟨hunresolved, hbuilder, hbuild⟩

end RelyingPartySettings

end RelyingParty
