import RelyingParty.Proofs.Settings.Resolution
import RelyingParty.Settings.Sources

/-!
# What a build looks at

Resolving a credential entry looks at no more of the world than the sources that come into
question: not at a file whose text is given inline, not at the sources of a key without a
certificate, and not at the file of a key that a variable gives. Worlds that agree on the rest
(`SameSources`) cannot be told apart by a build, nor by the builds of a whole settings file.
-/

namespace RelyingParty

variable {w w' : World}

/-- The file counts only when there is no inline value. -/
theorem World.Gives.of_agree {inline path : Option String}
    {r : Except SettingsError (Option String)} (h : w.Gives inline path r)
    (hread : inline = none → ∀ p ∈ path, w'.read p = w.read p) : w'.Gives inline path r := by
  cases h with
  | inline hinline => exact .inline hinline
  | file hinline hpath hfile => exact .file hinline hpath ((hread hinline _ hpath).trans hfile)
  | unreadable hinline hpath hfile =>
      exact .unreadable hinline hpath ((hread hinline _ hpath).trans hfile)
  | nothing hinline hpath => exact .nothing hinline hpath

/-- The world with another value of a variable. -/
def World.withVariable (w : World) (name : String) (value : Variable) : World :=
  { w with environment := fun n => if n = name then value else w.environment n }

theorem World.variableText?_withVariable_of_ne {n name : String} (h : n ≠ name) (value : Variable) :
    (w.withVariable name value).variableText? n = w.variableText? n :=
  congrArg Variable.text? (if_neg h)

namespace CredentialSettings

variable {id field : String} {c : CredentialSettings}

/-- There is a source for the certificate. -/
def NamesCertificate (c : CredentialSettings) : Prop :=
  c.certificate.isSome ∨ c.certificatePath.isSome

/-- The sources that come into question are the same in two worlds. -/
structure SameSources (w w' : World) (c : CredentialSettings) : Prop where
  certificateFile : c.certificate = none → ∀ path ∈ c.certificatePath, w'.read path = w.read path
  keyVariable : c.NamesCertificate →
    ∀ name ∈ c.privateKeyEnv, w'.variableText? name = w.variableText? name
  keyFile : c.NamesCertificate → c.privateKey = none → c.VariableUnset w →
    ∀ path ∈ c.privateKeyPath, w'.read path = w.read path

/-- An entry that does not name a variable has the same sources whatever its value. -/
theorem sameSources_withVariable {name : String} (h : c.privateKeyEnv ≠ some name)
    (value : Variable) : c.SameSources w (w.withVariable name value) where
  certificateFile _ _ _ := rfl
  keyVariable _ n hn := by
    refine World.variableText?_withVariable_of_ne ?_ value
    intro hname
    exact h (hname ▸ hn)
  keyFile _ _ _ _ _ := rfl

theorem namesCertificate_of_gives {certificate : String}
    (h : w.Gives c.certificate c.certificatePath (.ok (some certificate))) :
    c.NamesCertificate := by
  cases h with
  | inline hinline => exact Or.inl (by rw [hinline]; rfl)
  | file hinline hpath hread => exact Or.inr (by rw [hpath]; rfl)

theorem SameSources.variableUnset (h : c.SameSources w w') (hnames : c.NamesCertificate)
    (hunset : c.VariableUnset w) : c.VariableUnset w' := by
  intro name hname
  rw [h.keyVariable hnames name hname]
  exact hunset name hname

theorem GivesKey.of_sameSources {r : Except SettingsError (Option String)} (h : c.GivesKey w r)
    (hsame : c.SameSources w w') (hnames : c.NamesCertificate) : c.GivesKey w' r := by
  cases h with
  | environment hname hset =>
      exact .environment hname ((hsame.keyVariable hnames _ hname).trans hset)
  | otherwise hunset hgives =>
      exact .otherwise (hsame.variableUnset hnames hunset)
        (hgives.of_agree fun hinline => hsame.keyFile hnames hinline hunset)

theorem Resolves.of_sameSources {r : Except SettingsError Credential}
    (h : c.Resolves w id field r) (hsame : c.SameSources w w') : c.Resolves w' id field r := by
  cases h with
  | certificateUnreadable hinline hpath hread =>
      exact .certificateUnreadable hinline hpath
        ((hsame.certificateFile hinline _ hpath).trans hread)
  | nothingGiven hinline hpath => exact .nothingGiven hinline hpath
  | keyUnreadable hcertificate hunset hinline hpath hread =>
      have hnames := namesCertificate_of_gives hcertificate
      exact .keyUnreadable (hcertificate.of_agree hsame.certificateFile)
        (hsame.variableUnset hnames hunset) hinline hpath
        ((hsame.keyFile hnames hinline hunset _ hpath).trans hread)
  | refused hcertificate hkey hcreate =>
      exact .refused (hcertificate.of_agree hsame.certificateFile)
        (hkey.of_sameSources hsame (namesCertificate_of_gives hcertificate)) hcreate
  | credential hcertificate hkey hcreate =>
      exact .credential (hcertificate.of_agree hsame.certificateFile)
        (hkey.of_sameSources hsame (namesCertificate_of_gives hcertificate)) hcreate

/-- **An entry resolves alike** wherever its sources are the same. -/
theorem resolve_congr (h : c.SameSources w w') : c.resolve w' id field = c.resolve w id field :=
  ((resolves_resolve w id field c).of_sameSources h).resolve_eq

theorem resolveAll_congr {cs : List CredentialSettings} (h : ∀ c ∈ cs, c.SameSources w w') :
    resolveAll w' id field cs = resolveAll w id field cs := by
  induction cs with
  | nil => rfl
  | cons c cs ih =>
      obtain ⟨hc, hcs⟩ := List.forall_mem_cons.mp h
      rw [resolveAll, resolveAll, resolve_congr hc, ih hcs]

end CredentialSettings

namespace RelyingPartySettings

variable {s : RelyingPartySettings}

theorem toBuilder_congr (h : ∀ c ∈ s.credentialEntries, c.SameSources w w') :
    s.toBuilder w' = s.toBuilder w := by
  simp only [credentialEntries, List.forall_mem_append] at h
  obtain ⟨⟨⟨⟨hsigning, hdecryption⟩, hflat⟩, hverification⟩, hencryption⟩ := h
  have hparty : s.assertingParty.toBuilder w' s.registrationId
      = s.assertingParty.toBuilder w s.registrationId := by
    rw [AssertingPartySettings.toBuilder, AssertingPartySettings.toBuilder,
      CredentialSettings.resolveAll_congr hverification,
      CredentialSettings.resolveAll_congr hencryption]
  rw [toBuilder, toBuilder, CredentialSettings.resolveAll_congr hsigning,
    CredentialSettings.resolveAll_congr hdecryption, CredentialSettings.resolveAll_congr hflat,
    hparty]

/-- **A build comes out alike,** records included. -/
theorem build_congr (h : ∀ c ∈ s.credentialEntries, c.SameSources w w') :
    s.build w' = s.build w := by
  rw [build, build, toBuilder_congr h]

theorem buildAll_congr {ss : List RelyingPartySettings}
    (h : ∀ s ∈ ss, ∀ c ∈ s.credentialEntries, c.SameSources w w') :
    buildAll w' ss = buildAll w ss := by
  induction ss with
  | nil => rfl
  | cons s ss ih =>
      obtain ⟨hs, hss⟩ := List.forall_mem_cons.mp h
      rw [buildAll, buildAll, build_congr hs, ih hss]

end RelyingPartySettings

/-- **So do the builds of a settings file.** -/
theorem Settings.buildRegistrations_congr {s : Settings}
    (h : ∀ c ∈ s.credentialEntries, c.SameSources w w') :
    s.buildRegistrations w' = s.buildRegistrations w := by
  refine RelyingPartySettings.buildAll_congr ?_
  intro x hx c hc
  exact h c (List.mem_flatMap.mpr ⟨x, hx, hc⟩)

end RelyingParty
