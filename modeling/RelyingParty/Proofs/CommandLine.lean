import RelyingParty.CommandLine
import RelyingParty.Proofs.Report
import RelyingParty.Proofs.Settings.Batch
import RelyingParty.Proofs.Settings.Dependence
import RelyingParty.Proofs.Settings.Precedence

/-!
# All registrations or none

How a run of the command ends, and what it writes on standard output, is settled before it writes
anything: by the registrations that come of the settings, or by the first failure on the way to
them (`validated`). A run that fails has therefore reported nothing, however many registrations
were valid before the one that was not.

The variable of the log level has no part in it. It has the last word on the level of the settings
and decides which records are let through to standard error, but the registrations of the settings
are the same for each of its values (`registrations_load_withLevel`).
-/

namespace RelyingParty

open Settings (levelVariable directoryVariable)

variable {w : World} {rs : List Registration} {e : SettingsError}

/-! ## Settings and the variable of the log level -/

/-- The two variables that loading looks at are different ones. -/
theorem World.directory_withLevel (w : World) (value : Variable) :
    (w.withVariable levelVariable value).variableText? directoryVariable
      = w.variableText? directoryVariable :=
  variableText?_withVariable_of_ne (by decide) value

theorem World.Holds.withVariable {path : String} {held : Option (Except SettingsError Settings)}
    (h : w.Holds path held) (name : String) (value : Variable) :
    (w.withVariable name value).Holds path held :=
  h.of_agreeAt ⟨rfl, rfl⟩

/-- **The level is all that the variable changes** of the settings that are loaded. -/
theorem Settings.registrations_load_withLevel (w : World) (value : Variable) :
    (load (w.withVariable levelVariable value)).value.map registrations
      = (load w).value.map registrations := by
  obtain ⟨r, hr⟩ := w.exists_loads
  rw [hr.load_eq]
  have hdirectory := w.directory_withLevel value
  -- both places hold what they held, so the same case applies
  cases hr with
  | baseFails hbase => rw [(World.Loads.baseFails (hbase.withVariable _ value)).load_eq]
  | directoryFails hbase hnamed hfile =>
      rw [(World.Loads.directoryFails (hbase.withVariable _ value) (hdirectory.trans hnamed)
        (hfile.withVariable _ value)).load_eq]
  | ofBase hbase hunnamed =>
      rw [(World.Loads.ofBase (hbase.withVariable _ value) (hdirectory.trans hunnamed)).load_eq]
      rfl
  | ofDirectory hbase hnamed hfile =>
      rw [(World.Loads.ofDirectory (hbase.withVariable _ value) (hdirectory.trans hnamed)
        (hfile.withVariable _ value)).load_eq]
      rfl

/-! ## Settings files of the specimens -/

namespace Specimen

open Settings (ofToml ofToml_of_pairs toList_of_eq_ofList toList_append_of_eq_ofList)

-- the list of all characters of the file is nested deeply
set_option maxRecDepth 2000 in
theorem ofToml_keyedParty :
    ofToml (keyedPartyText "]") = .ok { registrations := [keyedParty] } := by
  refine ofToml_of_pairs [("registrations", .array [.inline keyedPartyPairs])]
    (toList_append_of_eq_ofList rfl <| toList_append_of_eq_ofList rfl <|
      toList_append_of_eq_ofList rfl <| toList_append_of_eq_ofList rfl <|
      toList_append_of_eq_ofList rfl <| toList_append_of_eq_ofList rfl <|
      toList_of_eq_ofList rfl) ?_ rfl
  rw [Toml.sections, String.toList_ofList]
  rfl

set_option maxRecDepth 2000 in
theorem ofToml_keyedParty_nameless :
    ofToml (keyedPartyText ",\x7bregistration_id=' '\x7d]")
      = .ok { registrations := [keyedParty, { registrationId := " " }] } := by
  refine ofToml_of_pairs [("registrations",
      .array [.inline keyedPartyPairs, .inline [("registration_id", .scalar (.text " "))]])]
    (toList_append_of_eq_ofList rfl <| toList_append_of_eq_ofList rfl <|
      toList_append_of_eq_ofList rfl <| toList_append_of_eq_ofList rfl <|
      toList_append_of_eq_ofList rfl <| toList_append_of_eq_ofList rfl <|
      toList_of_eq_ofList rfl) ?_ rfl
  rw [Toml.sections, String.toList_ofList]
  rfl

theorem load_onePlace {text : String} {s : Settings} (h : ofToml text = .ok s) :
    (Settings.load (onePlace text)).value = .ok s := by
  have hbase : (onePlace text).Holds Settings.fileName ((some s).map .ok) := .settings rfl rfl h
  rw [(World.Loads.ofBase hbase rfl).load_eq]
  rfl

/-- No part of the settings file matters to the build. -/
theorem build_keyedParty (text : String) : (keyedParty.build (onePlace text)).value
    = .ok (keyedParty.filled ⟨[signer], [], [], [], []⟩).reconciled.described := by
  rfl

end Specimen

namespace CommandLine

open RelyingPartySettings (BuildTo StopsAt buildAll)

/-! ## What settles a run -/

/-- The registrations that a run reports, or what stops it. -/
def validated (w : World) : Except SettingsError (List Registration) := do
  let settings ← (Settings.load w).value
  (settings.buildRegistrations w).value

/-- **A run that is stopped reports nothing.** -/
theorem run_of_validated_error (h : validated w = .error e) :
    (run w).exitStatus = 1 ∧ (run w).output = "" := by
  unfold validated at h
  cases hload : (Settings.load w).value with
  | error e => simp only [run, hload, and_self]
  | ok settings =>
      rw [hload] at h
      have hbuild : (settings.buildRegistrations w).value = .error e := h
      simp only [run, hload, hbuild, and_self]

/-- **A run that is not stopped reports all.** -/
theorem run_of_validated_ok (h : validated w = .ok rs) :
    (run w).exitStatus = 0 ∧
      (run w).output
        = String.join (rs.map fun r => r.reportText ++ "\n") ++ closingLine rs.length := by
  have hreport : report = fun r => r.reportText ++ "\n" := by
    funext r
    rw [report, pretty_summary]
  obtain ⟨settings, hload, hbuild⟩ := bind_eq_ok h
  simp only [run, hload, hbuild, hreport, and_self]

theorem exitStatus_eq_zero_iff : (run w).exitStatus = 0 ↔ ∃ rs, validated w = .ok rs := by
  cases h : validated w with
  | error e => simp [(run_of_validated_error h).1]
  | ok rs => simp [(run_of_validated_ok h).1]

theorem validated_eq_ok_iff : validated w = .ok rs ↔
    ∃ settings, (Settings.load w).value = .ok settings ∧ BuildTo w settings.registrations rs := by
  constructor
  · intro h
    obtain ⟨settings, hload, hbuild⟩ := bind_eq_ok h
    exact ⟨settings, hload, RelyingPartySettings.buildAll_value_eq_ok_iff.mp hbuild⟩
  · intro h
    obtain ⟨settings, hload, hbuilt⟩ := h
    rw [validated, hload]
    exact RelyingPartySettings.buildAll_value_eq_ok_iff.mpr hbuilt

theorem validated_of_stopsAt {settings : Settings} {before after : List RelyingPartySettings}
    {x : RelyingPartySettings} (hload : (Settings.load w).value = .ok settings)
    (hsplit : settings.registrations = before ++ x :: after) (hstop : StopsAt w before x e) :
    validated w = .error e := by
  rw [validated, hload]
  exact RelyingPartySettings.buildAll_value_eq_error_iff.mpr ⟨before, x, after, hsplit, hstop⟩

/-- Only the registrations of the settings matter. -/
theorem validated_eq (w : World) : validated w
    = (Settings.load w).value.map Settings.registrations >>= fun ss => (buildAll w ss).value := by
  rw [validated]
  cases (Settings.load w).value <;> rfl

theorem validated_withLevel
    (hnames : ∀ settings, (Settings.load w).value = .ok settings →
      ∀ c ∈ settings.credentialEntries, c.privateKeyEnv ≠ some levelVariable) (value : Variable) :
    validated (w.withVariable levelVariable value) = validated w := by
  rw [validated_eq, validated_eq, Settings.registrations_load_withLevel]
  -- the same registrations are built; their entries have to find the same sources
  cases hload : (Settings.load w).value with
  | error e =>
      show Except.error e = Except.error e
      rfl
  | ok settings =>
      have hsame : ∀ c ∈ settings.credentialEntries,
          c.SameSources w (w.withVariable levelVariable value) := by
        intro c hc
        exact CredentialSettings.sameSources_withVariable (hnames settings hload c hc) value
      exact congrArg Log.Traced.value (Settings.buildRegistrations_congr hsame)

/-- What is settled alike ends and reads alike. -/
theorem run_eq_of_validated_eq {w' : World} (h : validated w' = validated w) :
    (run w').exitStatus = (run w).exitStatus ∧ (run w').output = (run w).output := by
  cases hw : validated w with
  | error e =>
      obtain ⟨hstatus, houtput⟩ := run_of_validated_error hw
      obtain ⟨hstatus', houtput'⟩ := run_of_validated_error (h.trans hw)
      exact ⟨hstatus'.trans hstatus.symm, houtput'.trans houtput.symm⟩
  | ok rs =>
      obtain ⟨hstatus, houtput⟩ := run_of_validated_ok hw
      obtain ⟨hstatus', houtput'⟩ := run_of_validated_ok (h.trans hw)
      exact ⟨hstatus'.trans hstatus.symm, houtput'.trans houtput.symm⟩

/-- **A run reports all registrations or none.** Either it fails with nothing on standard output,
or it succeeds with the reports of all registrations of the loaded settings, in order, and the line
that counts them; the latter if and only if the settings load and each registration is built. One
that is not leaves nothing of those before it. The variable of the log level changes neither status
nor output, unless an entry takes it for the variable of its key. What is reported of a registration
is its summary, printed over several lines with every value in its place. -/
theorem run_all_or_nothing (w : World) :
    ((run w).exitStatus ≠ 0 ∧ (run w).output = "" ∨
      ∃ settings rs, (Settings.load w).value = .ok settings ∧
        BuildTo w settings.registrations rs ∧ (run w).exitStatus = 0 ∧
        (run w).output = String.join (rs.map fun r => r.reportText ++ "\n")
          ++ ("✓ " ++ toString settings.registrations.length ++ " registration(s) valid\n")) ∧
    ((run w).exitStatus = 0 ↔ ∃ settings, (Settings.load w).value = .ok settings ∧
      ∀ x ∈ settings.registrations, ∃ r, (x.build w).value = .ok r) ∧
    (∀ settings before x after e, (Settings.load w).value = .ok settings →
      settings.registrations = before ++ x :: after → StopsAt w before x e →
      (run w).exitStatus = 1 ∧ (run w).output = "") ∧
    ((∀ settings, (Settings.load w).value = .ok settings →
        ∀ c ∈ settings.credentialEntries, c.privateKeyEnv ≠ some levelVariable) →
      ∀ value, (run (w.withVariable levelVariable value)).exitStatus = (run w).exitStatus ∧
        (run (w.withVariable levelVariable value)).output = (run w).output) ∧
    ∀ r : Registration, Json.pretty r.summary.toDocument = r.reportText := by
  refine ⟨?_, ?_, ?_, ?_, pretty_summary⟩
  · cases h : validated w with
    | error e =>
        obtain ⟨hstatus, houtput⟩ := run_of_validated_error h
        exact Or.inl ⟨by simp [hstatus], houtput⟩
    | ok rs =>
        obtain ⟨settings, hload, hbuilt⟩ := validated_eq_ok_iff.mp h
        obtain ⟨hstatus, houtput⟩ := run_of_validated_ok h
        rw [hbuilt.length_eq] at houtput
        exact Or.inr ⟨settings, rs, hload, hbuilt, hstatus, houtput⟩
  · rw [exitStatus_eq_zero_iff]
    simp only [validated_eq_ok_iff, ← RelyingPartySettings.exists_buildTo_iff]
    constructor
    · intro h
      obtain ⟨rs, settings, hload, hbuilt⟩ := h
      exact ⟨settings, hload, rs, hbuilt⟩
    · intro h
      obtain ⟨settings, hload, rs, hbuilt⟩ := h
      exact ⟨rs, settings, hload, hbuilt⟩
  · intro settings before x after e hload hsplit hstop
    exact run_of_validated_error (validated_of_stopsAt hload hsplit hstop)
  · intro hnames value
    exact run_eq_of_validated_eq (validated_withLevel hnames value)

open Specimen in
/-- A valid registration is reported, whatever the variable of the log level says, and not at all
if one follows it that is not valid. -/
theorem run_all_or_nothing_specimen :
    (∀ value,
      (run ((onePlace (keyedPartyText "]")).withVariable levelVariable value)).exitStatus = 0 ∧
      (run ((onePlace (keyedPartyText "]")).withVariable levelVariable value)).output
        = String.join (
          ["\x7b",
           "  \"registration_id\": \"sp\",",
           "  \"entity_id\": \"\x7bbaseUrl\x7d/saml2/service-provider-metadata/"
             ++ "\x7bregistrationId\x7d\",",
           "  \"assertion_consumer_service_location\": \"acs\",",
           "  \"signing_credentials\": [",
           "    \x7b",
           "      \"fingerprint\": \"_9zEuhugKdkftkXqsVYwEO57z6xvMhMm9OqymGAbW84\",",
           "      \"usages\": [",
           "        \"SIGNING\"",
           "      ]",
           "    \x7d",
           "  ],",
           "  \"decryption_credentials\": [],",
           "  \"asserting_party\": \x7b",
           "    \"entity_id\": \"idp\",",
           "    \"wants_authn_requests_signed\": true,",
           "    \"single_sign_on_service_location\": \"sso\",",
           "    \"single_sign_on_service_binding\": \"REDIRECT\",",
           "    \"verification_credentials\": [],",
           "    \"encryption_credentials\": []",
           "  \x7d",
           "\x7d",
           "✓ 1 registration(s) valid"].map fun line => line ++ "\n")) ∧
    (run (onePlace (keyedPartyText ",\x7bregistration_id=' '\x7d]"))).exitStatus = 1 ∧
    (run (onePlace (keyedPartyText ",\x7bregistration_id=' '\x7d]"))).output = "" := by
  constructor
  · have hload := load_onePlace ofToml_keyedParty
    have hbuild := build_keyedParty (keyedPartyText "]")
    obtain ⟨hends, hsucceeds, -, hlevel, -⟩ := run_all_or_nothing (onePlace (keyedPartyText "]"))
    have hnames : ∀ settings, (Settings.load (onePlace (keyedPartyText "]"))).value = .ok settings →
        ∀ c ∈ settings.credentialEntries, c.privateKeyEnv ≠ some levelVariable := by
      intro settings hsettings
      cases hload.symm.trans hsettings
      decide
    have hstatus := hsucceeds.mpr ⟨_, hload, by simpa using ⟨_, hbuild⟩⟩
    intro value
    rw [(hlevel hnames value).1, (hlevel hnames value).2]
    refine ⟨hstatus, ?_⟩
    -- the settings and registrations of the output are those computed above
    rcases hends with ⟨hfails, -⟩ | ⟨settings, rs, hsettings, hbuilt, -, houtput⟩
    · exact absurd hstatus hfails
    · cases hload.symm.trans hsettings
      obtain ⟨r, others, rfl, hr, hothers⟩ := RelyingPartySettings.buildTo_cons_iff.mp hbuilt
      cases hbuild.symm.trans hr
      obtain rfl : others = [] := List.map_eq_nil_iff.mp hothers.symm
      rw [houtput]
      decide +kernel
  · obtain ⟨-, -, hfails, -⟩ :=
      run_all_or_nothing (onePlace (keyedPartyText ",\x7bregistration_id=' '\x7d]"))
    refine hfails _ [keyedParty] { registrationId := " " } [] _
      (load_onePlace ofToml_keyedParty_nameless) rfl ⟨?_, rfl⟩
    intro x hx
    rw [List.mem_singleton.mp hx]
    exact ⟨_, build_keyedParty _⟩

end CommandLine

end RelyingParty
