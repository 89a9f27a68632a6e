import RelyingParty.Proofs.Document.FieldEdit
import RelyingParty.Proofs.Settings.Dependence
import RelyingParty.Proofs.Settings.Precedence

/-!
# Settings files that differ in the level

Two settings texts differ in nothing but the level of logging when they denote the same document once
the text of the level is taken out of both (`SameButLevel`). They then give the same registrations or
fail alike, for the fields of a record are read apart from each other.

Where the environment sets the level, the level of the files is lost on loading. Worlds whose
settings files differ in nothing else load the same settings with the same records
(`DifferInLevel.load_eq`), and they build them alike as long as no credential entry takes a text from
a settings file (`DifferInLevel.buildRegistrations_eq`).
-/

namespace RelyingParty

open Document (Entry Format Reader atField fault?_congr record_atField
  required_editEntries withDefault_editEntries withDefault_editEntries_of_ne)
open Settings (levelVariable ofToml)

/-! ## Documents without the level -/

/-- The document with a text taken out of its place. -/
def Document.withoutText : Document → Document
  | .text _ => .text ""
  | d => d

theorem text_withoutText (f : Format) (d : Document) :
    (Reader.text f d.withoutText).map (fun _ => ()) = (Reader.text f d).map fun _ => () := by
  cases d <;> rfl

namespace LoggingSettings

variable {f : Format}

/-- The document of a logging table without the text of its level. -/
def withoutLevel : Document → Document := atField "level" Document.withoutText

theorem ofEntries_fault (es : List Entry) :
    (ofEntries f es).map (fun _ => ())
      = (Document.required es "level" (Reader.text f)).map fun _ => () := by
  rw [ofEntries]
  cases Document.required es "level" (Reader.text f) <;> rfl

theorem reader_withoutLevel (d : Document) :
    (reader f (withoutLevel d)).map (fun _ => ()) = (reader f d).map fun _ => () := by
  refine record_atField f "LoggingSettings" ?_ ?_ d
  · intro d
    exact fault?_congr (text_withoutText f d)
  · intro es
    rw [ofEntries_fault, ofEntries_fault, required_editEntries (text_withoutText f)]

end LoggingSettings

namespace Settings

variable {f : Format} {text text' : String}

/-- The document of settings without the text of the level. -/
def withoutLevel : Document → Document := atField "logging" LoggingSettings.withoutLevel

/-- Of the logging table only its faults matter to the registrations. -/
theorem ofEntries_registrations (es : List Entry) :
    (ofEntries f es).map registrations
      = (Document.withDefault es "logging" (LoggingSettings.reader f) {}).map (fun _ => ())
        >>= fun _ =>
          Document.withDefault es "registrations" (Reader.list f (RelyingPartySettings.reader f)) []
        := by
  rw [ofEntries]
  cases Document.withDefault es "logging" (LoggingSettings.reader f) {} with
  | error fault => rfl
  | ok logging =>
      cases Document.withDefault es "registrations"
        (Reader.list f (RelyingPartySettings.reader f)) [] <;> rfl

/-- **The level has no part in the registrations.** -/
theorem reader_withoutLevel (d : Document) :
    (reader f (withoutLevel d)).map registrations = (reader f d).map registrations := by
  refine record_atField f "RegistrationSettings" ?_ ?_ d
  · intro d
    exact fault?_congr (LoggingSettings.reader_withoutLevel d)
  · intro es
    rw [ofEntries_registrations, ofEntries_registrations,
      withDefault_editEntries LoggingSettings.reader_withoutLevel,
      withDefault_editEntries_of_ne (by decide)]

/-- Two texts denote the same document, or none, but for the text of the level. -/
def SameButLevel (text text' : String) : Prop :=
  (Toml.parse? text').map withoutLevel = (Toml.parse? text).map withoutLevel

theorem ofToml_registrations (text : String) : (ofToml text).map registrations
    = (((Toml.parse? text).map withoutLevel).elim (.error .malformed)
        fun d => (reader .toml d).map registrations).mapError .parse := by
  rw [ofToml]
  cases Toml.parse? text with
  | none => rfl
  | some d =>
      rw [Option.map_some, Option.elim_some, reader_withoutLevel]
      show ((reader .toml d).mapError SettingsError.parse).map registrations = _
      cases reader .toml d <;> rfl

/-- **Such texts give the same registrations or fail alike.** -/
theorem SameButLevel.registrations_eq (h : SameButLevel text text') :
    (ofToml text').map registrations = (ofToml text).map registrations := by
  rw [ofToml_registrations, ofToml_registrations, h]

theorem SameButLevel.ofToml_error (h : SameButLevel text text') {e : SettingsError}
    (htext : ofToml text = .error e) : ofToml text' = .error e := by
  have hsame := h.registrations_eq
  rw [htext] at hsame
  cases htext' : ofToml text' with
  | error e' =>
      rw [htext'] at hsame
      cases hsame
      rfl
  | ok s' =>
      rw [htext'] at hsame
      cases hsame

theorem SameButLevel.ofToml_ok (h : SameButLevel text text') {s : Settings}
    (htext : ofToml text = .ok s) :
    ∃ s', ofToml text' = .ok s' ∧ s'.registrations = s.registrations := by
  have hsame := h.registrations_eq
  rw [htext] at hsame
  cases htext' : ofToml text' with
  | error e' =>
      rw [htext'] at hsame
      cases hsame
  | ok s' =>
      rw [htext'] at hsame
      exact ⟨s', rfl, Except.ok.inj hsame⟩

end Settings

/-! ## Worlds -/

namespace World

variable {w w' : World} {files : String → Prop} {path level : String}

/-- Two worlds differ in settings files alone, at paths that lead to one, and there in no more than
the level. -/
structure DifferInLevel (w w' : World) (files : String → Prop) : Prop where
  environment : w'.environment = w.environment
  hasPath : w'.hasPath = w.hasPath
  file : ∀ path, files path → ∃ text text', w.read path = .ok text ∧ w'.read path = .ok text' ∧
    Settings.SameButLevel text text'
  elsewhere : ∀ path, ¬ files path → w'.read path = w.read path

namespace DifferInLevel

theorem variableText? (h : w.DifferInLevel w' files) (name : String) :
    w'.variableText? name = w.variableText? name :=
  variableText?_of_environment h.environment name

theorem agreeAt (h : w.DifferInLevel w' files) (hpath : ¬ files path) : w.AgreeAt w' path :=
  ⟨congrFun h.hasPath path, h.elsewhere path hpath⟩

/-- A place that holds no settings holds the same in both worlds. -/
theorem holds_error (h : w.DifferInLevel w' files) {e : SettingsError}
    (hheld : w.Holds path (some (.error e))) : w'.Holds path (some (.error e)) := by
  by_cases hfile : files path
  · obtain ⟨text, text', hread, hread', hsame⟩ := h.file path hfile
    cases hheld with
    | unreadable hpath hfails =>
        rw [hread] at hfails
        cases hfails
    | malformed hpath hread₁ hparse =>
        obtain rfl := Except.ok.inj (hread.symm.trans hread₁)
        exact .malformed ((congrFun h.hasPath path).trans hpath) hread' (hsame.ofToml_error hparse)
  · exact hheld.of_agreeAt (h.agreeAt hfile)

/-- Otherwise it holds the same registrations, if any. -/
theorem holds_ok (h : w.DifferInLevel w' files) {held : Option Settings}
    (hheld : w.Holds path (held.map .ok)) :
    ∃ held' : Option Settings, w'.Holds path (held'.map .ok) ∧
      held'.map Settings.registrations = held.map Settings.registrations := by
  by_cases hfile : files path
  · obtain ⟨text, text', hread, hread', hsame⟩ := h.file path hfile
    cases held with
    | none => exact ⟨none, .absent ((congrFun h.hasPath path).trans hheld.hasPath_of_none), rfl⟩
    | some s =>
        cases hheld with
        | settings hpath hread₁ hparse =>
            obtain rfl := Except.ok.inj (hread.symm.trans hread₁)
            obtain ⟨s', hparse', hregistrations⟩ := hsame.ofToml_ok hparse
            exact ⟨some s', .settings ((congrFun h.hasPath path).trans hpath) hread' hparse',
              congrArg some hregistrations⟩
  · exact ⟨held, hheld.of_agreeAt (h.agreeAt hfile), rfl⟩

end DifferInLevel

/-! ### What is left of settings

The records of loading show whether a place holds settings, and a level in the environment leaves
nothing of their level. So two places that hold the same registrations cannot be told apart. -/

section

variable {held held' : Option Settings}
  (hsame : held'.map Settings.registrations = held.map Settings.registrations)
include hsame

theorem baseRecords_congr : baseRecords held' = baseRecords held := by
  cases held <;> cases held' <;> first | rfl | cases hsame

theorem directoryRecord_congr (path : String) :
    directoryRecord path held' = directoryRecord path held := by
  cases held <;> cases held' <;> first | rfl | cases hsame

theorem registrations_getD_congr :
    (held'.getD {}).registrations = (held.getD {}).registrations :=
  calc (held'.getD {}).registrations
      = (held'.map Settings.registrations).getD [] := (Option.getD_map _ {} held').symm
    _ = (held.map Settings.registrations).getD [] := by rw [hsame]
    _ = (held.getD {}).registrations := Option.getD_map _ {} held

theorem DifferInLevel.leveled_eq (h : w.DifferInLevel w' files)
    (hlevel : w.variableText? levelVariable = some level) :
    w'.leveled (held'.getD {}) = w.leveled (held.getD {}) := by
  rw [leveled, leveled, h.variableText?, hlevel, registrations_getD_congr hsame]
  rfl

end

/-- **The level of a settings file is lost** where the environment sets one. -/
theorem Loads.of_differInLevel {r : Log.Traced (Except SettingsError Settings)} (hr : w.Loads r)
    (h : w.DifferInLevel w' files) (hlevel : w.variableText? levelVariable = some level) :
    w'.Loads r := by
  cases hr with
  | baseFails hbase => exact .baseFails (h.holds_error hbase)
  | directoryFails hbase hnamed hfile =>
      obtain ⟨base', hbase', hsame⟩ := h.holds_ok hbase
      rw [← baseRecords_congr hsame]
      exact .directoryFails hbase' ((h.variableText? _).trans hnamed) (h.holds_error hfile)
  | ofBase hbase hunnamed =>
      obtain ⟨base', hbase', hsame⟩ := h.holds_ok hbase
      rw [← baseRecords_congr hsame, ← h.leveled_eq hsame hlevel]
      exact .ofBase hbase' ((h.variableText? _).trans hunnamed)
  | @ofDirectory base file _ hbase hnamed hfile =>
      obtain ⟨base', hbase', hsame⟩ := h.holds_ok hbase
      obtain ⟨file', hfile', hsameFile⟩ := h.holds_ok hfile
      have heffective : (file'.or base').map Settings.registrations
          = (file.or base).map Settings.registrations := by
        rw [Option.map_or, Option.map_or, hsameFile, hsame]
      rw [← baseRecords_congr hsame, ← directoryRecord_congr hsameFile,
        ← h.leveled_eq heffective hlevel]
      exact .ofDirectory hbase' ((h.variableText? _).trans hnamed) hfile'

theorem DifferInLevel.load_eq (h : w.DifferInLevel w' files)
    (hlevel : w.variableText? levelVariable = some level) : Settings.load w' = Settings.load w :=
  ((load_eq_iff.mp rfl).of_differInLevel h hlevel).load_eq

end World

/-! ## Builds -/

namespace CredentialSettings

variable {w w' : World} {files : String → Prop} {c : CredentialSettings}

/-- The files whose text a credential entry takes. -/
inductive UsesFile (w : World) (c : CredentialSettings) : String → Prop
  | certificate {path : String} (hinline : c.certificate = none)
      (hpath : c.certificatePath = some path) : UsesFile w c path
  | key {path : String} (hcertificate : c.NamesCertificate) (hinline : c.privateKey = none)
      (hunset : c.VariableUnset w) (hpath : c.privateKeyPath = some path) : UsesFile w c path

theorem sameSources_of_differInLevel (h : w.DifferInLevel w' files)
    (huses : ∀ path, c.UsesFile w path → ¬ files path) : c.SameSources w w' where
  certificateFile hinline path hpath := h.elsewhere path (huses path (.certificate hinline hpath))
  keyVariable _ name _ := h.variableText? name
  keyFile hcertificate hinline hunset path hpath :=
    h.elsewhere path (huses path (.key hcertificate hinline hunset hpath))

end CredentialSettings

/-- **The builds come out alike,** records included. -/
theorem World.DifferInLevel.buildRegistrations_eq {w w' : World} {files : String → Prop}
    (h : w.DifferInLevel w' files) {s : Settings}
    (huses : ∀ c ∈ s.credentialEntries, ∀ path, c.UsesFile w path → ¬ files path) :
    s.buildRegistrations w' = s.buildRegistrations w :=
  Settings.buildRegistrations_congr fun c hc =>
    CredentialSettings.sameSources_of_differInLevel h (huses c hc)

end RelyingParty
