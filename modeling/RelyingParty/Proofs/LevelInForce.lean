import RelyingParty.Proofs.CommandLine
import RelyingParty.Proofs.Log.Naming
import RelyingParty.Proofs.Settings.LevelText

/-!
# The level in force

Three sources can set the threshold of a run: the built-in default, a settings file and the variable
of the log level. The run has two parts with a gate each, one while settings are loaded and one while
registrations are built, and between them the level of the loaded settings is asked for.

Without the variable the first gate is that of the default, and the second that of the file in effect
if its level names a threshold (`Configures`). With the variable both follow from its text alone: the
loaded settings carry that text as their level, whatever their file says, so files that differ in
their level leave the same records.
-/

namespace RelyingParty

open Log (Event Filter Threshold)
open Settings (fileName directoryVariable levelVariable)

/-! ## The level of the file in effect -/

namespace World

variable {w : World} {path level : String} {s : Settings}

/-- The settings of the file in effect, or that there is no such file. -/
inductive InEffect (w : World) : Option Settings → Prop
  /-- A directory is named that has a file. -/
  | ofDirectory {directory : String} {s : Settings}
      (hnamed : w.variableText? directoryVariable = some directory)
      (hfile : w.Holds (joinPath directory fileName) (some (.ok s))) : InEffect w (some s)
  /-- Otherwise the working directory counts. -/
  | ofBase {base : Option Settings} (hbase : w.Holds fileName (base.map .ok))
      (hno : ∀ directory, w.variableText? directoryVariable = some directory →
        w.Holds (joinPath directory fileName) none) : InEffect w base

/-- The file in effect sets this level. -/
def Configures (w : World) (level : String) : Prop :=
  ∃ file, w.InEffect (some file) ∧ file.logging.level = level

theorem Holds.unique {held held' : Option (Except SettingsError Settings)}
    (h : w.Holds path held) (h' : w.Holds path held') : held = held' := by
  cases h <;> cases h' <;> simp_all

theorem InEffect.unique {file file' : Option Settings} (h : w.InEffect file)
    (h' : w.InEffect file') : file = file' := by
  cases h with
  | ofDirectory hnamed hfile =>
      cases h' with
      | ofDirectory hnamed' hfile' =>
          obtain rfl := Option.some.inj (hnamed.symm.trans hnamed')
          cases hfile.unique hfile'
          rfl
      | ofBase hbase' hno' => cases hfile.unique (hno' _ hnamed)
  | ofBase hbase hno =>
      cases h' with
      | ofDirectory hnamed' hfile' => cases hfile'.unique (hno _ hnamed')
      | ofBase hbase' hno' => exact Option.map_injective (fun _ _ => Except.ok.inj) (hbase.unique hbase')

/-- **Loaded settings are those of the file in effect,** or the default ones, but for the level that
the environment sets. -/
theorem exists_inEffect (h : (Settings.load w).value = .ok s) :
    ∃ file, w.InEffect file ∧ s = w.leveled (file.getD {}) := by
  obtain ⟨r, hr⟩ := w.exists_loads
  rw [hr.load_eq] at h
  cases hr with
  | baseFails hbase => cases h
  | directoryFails hbase hnamed hfile => cases h
  | @ofBase base hbase hunnamed =>
      refine ⟨base, .ofBase hbase ?_, (Except.ok.inj h).symm⟩
      intro directory hnamed
      rw [hunnamed] at hnamed
      cases hnamed
  | @ofDirectory base file directory hbase hnamed hfile =>
      cases file with
      | some file => exact ⟨some file, .ofDirectory hnamed hfile, (Except.ok.inj h).symm⟩
      | none =>
          refine ⟨base, .ofBase hbase ?_, (Except.ok.inj h).symm⟩
          intro directory' hnamed'
          obtain rfl := Option.some.inj (hnamed.symm.trans hnamed')
          exact hfile

/-- Without a level in the environment settings keep theirs. -/
theorem leveled_of_unset (h : w.environment levelVariable = .unset) (s : Settings) :
    w.leveled s = s := by
  rw [leveled, variableText?, h]
  rfl

theorem variableText?_of_text {name text : String} (h : w.environment name = .text text) :
    w.variableText? name = some text := by
  rw [variableText?, h]
  rfl

/-- With a level in the environment loaded settings have no other. -/
theorem level_eq_of_text {text : String} (htext : w.environment levelVariable = .text text)
    (h : (Settings.load w).value = .ok s) : s.logging.level = text := by
  obtain ⟨file, -, rfl⟩ := exists_inEffect h
  rw [leveled, variableText?_of_text htext]
  rfl

/-- Without one they have a level that is configured or the default. -/
theorem configures_or_default (hunset : w.environment levelVariable = .unset)
    (h : (Settings.load w).value = .ok s) :
    w.Configures s.logging.level ∨ s.logging.level = ({} : LoggingSettings).level := by
  obtain ⟨file, hfile, rfl⟩ := exists_inEffect h
  rw [leveled_of_unset hunset]
  cases file with
  | none => exact Or.inr rfl
  | some file => exact Or.inl ⟨file, hfile, rfl⟩

/-- And no other than the configured one, if there is one. -/
theorem Configures.level_eq (hlevel : w.Configures level)
    (hunset : w.environment levelVariable = .unset) (h : (Settings.load w).value = .ok s) :
    s.logging.level = level := by
  obtain ⟨file, hfile, rfl⟩ := hlevel
  obtain ⟨file', hfile', rfl⟩ := exists_inEffect h
  rw [leveled_of_unset hunset, hfile'.unique hfile]
  rfl

end World

/-! ## Settings files of the specimens -/

namespace Specimen

open Settings (ofToml parse?_of_pairs toList_of_eq_ofList toList_append_of_eq_ofList)

/-- A settings file that describes `keyedParty` and sets the level. -/
def leveledText (level : String) : String :=
  keyedPartyText ("]\nlogging.level='" ++ (level ++ "'"))

/-- What that file says. -/
def leveledPairs (level : String) : List (String × Toml.Item) :=
  [("registrations", .array [.inline keyedPartyPairs]),
    ("logging", .dotted [("level", .scalar (.text level))])]

-- the list of all characters of the file is nested deeply
set_option maxRecDepth 2000 in
theorem parse?_leveledText_warn :
    Toml.parse? (leveledText "warn") = some (Toml.Tree.ofPairs (leveledPairs "warn")).toDocument := by
  refine parse?_of_pairs _
    (toList_append_of_eq_ofList rfl <| toList_append_of_eq_ofList rfl <|
      toList_append_of_eq_ofList rfl <| toList_append_of_eq_ofList rfl <|
      toList_append_of_eq_ofList rfl <| toList_append_of_eq_ofList rfl <|
      toList_append_of_eq_ofList rfl <| toList_append_of_eq_ofList rfl <|
      toList_of_eq_ofList rfl) ?_
  rw [Toml.sections, String.toList_ofList]
  rfl

set_option maxRecDepth 2000 in
theorem parse?_leveledText_trace : Toml.parse? (leveledText "trace")
    = some (Toml.Tree.ofPairs (leveledPairs "trace")).toDocument := by
  refine parse?_of_pairs _
    (toList_append_of_eq_ofList rfl <| toList_append_of_eq_ofList rfl <|
      toList_append_of_eq_ofList rfl <| toList_append_of_eq_ofList rfl <|
      toList_append_of_eq_ofList rfl <| toList_append_of_eq_ofList rfl <|
      toList_append_of_eq_ofList rfl <| toList_append_of_eq_ofList rfl <|
      toList_of_eq_ofList rfl) ?_
  rw [Toml.sections, String.toList_ofList]
  rfl

theorem ofToml_leveledText_warn : ofToml (leveledText "warn")
    = .ok { logging := { level := "warn" }, registrations := [keyedParty] } := by
  rw [ofToml, parse?_leveledText_warn]
  rfl

/-- The two files differ in the level alone. -/
theorem sameButLevel_leveledText :
    Settings.SameButLevel (leveledText "warn") (leveledText "trace") := by
  rw [Settings.SameButLevel, parse?_leveledText_warn, parse?_leveledText_trace]
  rfl

/-- And so do worlds with one of them. -/
theorem differInLevel_onePlace {text text' : String} (h : Settings.SameButLevel text text')
    (value : Variable) : ((onePlace text).withVariable levelVariable value).DifferInLevel
      ((onePlace text').withVariable levelVariable value) (· = fileName) where
  environment := rfl
  hasPath := rfl
  file := by
    rintro _ rfl
    exact ⟨text, text', rfl, rfl, h⟩
  elsewhere path hpath := (if_neg hpath).trans (if_neg hpath).symm

theorem not_usesFile_variableEntry (w : World) (path : String) :
    ¬ variableEntry.UsesFile w path := by
  intro huses
  cases huses with
  | certificate hinline hpath => cases hpath
  | key hcertificate hinline hunset hpath => cases hpath

end Specimen

namespace CommandLine

variable {w w' : World} {s : Settings} {files : String → Prop} {text : String} {t : Threshold}

/-! ## The two gates of a run -/

def gateWhileLoading (w : World) : Gate := (Gate.start w).1

/-- The gate once these settings are loaded. -/
def gateWhileBuilding (w : World) (s : Settings) : Gate :=
  (gateWhileLoading w).apply s.logging.level

/-- The records of the first part of a run. -/
def recordsWhileLoading (w : World) : List Event :=
  (Settings.load w).events.filter (gateWhileLoading w).admits

/-- The records of the second part, if there is one. -/
def recordsWhileBuilding (w : World) : List Event :=
  match (Settings.load w).value with
  | .error _ => []
  | .ok s => (.validating version s.registrations.length :: (s.buildRegistrations w).events).filter
      (gateWhileBuilding w s).admits

/-- The report of the failure that a run ends in, if it does. -/
def failureReport (w : World) : String :=
  match (Settings.load w).value with
  | .error e => failureText "Failed to load settings" e
  | .ok s =>
      match (s.buildRegistrations w).value with
      | .error e => failureText "Invalid registration configuration" e
      | .ok _ => ""

/-- **The records of the two parts are what a run logs,** between the complaints about the
environment and the report of a failure. -/
theorem diagnostics_eq (w : World) : (run w).diagnostics
    = String.join ((Gate.start w).2.map (· ++ "\n"))
      ++ String.join ((recordsWhileLoading w).map recordText)
      ++ String.join ((recordsWhileBuilding w).map recordText) ++ failureReport w := by
  cases hload : (Settings.load w).value with
  | error e =>
      simp only [run, recordsWhileBuilding, failureReport, hload, List.map_nil, String.join_nil,
        String.append_empty]
      rfl
  | ok s =>
      simp only [run, recordsWhileBuilding, failureReport, hload]
      cases (s.buildRegistrations w).value with
      | error e => rfl
      | ok rs => exact (String.append_empty).symm

/-! ### Without a level in the environment -/

theorem default_level_word : ({} : LoggingSettings).level.toLower = (Threshold.upTo .info).word :=
  Threshold.ofName?_eq_some_iff.mp (by decide)

theorem threshold_whileLoading_of_unset (h : w.environment levelVariable = .unset) :
    (gateWhileLoading w).threshold = .upTo .info := by
  rw [gateWhileLoading, Gate.start, h]
  exact Threshold.apply_of_word default_level_word Filter.all.threshold

theorem threshold_whileBuilding_of_word (h : s.logging.level.toLower = t.word) :
    (gateWhileBuilding w s).threshold = t :=
  Threshold.apply_of_word h _

/-- A level that names no threshold leaves the default, and so does the default itself. -/
theorem threshold_whileBuilding_of_ne_word (hunset : w.environment levelVariable = .unset)
    (h : (∀ t : Threshold, s.logging.level.toLower ≠ t.word) ∨
      s.logging.level = ({} : LoggingSettings).level) :
    (gateWhileBuilding w s).threshold = .upTo .info := by
  have hloading := threshold_whileLoading_of_unset hunset
  rcases h with h | h
  · exact (Threshold.apply_of_ne_word h _).trans hloading
  · refine threshold_whileBuilding_of_word ?_
    rw [h]
    exact default_level_word

/-! ### With a level in the environment -/

theorem gateWhileLoading_congr (h : w'.environment = w.environment) :
    gateWhileLoading w' = gateWhileLoading w := by
  rw [gateWhileLoading, gateWhileLoading, Gate.start, Gate.start, h]

theorem threshold_whileLoading_of_word (htext : w.environment levelVariable = .text text)
    (h : text.toLower = t.word) : (gateWhileLoading w).threshold = t := by
  rw [gateWhileLoading, Gate.start, htext]
  show (Filter.ofText text).1.threshold = t
  rw [Filter.ofText_of_word h, Filter.threshold_singleton]

theorem recordsWhileLoading_of_differInLevel (htext : w.environment levelVariable = .text text)
    (h : w.DifferInLevel w' files) : recordsWhileLoading w' = recordsWhileLoading w := by
  rw [recordsWhileLoading, recordsWhileLoading, gateWhileLoading_congr h.environment,
    h.load_eq (World.variableText?_of_text htext)]

theorem recordsWhileBuilding_of_differInLevel (htext : w.environment levelVariable = .text text)
    (h : w.DifferInLevel w' files)
    (huses : ∀ s, (Settings.load w).value = .ok s → ∀ c ∈ s.credentialEntries,
      ∀ path, c.UsesFile w path → ¬ files path) :
    recordsWhileBuilding w' = recordsWhileBuilding w := by
  rw [recordsWhileBuilding, recordsWhileBuilding, h.load_eq (World.variableText?_of_text htext)]
  cases hload : (Settings.load w).value with
  | error e => rfl
  | ok s =>
      -- the same settings stand behind the same gate
      have hgate : gateWhileBuilding w' s = gateWhileBuilding w s := by
        rw [gateWhileBuilding, gateWhileBuilding, gateWhileLoading_congr h.environment]
      simp only [h.buildRegistrations_eq (huses s hload), hgate]

/-- **Which level is in force.** A text that is asked for sets the threshold that it names, upper and
lower case of ASCII aside, and any other text leaves the threshold as it is. The records of a run are
those that pass the gates of its two parts. Without the variable of the log level the threshold is
that of the default while settings are loaded; while registrations are built it is the one that the
file in effect names, and that of the default if there is no such file or it names none. With a text
in the variable the levels of settings files make no difference to the records as long as no
credential entry takes a text from a settings file, and if the text names a threshold, that is the
one in both parts. -/
theorem level_in_force (w : World) :
    (∀ (t t' : Threshold) (s : String), s.toLower = t'.word → t.apply s = t') ∧
    (∀ (t : Threshold) (s : String), (∀ t' : Threshold, s.toLower ≠ t'.word) → t.apply s = t) ∧
    (run w).diagnostics = String.join ((Gate.start w).2.map (· ++ "\n"))
      ++ String.join ((recordsWhileLoading w).map recordText)
      ++ String.join ((recordsWhileBuilding w).map recordText) ++ failureReport w ∧
    (w.environment levelVariable = .unset →
      (gateWhileLoading w).threshold = .upTo .info ∧
      ∀ s, (Settings.load w).value = .ok s →
        (∀ level t, w.Configures level → level.toLower = t.word →
          (gateWhileBuilding w s).threshold = t) ∧
        ((∀ level (t : Threshold), w.Configures level → level.toLower ≠ t.word) →
          (gateWhileBuilding w s).threshold = .upTo .info)) ∧
    (∀ text, w.environment levelVariable = .text text →
      (∀ w' files, w.DifferInLevel w' files →
        (∀ s, (Settings.load w).value = .ok s → ∀ c ∈ s.credentialEntries,
          ∀ path, c.UsesFile w path → ¬ files path) →
        recordsWhileLoading w' = recordsWhileLoading w ∧
          recordsWhileBuilding w' = recordsWhileBuilding w) ∧
      ∀ t : Threshold, text.toLower = t.word →
        (gateWhileLoading w).threshold = t ∧
        ∀ s, (Settings.load w).value = .ok s → (gateWhileBuilding w s).threshold = t) := by
  refine ⟨fun t t' s h => Threshold.apply_of_word h t, fun t s h => Threshold.apply_of_ne_word h t,
    diagnostics_eq w, ?_, ?_⟩
  · intro hunset
    refine ⟨threshold_whileLoading_of_unset hunset, ?_⟩
    intro s hload
    constructor
    · intro level t hlevel hword
      rw [← hlevel.level_eq hunset hload] at hword
      exact threshold_whileBuilding_of_word hword
    · intro hnone
      refine threshold_whileBuilding_of_ne_word hunset ?_
      exact (World.configures_or_default hunset hload).imp_left fun hlevel t => hnone _ t hlevel
  · intro text htext
    constructor
    · intro w' files h huses
      exact ⟨recordsWhileLoading_of_differInLevel htext h,
        recordsWhileBuilding_of_differInLevel htext h huses⟩
    · intro t hword
      refine ⟨threshold_whileLoading_of_word htext hword, ?_⟩
      intro s hload
      refine threshold_whileBuilding_of_word ?_
      rw [World.level_eq_of_text htext hload]
      exact hword

open Specimen in
/-- The level of the file counts without the variable. With it the file may as well have another. -/
theorem level_in_force_specimen :
    (gateWhileLoading (onePlace (leveledText "warn"))).threshold = .upTo .info ∧
    (∃ s, (Settings.load (onePlace (leveledText "warn"))).value = .ok s ∧
      (gateWhileBuilding (onePlace (leveledText "warn")) s).threshold = .upTo .warn) ∧
    (gateWhileLoading ((onePlace (leveledText "warn")).withVariable levelVariable
      (.text "Debug"))).threshold = .upTo .debug ∧
    recordsWhileBuilding
        ((onePlace (leveledText "trace")).withVariable levelVariable (.text "Debug"))
      = recordsWhileBuilding
        ((onePlace (leveledText "warn")).withVariable levelVariable (.text "Debug")) := by
  have hload := load_onePlace ofToml_leveledText_warn
  obtain ⟨-, -, -, hunset, -⟩ := level_in_force (onePlace (leveledText "warn"))
  obtain ⟨-, -, -, -, htext⟩ :=
    level_in_force ((onePlace (leveledText "warn")).withVariable levelVariable (.text "Debug"))
  obtain ⟨hloading, hbuilding⟩ := hunset rfl
  obtain ⟨hrecords, hword⟩ := htext "Debug" rfl
  refine ⟨hloading, ⟨_, hload, ?_⟩, ?_, ?_⟩
  · have hbase : (onePlace (leveledText "warn")).Holds fileName ((some _).map .ok) :=
      .settings rfl rfl ofToml_leveledText_warn
    have hlevel : (onePlace (leveledText "warn")).Configures "warn" :=
      ⟨_, .ofBase hbase (fun _ hnamed => nomatch hnamed), rfl⟩
    exact (hbuilding _ hload).1 "warn" _ hlevel (Threshold.ofName?_eq_some_iff.mp (by decide))
  · exact (hword _ (Threshold.ofName?_eq_some_iff.mp (by decide))).1
  · refine (hrecords _ _ (differInLevel_onePlace sameButLevel_leveledText _) ?_).2
    intro s hs c hc path huses
    have hsame := Settings.registrations_load_withLevel (onePlace (leveledText "warn"))
      (.text "Debug")
    rw [hs, hload] at hsame
    have hentries : s.credentialEntries = [variableEntry] := by
      rw [Settings.credentialEntries, Except.ok.inj hsame]
      rfl
    rw [hentries, List.mem_singleton] at hc
    exact absurd (hc ▸ huses) (not_usesFile_variableEntry _ path)

end CommandLine

end RelyingParty
