import RelyingParty.Proofs.Specimen
import RelyingParty.Settings.Loading

/-!
# Where loaded settings come from

Two places can hold a settings file, the working directory and a directory that a variable names.
What each of them holds is said in terms of the world alone (`World.Holds`), and from that what
loading gives (`World.Loads`): one case for each of the two files that can fail, and two for the
settings, with and without a directory named. Loading agrees with it (`load_eq_iff`).

The file of the working directory is read first and so fails first, but it lends nothing to the
settings if the named directory has a file: then all that is left of it is a record.
-/

namespace RelyingParty

open Log (Event Traced)
open Settings (fileName directoryVariable levelVariable ofToml loadFrom loadBase loadOverride load
  applyEnvironment)

namespace World

/-- What a place for settings holds: no file, one that fails, or settings. -/
inductive Holds (w : World) (path : String) : Option (Except SettingsError Settings) → Prop
  | absent (hpath : w.hasPath path = false) : Holds w path none
  | unreadable {failure : ReadFailure} (hpath : w.hasPath path = true)
      (hread : w.read path = .error failure) : Holds w path (some (.error (.io path failure)))
  | malformed {text : String} {fault : Document.Fault} (hpath : w.hasPath path = true)
      (hread : w.read path = .ok text) (hparse : ofToml text = .error (.parse fault)) :
      Holds w path (some (.error (.parse fault)))
  | settings {text : String} {s : Settings} (hpath : w.hasPath path = true)
      (hread : w.read path = .ok text) (hparse : ofToml text = .ok s) :
      Holds w path (some (.ok s))

/-- Two worlds have the same at a path. -/
structure AgreeAt (w w' : World) (path : String) : Prop where
  hasPath : w'.hasPath path = w.hasPath path
  read : w'.read path = w.read path

/-- The settings with the level of the environment, if it gives one. -/
def leveled (w : World) (s : Settings) : Settings :=
  { s with logging :=
      { s.logging with level := (w.variableText? levelVariable).getD s.logging.level } }

/-- The record of the file in the working directory, if there is one. -/
def baseRecords : Option Settings → List Event
  | some _ => [.settingsLoaded fileName]
  | none => []

/-- The record of a named directory, with or without a file. -/
def directoryRecord (path : String) : Option Settings → Event
  | some _ => .settingsLoaded path
  | none => .settingsFileAbsent path

/-- What comes of loading. -/
inductive Loads (w : World) : Traced (Except SettingsError Settings) → Prop
  /-- The file of the working directory fails. Nothing else is looked at. -/
  | baseFails {e : SettingsError} (hbase : w.Holds fileName (some (.error e))) :
      Loads w ⟨.error e, []⟩
  /-- The file of the named directory fails. -/
  | directoryFails {base : Option Settings} {directory : String} {e : SettingsError}
      (hbase : w.Holds fileName (base.map .ok))
      (hnamed : w.variableText? directoryVariable = some directory)
      (hfile : w.Holds (joinPath directory fileName) (some (.error e))) :
      Loads w ⟨.error e, baseRecords base⟩
  /-- No directory is named: the settings of the working directory, or the default ones. -/
  | ofBase {base : Option Settings} (hbase : w.Holds fileName (base.map .ok))
      (hunnamed : w.variableText? directoryVariable = none) :
      Loads w ⟨.ok (w.leveled (base.getD {})), baseRecords base⟩
  /-- A directory is named: its settings, or else what would be loaded without it. -/
  | ofDirectory {base file : Option Settings} {directory : String}
      (hbase : w.Holds fileName (base.map .ok))
      (hnamed : w.variableText? directoryVariable = some directory)
      (hfile : w.Holds (joinPath directory fileName) (file.map .ok)) :
      Loads w ⟨.ok (w.leveled ((file.or base).getD {})),
        baseRecords base ++ [directoryRecord (joinPath directory fileName) file]⟩

variable {w w' : World} {path : String}

theorem readFile_bind_of_error {failure : ReadFailure} (h : w.read path = .error failure) :
    (w.readFile path >>= ofToml) = .error (.io path failure) := by
  rw [readFile, h]
  rfl

theorem readFile_bind_of_ok {text : String} (h : w.read path = .ok text) :
    (w.readFile path >>= ofToml) = ofToml text := by
  rw [readFile, h]
  rfl

/-- A text that gives no settings gives a fault. -/
theorem exists_fault_of_ofToml {text : String} {e : SettingsError} (h : ofToml text = .error e) :
    ∃ fault, e = .parse fault := by
  unfold ofToml at h
  split at h
  · cases h
    exact ⟨_, rfl⟩
  · next d _ =>
      cases hd : Settings.reader .toml d with
      | error fault =>
          rw [hd] at h
          cases h
          exact ⟨fault, rfl⟩
      | ok s =>
          rw [hd] at h
          cases h

/-- Every place holds something, in the sense of `Holds`. -/
theorem exists_holds (w : World) (path : String) : ∃ held, w.Holds path held := by
  cases hp : w.hasPath path with
  | false => exact ⟨_, .absent hp⟩
  | true =>
      cases hr : w.read path with
      | error failure => exact ⟨_, .unreadable hp hr⟩
      | ok text =>
          cases ht : ofToml text with
          | ok s => exact ⟨_, .settings hp hr ht⟩
          | error e =>
              obtain ⟨fault, rfl⟩ := exists_fault_of_ofToml ht
              exact ⟨_, .malformed hp hr ht⟩

theorem Holds.of_agreeAt {held : Option (Except SettingsError Settings)} (h : w.Holds path held)
    (hagree : w.AgreeAt w' path) : w'.Holds path held := by
  cases h with
  | absent hpath => exact .absent (hagree.hasPath.trans hpath)
  | unreadable hpath hread =>
      exact .unreadable (hagree.hasPath.trans hpath) (hagree.read.trans hread)
  | malformed hpath hread hparse =>
      exact .malformed (hagree.hasPath.trans hpath) (hagree.read.trans hread) hparse
  | settings hpath hread hparse =>
      exact .settings (hagree.hasPath.trans hpath) (hagree.read.trans hread) hparse

theorem Holds.hasPath_of_none (h : w.Holds path none) : w.hasPath path = false := by
  cases h with
  | absent hpath => exact hpath

/-- Reading a settings file that fails. -/
theorem Holds.loadFrom_error {e : SettingsError} (h : w.Holds path (some (.error e))) :
    w.hasPath path = true ∧ loadFrom w path = ⟨.error e, []⟩ := by
  cases h with
  | unreadable hpath hread =>
      refine ⟨hpath, ?_⟩
      rw [loadFrom, readFile_bind_of_error hread]
      rfl
  | malformed hpath hread hparse =>
      refine ⟨hpath, ?_⟩
      rw [loadFrom, readFile_bind_of_ok hread, hparse]
      rfl

/-- Reading a settings file that holds settings. -/
theorem Holds.loadFrom_ok {s : Settings} (h : w.Holds path (some (.ok s))) :
    w.hasPath path = true ∧ loadFrom w path = ⟨.ok s, [.settingsLoaded path]⟩ := by
  cases h with
  | settings hpath hread hparse =>
      refine ⟨hpath, ?_⟩
      rw [loadFrom, readFile_bind_of_ok hread, hparse]

theorem applyEnvironment_eq (w : World) (s : Settings) : applyEnvironment w s = w.leveled s := by
  rw [applyEnvironment, leveled]
  cases w.variableText? levelVariable <;> rfl

theorem loadBase_of_holds {base : Option Settings} (h : w.Holds fileName (base.map .ok)) :
    loadBase w = ⟨.ok (base.getD {}), baseRecords base⟩ := by
  cases base with
  | none =>
      rw [loadBase, h.hasPath_of_none]
      rfl
  | some s =>
      obtain ⟨hpath, hload⟩ := h.loadFrom_ok
      rw [loadBase, if_pos hpath, hload]
      rfl

/-- Loading goes on from the settings of the working directory, or the default ones. -/
theorem load_of_holds {base : Option Settings} (h : w.Holds fileName (base.map .ok)) :
    load w = ⟨(loadOverride w (base.getD {})).value.map w.leveled,
      baseRecords base ++ (loadOverride w (base.getD {})).events⟩ := by
  have henvironment : applyEnvironment w = w.leveled := funext (applyEnvironment_eq w)
  refine Traced.ext ?_ ?_
  · rw [load, Traced.value_bind, loadBase_of_holds h, henvironment]
    rfl
  · rw [load, Traced.events_bind, loadBase_of_holds h]
    exact congrArg (baseRecords base ++ ·) (List.append_nil _)

theorem Loads.load_eq {r : Traced (Except SettingsError Settings)} (h : w.Loads r) :
    load w = r := by
  cases h with
  | baseFails hbase =>
      obtain ⟨hpath, hload⟩ := hbase.loadFrom_error
      rw [load, loadBase, if_pos hpath, hload]
      rfl
  | directoryFails hbase hnamed hfile =>
      obtain ⟨hpath, hload⟩ := hfile.loadFrom_error
      simp only [load_of_holds hbase, loadOverride, hnamed, hpath, ↓reduceIte, hload,
        List.append_nil]
      rfl
  | ofBase hbase hunnamed =>
      simp only [load_of_holds hbase, loadOverride, hunnamed, Traced.value_pure,
        Traced.events_pure, List.append_nil]
      rfl
  | @ofDirectory base file directory hbase hnamed hfile =>
      cases file with
      | none =>
          simp only [load_of_holds hbase, loadOverride, hnamed, hfile.hasPath_of_none,
            Bool.false_eq_true, ↓reduceIte]
          rfl
      | some s =>
          obtain ⟨hpath, hload⟩ := hfile.loadFrom_ok
          simp only [load_of_holds hbase, loadOverride, hnamed, hpath, ↓reduceIte, hload]
          rfl

/-- One of the cases of `Loads` always applies. -/
theorem exists_loads (w : World) : ∃ r, w.Loads r := by
  obtain ⟨held, hheld⟩ := w.exists_holds fileName
  have hbase : (∃ e, w.Holds fileName (some (.error e))) ∨
      ∃ base : Option Settings, w.Holds fileName (base.map .ok) := by
    rcases held with _ | (e | s)
    · exact Or.inr ⟨none, hheld⟩
    · exact Or.inl ⟨e, hheld⟩
    · exact Or.inr ⟨some s, hheld⟩
  rcases hbase with ⟨e, he⟩ | ⟨base, hbase⟩
  · exact ⟨_, .baseFails he⟩
  · cases hv : w.variableText? directoryVariable with
    | none => exact ⟨_, .ofBase hbase hv⟩
    | some directory =>
        obtain ⟨held, hheld⟩ := w.exists_holds (joinPath directory fileName)
        rcases held with _ | (e | s)
        · have hfile : w.Holds (joinPath directory fileName) ((none : Option Settings).map .ok) :=
            hheld
          exact ⟨_, .ofDirectory hbase hv hfile⟩
        · exact ⟨_, .directoryFails hbase hv hheld⟩
        · have hfile : w.Holds (joinPath directory fileName) ((some s).map .ok) := hheld
          exact ⟨_, .ofDirectory hbase hv hfile⟩

/-- **Loading gives what the two places hold.** -/
theorem load_eq_iff {r : Traced (Except SettingsError Settings)} : load w = r ↔ w.Loads r := by
  constructor
  · intro h
    obtain ⟨r', hr'⟩ := w.exists_loads
    rw [← h, hr'.load_eq]
    exact hr'
  · intro h
    exact h.load_eq

theorem variableText?_of_environment (h : w'.environment = w.environment) (name : String) :
    w'.variableText? name = w.variableText? name := by
  rw [variableText?, variableText?, h]

/-- Where the named directory has a file, the file of the working directory leaves its record and
nothing else. -/
theorem load_of_directory {base base' : Option Settings} {directory : String}
    (hbase : w.Holds fileName (base.map .ok)) (hbase' : w'.Holds fileName (base'.map .ok))
    (henvironment : w'.environment = w.environment)
    (hnamed : w.variableText? directoryVariable = some directory)
    (hpath : w.hasPath (joinPath directory fileName) = true)
    (hagree : w.AgreeAt w' (joinPath directory fileName)) :
    ∃ result records, load w = ⟨result, baseRecords base ++ records⟩ ∧
      load w' = ⟨result, baseRecords base' ++ records⟩ := by
  have hnamed' : w'.variableText? directoryVariable = some directory := by
    rw [variableText?_of_environment henvironment, hnamed]
  obtain ⟨held, hheld⟩ := w.exists_holds (joinPath directory fileName)
  rcases held with _ | (e | s)
  · rw [hheld.hasPath_of_none] at hpath
    cases hpath
  · have hfails := Loads.directoryFails hbase hnamed hheld
    have hfails' := Loads.directoryFails hbase' hnamed' (hheld.of_agreeAt hagree)
    refine ⟨.error e, [], ?_, ?_⟩
    · rw [hfails.load_eq, List.append_nil]
    · rw [hfails'.load_eq, List.append_nil]
  · have hfile : w.Holds (joinPath directory fileName) ((some s).map .ok) := hheld
    have hlevel : w'.leveled s = w.leveled s := by
      rw [leveled, leveled, variableText?_of_environment henvironment]
    refine ⟨_, _, (Loads.ofDirectory hbase hnamed hfile).load_eq, ?_⟩
    rw [(Loads.ofDirectory hbase' hnamed' (hfile.of_agreeAt hagree)).load_eq]
    simp only [Option.some_or, Option.getD_some, hlevel]

end World

namespace Settings

/-! ## Texts without headers -/

theorem toList_of_eq_ofList {text : String} {cs : List Char} (h : text = String.ofList cs) :
    text.toList = cs := by
  rw [h, String.toList_ofList]

/-- Characters of a long text, piece by piece. -/
theorem toList_append_of_eq_ofList {text rest : String} {cs ds : List Char}
    (htext : text = String.ofList cs) (hrest : rest.toList = ds) :
    (text ++ rest).toList = cs ++ ds := by
  rw [String.toList_append, toList_of_eq_ofList htext, hrest]

/-- A text that is one section denotes the table of its pairs. -/
theorem parse?_of_pairs {text : String} {cs : List Char} (pairs : List (String × Toml.Item))
    (htext : text.toList = cs)
    (hsections : Toml.sections (String.ofList cs) = some [⟨[], false, pairs⟩]) :
    Toml.parse? text = some (Toml.Tree.ofPairs pairs).toDocument := by
  have htree : Toml.Tree.ofSections [⟨[], false, pairs⟩] = .ofPairs pairs := by
    rw [Toml.Tree.ofSections, List.foldl_cons, List.foldl_nil, Toml.Tree.insert]
    · rfl
    · intro _ h
      cases h
  rw [← htext, String.ofList_toList] at hsections
  rw [Toml.parse?, hsections, Option.map_some, htree]

/-- And it is read as what that table says. -/
theorem ofToml_of_pairs {text : String} {cs : List Char} {s : Settings}
    (pairs : List (String × Toml.Item)) (htext : text.toList = cs)
    (hsections : Toml.sections (String.ofList cs) = some [⟨[], false, pairs⟩])
    (hreader : reader .toml (Toml.Tree.ofPairs pairs).toDocument = .ok s) :
    ofToml text = .ok s := by
  rw [ofToml, parse?_of_pairs pairs htext hsections]
  simp only [hreader]
  rfl

/-! ## What is loaded -/

open World (baseRecords)

/-- **Settings come from the place that has precedence.** Loading gives what `World.Loads` says and
nothing else. If the file of the working directory fails, so does loading, in every world that has
that file, whatever directory it names. If that file does not fail and the named directory has
one, what the former says makes no difference to what is loaded, nor to any record but its own. -/
theorem load_follows_precedence (w : World) :
    (∀ r, load w = r ↔ w.Loads r) ∧
    (∀ e, w.Holds fileName (some (.error e)) →
      ∀ w', w.AgreeAt w' fileName → load w' = ⟨.error e, []⟩) ∧
    (∀ w' base base' directory, w.Holds fileName (base.map .ok) →
      w'.Holds fileName (base'.map .ok) → w'.environment = w.environment →
      w.variableText? directoryVariable = some directory →
      w.hasPath (joinPath directory fileName) = true →
      w.AgreeAt w' (joinPath directory fileName) →
      ∃ result records, load w = ⟨result, baseRecords base ++ records⟩ ∧
        load w' = ⟨result, baseRecords base' ++ records⟩) := by
  refine ⟨fun r => World.load_eq_iff, ?_, ?_⟩
  · intro e he w' hagree
    exact (World.Loads.baseFails (he.of_agreeAt hagree)).load_eq
  · intro w' base base' directory hbase hbase' henvironment hnamed hpath hagree
    exact World.load_of_directory hbase hbase' henvironment hnamed hpath hagree

open Specimen in
/-- The named directory wins over settings and over none, and a text that makes no sense stops
everything. -/
theorem load_follows_precedence_specimen :
    load (twoPlaces (some "logging.level='debug'"))
        = ⟨.ok { logging := { level := "warn" } },
          [.settingsLoaded "Settings.toml", .settingsLoaded "conf/Settings.toml"]⟩ ∧
      (load (twoPlaces none)).value = .ok { logging := { level := "warn" } } ∧
      load (twoPlaces (some "[")) = ⟨.error (.parse .malformed), []⟩ := by
  have hjoin : joinPath "conf" fileName = "conf/Settings.toml" := by decide +kernel
  have hwarn : ofToml "logging.level='warn'" = .ok { logging := { level := "warn" } } := by
    refine ofToml_of_pairs [("logging", .dotted [("level", .scalar (.text "warn"))])]
      (toList_of_eq_ofList rfl) ?_ rfl
    rw [Toml.sections, String.toList_ofList]
    rfl
  have hdebug : ofToml "logging.level='debug'" = .ok { logging := { level := "debug" } } := by
    refine ofToml_of_pairs [("logging", .dotted [("level", .scalar (.text "debug"))])]
      (toList_of_eq_ofList rfl) ?_ rfl
    rw [Toml.sections, String.toList_ofList]
    rfl
  have hfile : (twoPlaces (some "logging.level='debug'")).Holds (joinPath "conf" fileName)
      ((some { logging := { level := "warn" } }).map .ok) := by
    rw [hjoin]
    exact .settings rfl rfl hwarn
  have hbase : (twoPlaces (some "logging.level='debug'")).Holds fileName
      ((some { logging := { level := "debug" } }).map .ok) := .settings rfl rfl hdebug
  have hnone : (twoPlaces none).Holds fileName ((none : Option Settings).map .ok) := .absent rfl
  have hopen : ofToml "[" = .error (.parse .malformed) := by
    rw [ofToml, Toml.parse?, Toml.sections, toList_of_eq_ofList rfl]
    rfl
  have hfails : (twoPlaces (some "[")).Holds fileName (some (.error (.parse .malformed))) :=
    .malformed rfl rfl hopen
  obtain ⟨hloads, -, hsame⟩ := load_follows_precedence (twoPlaces (some "logging.level='debug'"))
  have hload := (hloads _).mpr (.ofDirectory hbase rfl hfile)
  rw [hjoin] at hload
  refine ⟨hload, ?_, ?_⟩
  · obtain ⟨result, records, hboth, hother⟩ :=
      hsame (twoPlaces none) _ none "conf" hbase hnone rfl rfl (by rw [hjoin]; rfl)
        (by rw [hjoin]; exact ⟨rfl, rfl⟩)
    have hresult : _ = result := congrArg Traced.value (hload.symm.trans hboth)
    rw [hother]
    exact hresult.symm
  · exact (load_follows_precedence (twoPlaces (some "["))).2.1 _ hfails _ ⟨rfl, rfl⟩

end Settings

end RelyingParty
