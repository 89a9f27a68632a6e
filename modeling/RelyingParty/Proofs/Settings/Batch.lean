import RelyingParty.Proofs.Settings.Outcome

/-!
# Building all registrations at once

The registrations of a settings file are built one after the other, and the first that cannot be
built ends it. Either all of them are there in the end, in order (`BuildTo`), or there is nothing
but the failure of one of them, which all before it have passed (`StopsAt`); the entries after that
one are never looked at and leave no record.

A build keeps the id of its settings as it is (`registrationId_of_build`). Looking a registration
up by its id therefore finds the same one among the settings and among what was built of them.
-/

namespace RelyingParty

namespace RelyingPartySettings

open Log (Event Traced)

variable {w : World} {s x : RelyingPartySettings} {before ss : List RelyingPartySettings}
  {r : Registration} {rs : List Registration} {e : SettingsError}

/-- **A build keeps the id** that the settings give, character by character. -/
theorem registrationId_of_build (h : (s.build w).value = .ok r) :
    r.registrationId = s.registrationId := by
  obtain ⟨R, hR⟩ := exists_resolvesTo_of_build h
  have hid : (s.filled R).registrationId = s.registrationId := by rw [filled_eq]
  rw [hR.build_value] at h
  cases hv : (s.filled R).build.value with
  | error e =>
      rw [hv] at h
      cases h
  | ok built =>
      rw [hv] at h
      cases h
      obtain ⟨-, hdescribed⟩ := Registration.Builder.build_value_eq_ok_iff.mp hv
      rw [← hdescribed]
      exact hid

/-- The builds of the settings, one by one, succeed with these registrations. -/
def BuildTo (w : World) (ss : List RelyingPartySettings) (rs : List Registration) : Prop :=
  ss.map (fun s => (s.build w).value) = rs.map .ok

/-- The build of `x` fails, and those of all settings before it succeed. -/
structure StopsAt (w : World) (before : List RelyingPartySettings) (x : RelyingPartySettings)
    (e : SettingsError) : Prop where
  built : ∀ s ∈ before, ∃ r, (s.build w).value = .ok r
  fails : (x.build w).value = .error e

/-- The records of the builds, in order. -/
def recordsOf (w : World) (ss : List RelyingPartySettings) : List Event :=
  ss.flatMap fun s => (s.build w).events

theorem BuildTo.length_eq (h : BuildTo w ss rs) : rs.length = ss.length := by
  have hlength := congrArg List.length h
  rw [List.length_map, List.length_map] at hlength
  exact hlength.symm

theorem buildTo_cons_iff {rest : List RelyingPartySettings} :
    BuildTo w (s :: rest) rs ↔
      ∃ r others, rs = r :: others ∧ (s.build w).value = .ok r ∧ BuildTo w rest others := by
  constructor
  · intro h
    obtain ⟨r, others, hrs, hr, hothers⟩ := List.map_eq_cons_iff.mp h.symm
    exact ⟨r, others, hrs, hr.symm, hothers.symm⟩
  · intro h
    obtain ⟨r, others, rfl, hr, hothers⟩ := h
    rw [BuildTo, List.map_cons, List.map_cons, hr, hothers]

theorem exists_buildTo_iff :
    (∃ rs, BuildTo w ss rs) ↔ ∀ s ∈ ss, ∃ r, (s.build w).value = .ok r := by
  induction ss with
  | nil => exact ⟨fun _ => by simp, fun _ => ⟨[], rfl⟩⟩
  | cons s rest ih =>
      rw [List.forall_mem_cons, ← ih]
      constructor
      · intro h
        obtain ⟨rs, hrs⟩ := h
        obtain ⟨r, others, -, hr, hothers⟩ := buildTo_cons_iff.mp hrs
        exact ⟨⟨r, hr⟩, others, hothers⟩
      · intro h
        obtain ⟨⟨r, hr⟩, others, hothers⟩ := h
        exact ⟨r :: others, buildTo_cons_iff.mpr ⟨r, others, rfl, hr, hothers⟩⟩

/-- Either every build succeeds, or there is a first that fails. -/
theorem buildTo_or_stopsAt (w : World) (ss : List RelyingPartySettings) :
    (∃ rs, BuildTo w ss rs) ∨
      ∃ before x after e, ss = before ++ x :: after ∧ StopsAt w before x e := by
  cases h : ss.findSome? fun s => errorOf? (s.build w).value with
  | none =>
      refine Or.inl (exists_buildTo_iff.mpr ?_)
      intro s hs
      exact errorOf?_eq_none_iff.mp (List.findSome?_eq_none_iff.mp h s hs)
  | some e =>
      obtain ⟨before, x, after, hsplit, hx, hbefore⟩ := List.findSome?_eq_some_iff.mp h
      refine Or.inr ⟨before, x, after, e, hsplit, ?_, errorOf?_eq_some_iff.mp hx⟩
      intro s hs
      exact errorOf?_eq_none_iff.mp (hbefore s hs)

theorem buildAll_cons_of_error (h : (s.build w).value = .error e)
    (rest : List RelyingPartySettings) :
    buildAll w (s :: rest) = ⟨.error e, (s.build w).events⟩ := by
  refine Traced.ext ?_ ?_
  · rw [buildAll, Traced.value_bind, h]
    rfl
  · rw [buildAll, Traced.events_bind, h]
    exact List.append_nil _

theorem buildAll_cons_of_ok (h : (s.build w).value = .ok r) (rest : List RelyingPartySettings) :
    buildAll w (s :: rest)
      = ⟨(buildAll w rest).value.map (r :: ·), (s.build w).events ++ (buildAll w rest).events⟩ := by
  refine Traced.ext ?_ ?_
  · rw [buildAll, Traced.value_bind, h]
    rfl
  · rw [buildAll, Traced.events_bind, h]
    simp

/-- **Registrations that are built come before whatever the rest gives.** -/
theorem buildAll_append (h : BuildTo w before rs) (rest : List RelyingPartySettings) :
    buildAll w (before ++ rest)
      = ⟨(buildAll w rest).value.map (rs ++ ·),
        recordsOf w before ++ (buildAll w rest).events⟩ := by
  induction before generalizing rs with
  | nil =>
      have hrs : rs = [] := List.map_eq_nil_iff.mp h.symm
      rw [hrs]
      refine Traced.ext ?_ rfl
      show (buildAll w rest).value = (buildAll w rest).value.map ([] ++ ·)
      cases (buildAll w rest).value <;> rfl
  | cons s before ih =>
      obtain ⟨r, others, rfl, hr, hothers⟩ := buildTo_cons_iff.mp h
      rw [List.cons_append, buildAll_cons_of_ok hr, ih hothers]
      refine Traced.ext ?_ ?_
      · cases (buildAll w rest).value <;> rfl
      · exact (List.append_assoc _ _ _).symm

theorem buildAll_of_buildTo (h : BuildTo w ss rs) : buildAll w ss = ⟨.ok rs, recordsOf w ss⟩ := by
  have happend := buildAll_append h []
  rw [List.append_nil] at happend
  rw [happend]
  refine Traced.ext ?_ (List.append_nil _)
  show Except.ok (rs ++ []) = Except.ok rs
  rw [List.append_nil]

/-- **The first failure is all there is.** Whatever settings come after the one that fails. -/
theorem buildAll_of_stopsAt (h : StopsAt w before x e) (after : List RelyingPartySettings) :
    buildAll w (before ++ x :: after) = ⟨.error e, recordsOf w before ++ (x.build w).events⟩ := by
  obtain ⟨rs, hrs⟩ := exists_buildTo_iff.mpr h.built
  rw [buildAll_append hrs, buildAll_cons_of_error h.fails]
  rfl

theorem buildAll_value_eq_ok_iff : (buildAll w ss).value = .ok rs ↔ BuildTo w ss rs := by
  constructor
  · intro hok
    rcases buildTo_or_stopsAt w ss with ⟨rs', h⟩ | ⟨before, x, after, e, rfl, h⟩
    · rw [buildAll_of_buildTo h] at hok
      cases hok
      exact h
    · rw [buildAll_of_stopsAt h] at hok
      cases hok
  · intro h
    rw [buildAll_of_buildTo h]

theorem buildAll_value_eq_error_iff : (buildAll w ss).value = .error e ↔
    ∃ before x after, ss = before ++ x :: after ∧ StopsAt w before x e := by
  constructor
  · intro herror
    rcases buildTo_or_stopsAt w ss with ⟨rs, h⟩ | ⟨before, x, after, e', rfl, h⟩
    · rw [buildAll_of_buildTo h] at herror
      cases herror
    · rw [buildAll_of_stopsAt h] at herror
      cases herror
      exact ⟨before, x, after, rfl, h⟩
  · intro h
    obtain ⟨before, x, after, rfl, hstop⟩ := h
    rw [buildAll_of_stopsAt hstop]

/-- **A look-up by id finds the same registration before and after the build.** -/
theorem BuildTo.find? (h : BuildTo w ss rs) (id : String) :
    (ss.find? fun s => s.registrationId = id).map (fun s => (s.build w).value)
      = (rs.find? fun r => r.registrationId = id).map .ok := by
  induction ss generalizing rs with
  | nil =>
      have hrs : rs = [] := List.map_eq_nil_iff.mp h.symm
      rw [hrs]
      rfl
  | cons s ss ih =>
      obtain ⟨r, others, rfl, hr, hothers⟩ := buildTo_cons_iff.mp h
      have hid := registrationId_of_build hr
      by_cases hs : s.registrationId = id
      · rw [List.find?_cons_of_pos (by simpa using hs),
          List.find?_cons_of_pos (by simpa [hid] using hs), Option.map_some, Option.map_some, hr]
      · rw [List.find?_cons_of_neg (by simpa using hs),
          List.find?_cons_of_neg (by simpa [hid] using hs)]
        exact ih hothers

end RelyingPartySettings

namespace Settings

open RelyingPartySettings (BuildTo StopsAt recordsOf)

/-- **All registrations are built, or the first failure is reported,** and a look-up by id agrees
with it. The builds of all settings give the result, or it is the error of the first that fails;
then neither the result nor the records change with the settings that come after that one. What
was built holds the registration with an id that the settings look up and build, the first of
several with one id, and none if the settings have none. -/
theorem buildRegistrations_all_or_first (w : World) (s : Settings) :
    (∀ rs, (s.buildRegistrations w).value = .ok rs ↔ BuildTo w s.registrations rs) ∧
    ((∃ rs, (s.buildRegistrations w).value = .ok rs) ↔
      ∀ x ∈ s.registrations, ∃ r, (x.build w).value = .ok r) ∧
    (∀ e, (s.buildRegistrations w).value = .error e ↔
      ∃ before x after, s.registrations = before ++ x :: after ∧ StopsAt w before x e) ∧
    (∀ before x after e, s.registrations = before ++ x :: after → StopsAt w before x e →
      ∀ others, ({ s with registrations := before ++ x :: others }).buildRegistrations w
        = ⟨.error e, recordsOf w before ++ (x.build w).events⟩) ∧
    (∀ rs, (s.buildRegistrations w).value = .ok rs → ∀ id,
      (s.registration? id).map (fun x => (x.build w).value)
        = (rs.find? fun r => r.registrationId = id).map .ok ∧
      (s.registration? id = none ↔ ∀ r ∈ rs, r.registrationId ≠ id)) := by
  have hok : ∀ rs, (s.buildRegistrations w).value = .ok rs ↔ BuildTo w s.registrations rs :=
    fun rs => RelyingPartySettings.buildAll_value_eq_ok_iff
  refine ⟨hok, ?_, ?_, ?_, ?_⟩
  · simp only [hok]
    exact RelyingPartySettings.exists_buildTo_iff
  · intro e
    exact RelyingPartySettings.buildAll_value_eq_error_iff
  · intro before x after e _ hstop others
    exact RelyingPartySettings.buildAll_of_stopsAt hstop others
  · intro rs hrs id
    have hfind : (s.registration? id).map (fun x => (x.build w).value)
        = (rs.find? fun r => r.registrationId = id).map .ok := ((hok rs).mp hrs).find? id
    refine ⟨hfind, ?_⟩
    -- the two look-ups are both empty or both not
    have hnone := congrArg Option.isNone hfind
    rw [Option.isNone_map, Option.isNone_map] at hnone
    rw [← Option.isNone_iff_eq_none, hnone, Option.isNone_iff_eq_none, List.find?_eq_none]
    simp

open Specimen in
/-- Of two registrations with one id the first is found, and settings without a name end the build,
whatever comes after them. -/
theorem buildRegistrations_all_or_first_specimen :
    (∃ q r, (buildRegistrations world { registrations := [relyingParty, namesake] }).value
        = .ok [q, r] ∧
      q.signingCredentials = [signer] ∧ r.signingCredentials = [signer, keyPair] ∧
      (registration? { registrations := [relyingParty, namesake] } "sp").map
        (fun x => (x.build world).value) = some (.ok q) ∧
      registration? { registrations := [relyingParty, namesake] } "idp" = none) ∧
    ∀ others,
      (buildRegistrations world { registrations := [relyingParty] ++ nameless :: others }).value
        = .error (.configuration " " (.missingField "registrationId")) := by
  have hfirst : (relyingParty.build world).value
      = .ok (relyingParty.filled ⟨[signer], [], [], [], []⟩).reconciled.described := rfl
  have hsecond : (namesake.build world).value
      = .ok (namesake.filled ⟨[signer], [], [keyPair], [], []⟩).reconciled.described := rfl
  have hboth : BuildTo world [relyingParty, namesake] _ :=
    RelyingPartySettings.buildTo_cons_iff.mpr ⟨_, _, rfl, hfirst,
      RelyingPartySettings.buildTo_cons_iff.mpr ⟨_, [], rfl, hsecond, rfl⟩⟩
  have hone : BuildTo world [relyingParty] _ :=
    RelyingPartySettings.buildTo_cons_iff.mpr ⟨_, [], rfl, hfirst, rfl⟩
  have hstop : StopsAt world [relyingParty] nameless
      (.configuration " " (.missingField "registrationId")) :=
    ⟨RelyingPartySettings.exists_buildTo_iff.mp ⟨_, hone⟩, rfl⟩
  constructor
  · obtain ⟨hbuilt, -, -, -, hfind⟩ :=
      buildRegistrations_all_or_first world { registrations := [relyingParty, namesake] }
    have hok := (hbuilt _).mpr hboth
    refine ⟨_, _, hok, by decide, by decide, ?_, ?_⟩
    · rw [(hfind _ hok "sp").1]
      rfl
    · rw [(hfind _ hok "idp").2]
      decide
  · intro others
    obtain ⟨-, -, -, hends, -⟩ := buildRegistrations_all_or_first world
      { registrations := [relyingParty] ++ nameless :: others }
    rw [hends [relyingParty] nameless others _ rfl hstop others]

end Settings

end RelyingParty
