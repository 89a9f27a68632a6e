import RelyingParty.Proofs.Log.Threshold
import RelyingParty.Proofs.Registration.Trace
import RelyingParty.Proofs.Settings.Batch

/-!
# What the builds of a settings file log

The builds are given here once more, as they log when the threshold is known
(`buildRegistrationsUnder`): they ask before each record. They come to the same as the builds that
keep every record (`buildRegistrationsUnder_eq`), so the threshold decides which records are shown
and nothing else.

What one build leaves is said by `Leaves`, with a case for each way that it can end, in terms of the
credentials that the entries resolve to and of the result. Records are given there as they are seen,
by their level and their whole text. A batch leaves what the builds leave that it tries, one after
the other; the one that fails is the last (`Tried`).
-/

namespace RelyingParty

open Log (Event Level Threshold Traced)

/-! ## Builds that ask before each record -/

namespace Registration.Builder

def buildUnder (t : Threshold) (b : Builder) :
    Traced (Except ConfigurationError Registration) := do
  Traced.emitAllUnder t b.reconciliationEvents
  let result := b.reconciled.validate
  Traced.emitAllUnder t (outcomeEvents b.registrationId result)
  return result

theorem buildUnder_eq (t : Threshold) (b : Builder) : b.buildUnder t = b.build.restrict t := by
  simp only [buildUnder, Traced.emitAllUnder_eq]
  refine Traced.ext rfl ?_
  show t.filter _ ++ (t.filter _ ++ []) = t.filter (_ ++ _)
  rw [List.append_nil, Threshold.filter_append]

end Registration.Builder

namespace RelyingPartySettings

def buildUnder (t : Threshold) (w : World) (s : RelyingPartySettings) :
    Traced (Except SettingsError Registration) :=
  match s.toBuilder w with
  | .error e => pure (.error e)
  | .ok b => do
      let result ← b.buildUnder t
      return result.mapError (.configuration s.registrationId)

def buildAllUnder (t : Threshold) (w : World) :
    List RelyingPartySettings → Traced (Except SettingsError (List Registration))
  | [] => pure (.ok [])
  | s :: rest => do
      match ← s.buildUnder t w with
      | .error e => pure (.error e)
      | .ok r => do
          let others ← buildAllUnder t w rest
          return others.map (r :: ·)

theorem buildUnder_eq (t : Threshold) (w : World) (s : RelyingPartySettings) :
    s.buildUnder t w = (s.build w).restrict t := by
  rw [buildUnder, build]
  cases s.toBuilder w with
  | error e => rfl
  | ok b =>
      simp only [Registration.Builder.buildUnder_eq]
      exact Traced.ext rfl (List.append_nil _)

theorem buildAllUnder_eq (t : Threshold) (w : World) (ss : List RelyingPartySettings) :
    buildAllUnder t w ss = (buildAll w ss).restrict t := by
  induction ss with
  | nil => rfl
  | cons s ss ih =>
      rw [buildAllUnder, buildAll, Traced.restrict_bind, buildUnder_eq, ih]
      refine congrArg _ ?_
      funext result
      -- a failure ends both, and neither records anything of the rest
      cases result with
      | error e => rfl
      | ok r =>
          exact (Traced.restrict_bind (buildAll w ss) fun others => pure (others.map (r :: ·))).symm

end RelyingPartySettings

def Settings.buildRegistrationsUnder (t : Threshold) (w : World) (s : Settings) :
    Traced (Except SettingsError (List Registration)) :=
  RelyingPartySettings.buildAllUnder t w s.registrations

/-- **Asking before each record is choosing from all of them.** -/
theorem Settings.buildRegistrationsUnder_eq (t : Threshold) (w : World) (s : Settings) :
    s.buildRegistrationsUnder t w = (s.buildRegistrations w).restrict t :=
  RelyingPartySettings.buildAllUnder_eq t w s.registrations

/-! ## What one build leaves -/

namespace RelyingPartySettings

open Registration.Builder (flatSetReport outcomeEvents)

variable {w : World} {s : RelyingPartySettings} {R : Resolution} {t : Threshold}

/-- The record on the flat list, if there is one: how many distinct credentials of it declare each
usage, whatever the other lists hold. -/
def flatRecords (s : RelyingPartySettings) (R : Resolution) : List (Level × String) :=
  let count (u : Usage) : String := toString (Registration.declaring R.flat.eraseDups u).length
  if s.credentials = [] then []
  else
    [(.warn, "Registration " ++ s.registrationId
      ++ " uses the deprecated flat credentials list; reconciled into signing=" ++ count .signing
      ++ ", decryption=" ++ count .decryption ++ ", verification=" ++ count .verification
      ++ ", encryption=" ++ count .encryption)]

/-- The two records on a registration, with the fingerprints of each bucket in its order. -/
def builtRecords (r : Registration) : List (Level × String) :=
  let listed (u : Usage) : String :=
    "[" ++ ", ".intercalate (((r.bucket u).map Credential.fingerprint).map Text.quote) ++ "]"
  let p := r.assertingParty
  [(.debug, "Built registration " ++ r.registrationId ++ " (entity_id=" ++ r.entityId ++ ", acs="
      ++ r.assertionConsumerServiceLocation ++ ", signing=" ++ listed .signing ++ ", decryption="
      ++ listed .decryption ++ ")"),
   (.debug, "Asserting party for " ++ r.registrationId ++ ": entity_id=" ++ p.entityId ++ ", sso="
      ++ p.singleSignOnServiceLocation ++ " (" ++ p.singleSignOnServiceBinding.name
      ++ "), wants_authn_requests_signed=" ++ toString p.wantsAuthnRequestsSigned
      ++ ", verification=" ++ listed .verification ++ ", encryption=" ++ listed .encryption)]

/-- The record that names a registration, what it is rejected with and the field to change. -/
def rejectedRecord (id : String) (e : ConfigurationError) : Level × String :=
  (.warn, "Rejected registration " ++ Text.quote id ++ ": " ++ e.message ++ " (field: " ++ e.field
    ++ ")")

/-- The records of a build under a threshold. -/
inductive Leaves (w : World) (s : RelyingPartySettings) (t : Threshold) :
    List (Level × String) → Prop
  /-- Some entry does not resolve. -/
  | unresolved (hentry : ∃ x ∈ s.entries, ∀ credential,
        ¬ x.2.Resolves w s.registrationId x.1 (.ok credential)) :
      Leaves w s t []
  | built {R : Resolution} {r : Registration} (hentries : s.ResolvesTo w R)
      (hresult : (s.build w).value = .ok r) :
      Leaves w s t (t.shown .warn (flatRecords s R) ++ t.shown .debug (builtRecords r))
  /-- The registration is rejected, under the id of the settings and with the error returned. -/
  | rejected {R : Resolution} {e : ConfigurationError} (hentries : s.ResolvesTo w R)
      (hresult : (s.build w).value = .error (.configuration s.registrationId e)) :
      Leaves w s t (t.shown .warn (flatRecords s R)
        ++ t.shown .warn [rejectedRecord s.registrationId e])

/-- Every flat entry has become a credential, so both lists are empty or neither is. -/
theorem ResolvesTo.reconciliationEvents_filled (h : s.ResolvesTo w R) :
    (s.filled R).reconciliationEvents = if s.credentials = [] then []
      else [flatSetReport s.registrationId R.flat.eraseDups] := by
  have hid : (s.filled R).registrationId = s.registrationId := by
    rw [filled_eq]
  have hflat : (s.filled R).credentials = .ofList R.flat := by
    rw [filled_eq]
  have hempty : R.flat = [] ↔ s.credentials = [] := by
    rw [← List.map_eq_nil_iff (f := Except.ok), ← h.flat, List.map_eq_nil_iff]
  rw [Registration.Builder.reconciliationEvents_of_ofList hflat, hid]
  simp only [hempty]

/-- The events of a build whose entries resolve: on the flat list, then on the outcome. -/
theorem ResolvesTo.build_events_eq_outcome (h : s.ResolvesTo w R) :
    (s.build w).events = (s.filled R).reconciliationEvents
      ++ outcomeEvents s.registrationId (s.filled R).build.value := by
  have hid : (s.filled R).registrationId = s.registrationId := by
    rw [filled_eq]
  rw [h.build_events, Registration.Builder.build_events, hid]

/-- Events of one level pass together or not at all, and so do their records. -/
theorem records_filter {l : Level} {events : List Event} (h : ∀ e ∈ events, e.level = l)
    (t : Threshold) : (t.filter events).map Event.record = t.shown l (events.map Event.record) := by
  rw [Threshold.filter_eq_shown h, Threshold.map_shown]

theorem ResolvesTo.records_reconciliationEvents (h : s.ResolvesTo w R) (t : Threshold) :
    (t.filter (s.filled R).reconciliationEvents).map Event.record
      = t.shown .warn (flatRecords s R) := by
  rw [h.reconciliationEvents_filled, flatRecords]
  split
  · exact records_filter (by simp) t
  · exact records_filter (by simp [flatSetReport, Event.level]) t

theorem records_outcomeEvents_ok (id : String) (r : Registration) (t : Threshold) :
    (t.filter (outcomeEvents id (.ok r))).map Event.record = t.shown .debug (builtRecords r) := by
  have hlevel : ∀ e ∈ outcomeEvents id (.ok r), e.level = .debug := by
    simp [outcomeEvents, Event.level]
  have htexts : (outcomeEvents id (.ok r)).map Event.record = builtRecords r := rfl
  rw [records_filter hlevel, htexts]

theorem records_outcomeEvents_error (id : String) (e : ConfigurationError) (t : Threshold) :
    (t.filter (outcomeEvents id (.error e))).map Event.record
      = t.shown .warn [rejectedRecord id e] := by
  have hlevel : ∀ e' ∈ outcomeEvents id (.error e), e'.level = .warn := by
    simp [outcomeEvents, Event.level]
  have htext : (outcomeEvents id (.error e)).map Event.record = [rejectedRecord id e] := rfl
  rw [records_filter hlevel, htext]

/-- **The records of one build.** -/
theorem leaves_buildUnder (t : Threshold) (w : World) (s : RelyingPartySettings) :
    s.Leaves w t ((s.buildUnder t w).events.map Event.record) := by
  rw [buildUnder_eq]
  show s.Leaves w t ((t.filter (s.build w).events).map Event.record)
  cases hb : s.toBuilder w with
  | error e =>
      rw [build_of_toBuilder_error hb]
      exact .unresolved (exists_toBuilder_eq_error_iff.mp ⟨e, hb⟩)
  | ok b =>
      obtain ⟨R, hR, -⟩ := exists_resolvesTo hb
      have hvalue := hR.build_value
      rw [hR.build_events_eq_outcome, Threshold.filter_append, List.map_append,
        hR.records_reconciliationEvents]
      cases hresult : (s.filled R).build.value with
      | ok r =>
          rw [hresult] at hvalue
          rw [records_outcomeEvents_ok]
          exact .built hR hvalue
      | error e =>
          rw [hresult] at hvalue
          rw [records_outcomeEvents_error]
          exact .rejected hR hvalue

/-! ## What a batch leaves -/

/-- The settings whose builds are tried, and what they come to: all of them if each is built, or
those up to the first that is not. -/
inductive Tried (w : World) (ss : List RelyingPartySettings) :
    List RelyingPartySettings → Except SettingsError (List Registration) → Prop
  | all {rs : List Registration} (hbuilt : BuildTo w ss rs) : Tried w ss ss (.ok rs)
  | upTo {before after : List RelyingPartySettings} {x : RelyingPartySettings} {e : SettingsError}
      (hsplit : ss = before ++ x :: after) (hstop : StopsAt w before x e) :
      Tried w ss (before ++ [x]) (.error e)

theorem exists_tried (w : World) (ss : List RelyingPartySettings) :
    ∃ tried, Tried w ss tried (buildAll w ss).value ∧
      (buildAll w ss).events = recordsOf w tried := by
  rcases buildTo_or_stopsAt w ss with ⟨rs, hbuilt⟩ | ⟨before, x, after, e, hsplit, hstop⟩
  · rw [buildAll_of_buildTo hbuilt]
    exact ⟨ss, .all hbuilt, rfl⟩
  · rw [hsplit, buildAll_of_stopsAt hstop]
    refine ⟨before ++ [x], .upTo rfl hstop, ?_⟩
    simp [recordsOf]

theorem filter_recordsOf (t : Threshold) (w : World) (ss : List RelyingPartySettings) :
    t.filter (recordsOf w ss) = ss.flatMap fun s => (s.buildUnder t w).events := by
  simp only [buildUnder_eq]
  exact List.filter_flatMap

end RelyingPartySettings

namespace Settings

open RelyingPartySettings (Leaves Tried)

end Settings

end RelyingParty
