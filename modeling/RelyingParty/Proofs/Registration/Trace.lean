import RelyingParty.Proofs.Registration.Outcome

/-!
# What a build logs

A build leaves the record of its outcome, and before it, if there is a flat set, the record that
the flat set had to be sorted. The latter is the only trace that the flat set leaves.
-/

namespace RelyingParty

/-- Whether the event reports that a flat set was sorted. -/
def Log.Event.reportsFlatSet : Log.Event → Bool
  | .flatListReconciled .. => true
  | _ => false

namespace Registration.Builder

open Log (Event)

/-- The report on a flat set with the given members: how many declare each usage. -/
def flatSetReport (id : String) (cs : List Credential) : Event :=
  .flatListReconciled id (declaring cs .signing).length (declaring cs .decryption).length
    (declaring cs .verification).length (declaring cs .encryption).length

theorem build_events (b : Builder) :
    b.build.events = b.reconciliationEvents ++ outcomeEvents b.registrationId b.build.value := rfl

theorem reconciliationEvents_eq (b : Builder) :
    b.reconciliationEvents = if b.credentials.isEmpty then []
      else [flatSetReport b.registrationId b.credentials.members] := rfl

theorem reconciliationEvents_of_empty {b : Builder} (h : b.credentials = .empty) :
    b.reconciliationEvents = [] := by
  rw [reconciliationEvents_eq, h]
  rfl

/-- A flat set made from a list is reported with the distinct credentials of the list. -/
theorem reconciliationEvents_of_ofList {b : Builder} {xs : List Credential}
    (h : b.credentials = .ofList xs) :
    b.reconciliationEvents
      = if xs = [] then [] else [flatSetReport b.registrationId xs.eraseDups] := by
  rw [reconciliationEvents_eq, h, CredentialSet.isEmpty_ofList, CredentialSet.members_ofList]
  simp only [List.isEmpty_iff]

/-- **Sorting beforehand takes nothing but the report away.** -/
theorem build_events_eq_append (b : Builder) :
    b.build.events = b.reconciliationEvents ++ b.reconciled.build.events := by
  rw [build_events, build_events, reconciliationEvents_of_empty (credentials_reconciled b),
    build_reconciled_value, List.nil_append]
  rfl

theorem outcomeEvents_quiet (id : String) (result : Except ConfigurationError Registration) :
    ∀ e ∈ outcomeEvents id result, e.reportsFlatSet = false := by
  cases result <;> simp [outcomeEvents, Event.reportsFlatSet]

/-- **Without a flat set nothing is reported about one.** -/
theorem build_quiet {b : Builder} (h : b.credentials = .empty) :
    ∀ e ∈ b.build.events, e.reportsFlatSet = false := by
  rw [build_events, reconciliationEvents_of_empty h]
  exact outcomeEvents_quiet _ _

end Registration.Builder

end RelyingParty
