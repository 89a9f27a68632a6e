import RelyingParty.Proofs.Credential.Set
import RelyingParty.Requirement

/-!
# Checks in a fixed order

A builder that is asked to build makes its checks one after the other and stops at the first
that fails. Here a check is data, a condition beside the error that reports it, so that a whole
build can be read as one list: `report checks value` is the value, unless some check fails, and
then the error of the first one.

The lemmas turn the two requirements that builders make, and a list of checks that goes on after
another, into this form.
-/

namespace RelyingParty

/-- Whether a required text is unset, or set and blank. -/
def isMissing (value : Option String) : Bool := value.all Text.isBlank

/-- Whether some member lacks a usage. -/
def CredentialSet.lacks (s : CredentialSet) (u : Usage) : Bool :=
  s.members.any fun c => !c.hasUsage u

/-- A condition that stands in the way of a build, and the error that says so. -/
structure Check where
  fails : Bool
  error : ConfigurationError

/-- The error of the first check that fails. -/
def firstFailure (checks : List Check) : Option ConfigurationError :=
  (checks.find? (·.fails)).map (·.error)

/-- The value, unless a check fails. -/
def report {α : Type} (checks : List Check) (value : α) : Except ConfigurationError α :=
  match firstFailure checks with
  | some e => .error e
  | none => .ok value

section

variable {α β : Type}

theorem firstFailure_eq_none_iff {checks : List Check} :
    firstFailure checks = none ↔ ∀ c ∈ checks, c.fails = false := by
  rw [firstFailure, Option.map_eq_none_iff, List.find?_eq_none]
  simp

theorem firstFailure_cons (c : Check) (cs : List Check) :
    firstFailure (c :: cs) = if c.fails then some c.error else firstFailure cs := by
  cases h : c.fails <;> simp [firstFailure, h]

theorem firstFailure_append (xs ys : List Check) :
    firstFailure (xs ++ ys) = (firstFailure xs).or (firstFailure ys) := by
  induction xs with
  | nil => rfl
  | cons x xs ih =>
      rw [List.cons_append, firstFailure_cons, firstFailure_cons, ih]
      cases x.fails <;> rfl

/-- The error is that of some check. -/
theorem exists_mem_of_firstFailure {checks : List Check} {e : ConfigurationError}
    (h : firstFailure checks = some e) : ∃ c ∈ checks, c.error = e := by
  obtain ⟨c, hc, he⟩ := Option.map_eq_some_iff.mp h
  exact ⟨c, List.mem_of_find?_eq_some hc, he⟩

@[simp] theorem report_nil (value : α) : report [] value = .ok value := rfl

theorem report_cons (c : Check) (cs : List Check) (value : α) :
    report (c :: cs) value = if c.fails then .error c.error else report cs value := by
  rw [report, report, firstFailure_cons]
  cases c.fails <;> rfl

theorem report_eq_ok_iff {checks : List Check} {value v : α} :
    report checks value = .ok v ↔ firstFailure checks = none ∧ value = v := by
  unfold report
  cases firstFailure checks <;> simp

theorem report_eq_error_iff {checks : List Check} {value : α} {e : ConfigurationError} :
    report checks value = .error e ↔ firstFailure checks = some e := by
  unfold report
  cases firstFailure checks <;> simp

/-- What is made of the value has no part in the checks. -/
theorem report_map (checks : List Check) (value : α) (f : α → β) :
    report checks (f value) = (report checks value).map f := by
  unfold report
  cases firstFailure checks <;> rfl

/-- Checks that go on after others are made only when those have passed. -/
theorem report_bind {xs ys : List Check} {v : α} {w : β} {k : α → Except ConfigurationError β}
    (h : k v = report ys w) : (report xs v >>= k) = report (xs ++ ys) w := by
  induction xs with
  | nil => exact h
  | cons x xs ih =>
      rw [report_cons, List.cons_append, report_cons]
      split
      · rfl
      · exact ih

/-- A required text is a check, and goes on as the text it has found. -/
theorem requireText_bind (value : Option String) (field : String)
    (k : String → Except ConfigurationError α) :
    (requireText value field >>= k)
      = if isMissing value then .error (.missingField field) else k (value.getD "") := by
  cases value with
  | none => rfl
  | some text =>
      by_cases h : Text.isBlank text = true
      · simp [requireText, isMissing, h, bind, Except.bind]
      · simp [requireText, isMissing, h, bind, Except.bind]

/-- A required usage is a check. -/
theorem requireUsage_bind (s : CredentialSet) (field : String) (u : Usage)
    (k : Unit → Except ConfigurationError α) :
    (requireUsage s.members field u >>= k)
      = if s.lacks u then .error (.usageMismatch field u) else k () := by
  by_cases h : s.members.all (fun c => c.hasUsage u) = true
  · have hl : s.lacks u = false := by simpa [CredentialSet.lacks] using h
    rw [requireUsage, if_pos h, hl]
    rfl
  · have hl : s.lacks u = true := by simpa [CredentialSet.lacks] using h
    rw [requireUsage, if_neg h, hl]
    rfl

end

theorem isMissing_eq_false_iff {value : Option String} :
    isMissing value = false ↔ ∃ text, value = some text ∧ Text.isBlank text = false := by
  cases value <;> simp [isMissing]

namespace CredentialSet

theorem lacks_eq_true_iff {s : CredentialSet} {u : Usage} :
    s.lacks u = true ↔ ∃ c ∈ s, c.hasUsage u = false := by
  simp [lacks, mem_iff]

theorem lacks_eq_false_iff {s : CredentialSet} {u : Usage} :
    s.lacks u = false ↔ ∀ c ∈ s, c.hasUsage u = true := by
  simp [lacks, mem_iff]

/-- Credentials that declare the usage leave a set as sound or unsound as it was. -/
theorem lacks_extend {s : CredentialSet} {xs : List Credential} {u : Usage}
    (h : ∀ c ∈ xs, c.hasUsage u = true) : (s.extend xs).lacks u = s.lacks u := by
  rw [Bool.eq_iff_iff, lacks_eq_true_iff, lacks_eq_true_iff]
  constructor
  · intro hs
    obtain ⟨c, hc, hu⟩ := hs
    rcases mem_extend.mp hc with hc | hc
    · exact ⟨c, hc, hu⟩
    · exact absurd (h c hc) (by simp [hu])
  · intro hs
    obtain ⟨c, hc, hu⟩ := hs
    exact ⟨c, mem_extend.mpr (Or.inl hc), hu⟩

end CredentialSet

end RelyingParty
