import RelyingParty.Proofs.Registration.Run
import RelyingParty.Proofs.Registration.Trace
import RelyingParty.Proofs.Specimen

/-!
# The flat route and the typed route

There are two ways to hand a list of credentials to a builder. The flat route puts one after the
other into the flat set and leaves it to the build to sort them; the typed route inserts each at
once into every bucket whose usage it declares. The flat set drops repetitions before it is
sorted and is merged into buckets that were filled long before, the typed route inserts into
four sets in turn, and yet the sorted builder is the same.

Both routes come down to extending every bucket by the credentials that declare its usage
(`reconciled_flatRoute`, `applyAll_typedRoute`).
-/

namespace RelyingParty.Registration

/-- Inserts a credential into the bucket for a usage. -/
def Setting.insertion (c : Credential) : Usage → Setting
  | .signing => .signing [.insert c]
  | .decryption => .decryption [.insert c]
  | .verification => .assertingParty false [.verification [.insert c]]
  | .encryption => .assertingParty false [.encryption [.insert c]]

/-- Puts credentials one by one into the flat set. -/
def flatRoute (xs : List Credential) : List Setting := xs.map fun c => .credentials [.insert c]

/-- Inserts credentials one by one into every bucket whose usage they declare. -/
def typedRoute (xs : List Credential) : List Setting :=
  xs.flatMap fun c => (Usage.all.filter c.hasUsage).map (Setting.insertion c)

namespace Builder

theorem applyAll_flatRoute (b : Builder) (xs : List Credential) :
    b.applyAll (flatRoute xs) = { b with credentials := b.credentials.extend xs } := by
  induction xs generalizing b with
  | nil => rfl
  | cons x xs ih => exact ih (b.apply (.credentials [.insert x]))

/-- **The flat route, once sorted.** -/
theorem reconciled_flatRoute (b : Builder) (xs : List Credential) :
    (b.applyAll (flatRoute xs)).reconciled = b.reconciled.extendBuckets (declaring xs) := by
  rw [applyAll_flatRoute]
  simp only [reconciled_eq, extendBuckets_eq, declaring, CredentialSet.extend_filter_extend,
    AssertingParty.Builder.modifyVerification, AssertingParty.Builder.modifyEncryption]

theorem apply_insertion (b : Builder) (c : Credential) (u : Usage) :
    b.apply (.insertion c u) = b.modifyBucket (·.insert c) u := by
  cases u <;> rfl

/-- One credential takes the typed route: the usages that it does not declare are passed over. -/
theorem applyAll_insertions (b : Builder) (c : Credential) :
    b.applyAll ((Usage.all.filter c.hasUsage).map (.insertion c))
      = b.extendBuckets (declaring [c]) := by
  have hstep : ∀ (b : Builder) (u : Usage),
      (if c.hasUsage u = true then b.apply (.insertion c u) else b)
        = b.modifyBucket (·.extend (declaring [c] u)) u := by
    intro b u
    by_cases hu : c.hasUsage u = true
    · rw [if_pos hu, apply_insertion]
      simp [declaring, hu]
    · have hnone : declaring [c] u = [] := by simp [declaring, hu]
      rw [if_neg hu, hnone]
      cases u <;> rfl
  rw [applyAll, List.foldl_map, List.foldl_filter, extendBuckets]
  simp only [hstep]

/-- **The typed route.** -/
theorem applyAll_typedRoute (b : Builder) (xs : List Credential) :
    b.applyAll (typedRoute xs) = b.extendBuckets (declaring xs) := by
  induction xs generalizing b with
  | nil => rfl
  | cons x xs ih =>
      have hx : declaring (x :: xs) = fun u => declaring [x] u ++ declaring xs u := by
        funext u
        exact (List.filter_append [x] xs)
      rw [hx, extendBuckets_append, ← applyAll_insertions, ← ih, ← applyAll_append]
      rfl

/-- **Sorting after the flat route is taking the typed route.** -/
theorem reconciled_flatRoute_of_empty {b : Builder} (h : b.credentials = .empty)
    (xs : List Credential) :
    (b.applyAll (flatRoute xs)).reconciled = b.applyAll (typedRoute xs) := by
  rw [reconciled_flatRoute, reconciled_of_empty h, applyAll_typedRoute]

theorem credentials_typedRoute (b : Builder) (xs : List Credential) :
    (b.applyAll (typedRoute xs)).credentials = b.credentials := by
  rw [applyAll_typedRoute, credentials_extendBuckets]

/-- What the typed route leaves in a bucket. -/
theorem members_bucket_typedRoute (b : Builder) (xs : List Credential) (u : Usage) :
    ((b.applyAll (typedRoute xs)).bucket u).members
      = (b.bucket u).members ++ ((declaring xs u).filter fun c => c ∉ b.bucket u).eraseDups := by
  rw [applyAll_typedRoute, bucket_extendBuckets, CredentialSet.members_extend]

/-- The flat route leaves a report of every distinct credential, unless there is none. -/
theorem reconciliationEvents_flatRoute {b : Builder} (h : b.credentials = .empty)
    (xs : List Credential) :
    (b.applyAll (flatRoute xs)).reconciliationEvents
      = if xs = [] then [] else [flatSetReport b.registrationId xs.eraseDups] := by
  have hset : (b.applyAll (flatRoute xs)).credentials = .ofList xs := by
    rw [applyAll_flatRoute, h]
    rfl
  rw [reconciliationEvents_of_ofList hset, applyAll_flatRoute]

/-- The records of the routes differ in that report alone. -/
theorem build_events_flatRoute {b : Builder} (h : b.credentials = .empty) (xs : List Credential) :
    (b.applyAll (flatRoute xs)).build.events
      = (if xs = [] then [] else [flatSetReport b.registrationId xs.eraseDups])
        ++ (b.applyAll (typedRoute xs)).build.events := by
  rw [build_events_eq_append, reconciliationEvents_flatRoute h, reconciled_flatRoute_of_empty h]

/-- **Both routes lead to the same registration,** or to the same error. Each bucket is the
builder's own, followed by the first occurrences of the credentials that declare its usage and
are not in it yet. All that tells the routes apart is one record, which the flat route leaves
first, unless there was nothing to sort. -/
theorem build_flatRoute_agrees (b : Builder) (h : b.credentials = .empty) (xs : List Credential) :
    let flat := (b.applyAll (flatRoute xs)).build
    let typed := (b.applyAll (typedRoute xs)).build
    flat.value = typed.value ∧
      (∀ r, flat.value = .ok r → ∀ u, r.bucket u = (b.bucket u).members
        ++ ((declaring xs u).filter fun c => c ∉ b.bucket u).eraseDups) ∧
      flat.events = (if xs = [] then [] else [flatSetReport b.registrationId xs.eraseDups])
        ++ typed.events ∧
      ∀ e ∈ typed.events, e.reportsFlatSet = false := by
  intro flat typed
  have hempty : (b.applyAll (typedRoute xs)).credentials = .empty := by
    rw [credentials_typedRoute, h]
  refine ⟨?_, ?_, build_events_flatRoute h xs, build_quiet hempty⟩
  · show (b.applyAll (flatRoute xs)).build.value = (b.applyAll (typedRoute xs)).build.value
    rw [← reconciled_flatRoute_of_empty h, build_reconciled_value]
  · intro r hr u
    obtain ⟨-, rfl⟩ := build_value_eq_ok_iff.mp hr
    rw [bucket_described, reconciled_flatRoute_of_empty h, members_bucket_typedRoute]

open Specimen in
/-- A list with a repetition, a credential of two usages and two that are in the buckets. -/
theorem build_flatRoute_agrees_specimen :
    builder.credentials = .empty ∧
      ∃ r, (builder.applyAll (flatRoute [keyPair, verifier, keyPair, signer])).build.value = .ok r ∧
        (builder.applyAll (typedRoute [keyPair, verifier, keyPair, signer])).build.value = .ok r ∧
        r.bucket .signing = [signer, keyPair] ∧ r.bucket .decryption = [keyPair] ∧
        r.bucket .verification = [verifier] ∧ r.bucket .encryption = [] := by
  obtain ⟨hvalue, hbucket, -⟩ :=
    build_flatRoute_agrees builder rfl [keyPair, verifier, keyPair, signer]
  have hok : (builder.applyAll (flatRoute [keyPair, verifier, keyPair, signer])).build.value
      = .ok (builder.applyAll (flatRoute [keyPair, verifier, keyPair, signer])).reconciled.described
    := rfl
  have hr := hbucket _ hok
  refine ⟨rfl, _, hok, hvalue.symm.trans hok, ?_, ?_, ?_, ?_⟩
  · exact (hr .signing).trans (by decide)
  · exact (hr .decryption).trans (by decide)
  · exact (hr .verification).trans (by decide)
  · exact (hr .encryption).trans (by decide)

end Builder

end RelyingParty.Registration
