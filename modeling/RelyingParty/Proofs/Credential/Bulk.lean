import Mathlib.Data.List.Induction
import RelyingParty.Credential.Selection
import RelyingParty.Proofs.Credential.Set
import RelyingParty.Proofs.Specimen

/-!
# The laws of bulk operations

Which elements of a list are new to a set can be told place by place, without running the insertions:
those that are no members and have not occurred further up in the list (`newcomers`). With that, each
bulk operation on a set is an operation on lists, and choosing members commutes with all of them.
-/

namespace RelyingParty.CredentialSet

/-- The elements of a list that are not in the set, each at the first place where it occurs. -/
def newcomers (s : CredentialSet) (xs : List Credential) : List Credential :=
  (xs.zipIdx.filter fun x => x.1 ∉ s ∧ x.1 ∉ xs.take x.2).map Prod.fst

/-- One more element at the end is new unless it is a member or has occurred. -/
theorem newcomers_snoc (s : CredentialSet) (xs : List Credential) (x : Credential) :
    s.newcomers (xs ++ [x]) = s.newcomers xs ++ if x ∈ s ∨ x ∈ xs then [] else [x] := by
  -- the places before the last one see the same elements further up
  have hbefore : (xs.zipIdx.filter fun y => y.1 ∉ s ∧ y.1 ∉ (xs ++ [x]).take y.2)
      = xs.zipIdx.filter fun y => y.1 ∉ s ∧ y.1 ∉ xs.take y.2 := by
    refine List.filter_congr ?_
    intro y hy
    obtain ⟨-, hlt, -⟩ := List.mem_zipIdx hy
    rw [List.take_append_of_le_length (by omega)]
  rw [newcomers, newcomers, List.zipIdx_append, List.filter_append, List.map_append, hbefore]
  congr 1
  by_cases hs : x ∈ s
  · simp [hs]
  · by_cases hx : x ∈ xs
    · simp [hx]
    · simp [hs, hx]

theorem newcomers_eq (s : CredentialSet) (xs : List Credential) :
    s.newcomers xs = (xs.filter fun c => c ∉ s).eraseDups := by
  induction xs using List.reverseRecOn with
  | nil => rfl
  | append_singleton xs x ih =>
      rw [newcomers_snoc, ih, List.filter_append, List.eraseDups_append]
      by_cases hs : x ∈ s
      · simp [hs, List.removeAll]
      · by_cases hx : x ∈ xs
        · simp [hs, hx, List.removeAll]
        · simp [hs, hx, List.removeAll, List.eraseDups_cons]

/-- **Bulk operations have a closed form and commute with choosing.** A set is extended by a list's
newcomers, in their order. Extending twice is extending once by both lists, by reference is by value,
and by members changes nothing. A list without repetitions is what its set holds. A condition chooses
from a list's set what it chooses from the list, and from an extended set as if both the set and the
list had been chosen from before. -/
theorem bulk_operations_closed_form (s : CredentialSet) (xs ys : List Credential)
    (keep : Credential → Bool) :
    (s.extend xs).members = s.members ++ s.newcomers xs ∧
    (s.extend xs).extend ys = s.extend (xs ++ ys) ∧
    (∀ {ρ : Type} (read : ρ → Credential) (refs : List ρ),
      s.extendByReference read refs = s.extend (refs.map read)) ∧
    ((∀ c ∈ xs, c ∈ s) → s.extend xs = s) ∧
    (xs.Nodup → (ofList xs).members = xs) ∧
    (ofList xs).retain keep = ofList (Credential.select xs keep) ∧
    (s.extend xs).retain keep = (s.retain keep).extend (Credential.select xs keep) := by
  refine ⟨?_, (extend_append s xs ys).symm, s.extendByReference_eq, extend_of_forall_mem,
    members_ofList_of_nodup, retain_extend empty xs keep, retain_extend s xs keep⟩
  rw [members_extend, newcomers_eq]

open Specimen in
/-- Of a list with a member and a repetition in it, the two newcomers follow the set in the order in
which they first occur. -/
theorem bulk_operations_closed_form_specimen :
    let s := ofList [signer, decrypter]
    let xs := [verifier, signer, keyPair, verifier]
    (s.extend xs).members = [signer, decrypter, verifier, keyPair] ∧
      (∀ c ∈ [decrypter, signer, signer], c ∈ s) ∧ s.extend [decrypter, signer, signer] = s ∧
      [verifier, signer].Nodup ∧ (ofList [verifier, signer]).members = [verifier, signer] := by
  intro s xs
  have hmembers : ∀ c ∈ [decrypter, signer, signer], c ∈ s := by decide
  have hnodup : [verifier, signer].Nodup := by decide
  obtain ⟨hextend, -⟩ := bulk_operations_closed_form s xs [] fun _ => true
  obtain ⟨-, -, -, hsame, -⟩ := bulk_operations_closed_form s _ [] fun _ => true
  obtain ⟨-, -, -, -, hkept, -⟩ := bulk_operations_closed_form s _ [] fun _ => true
  refine ⟨?_, hmembers, hsame hmembers, hnodup, hkept hnodup⟩
  rw [hextend]
  decide

end RelyingParty.CredentialSet
