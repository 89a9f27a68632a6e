import RelyingParty.Credential.Selection
import RelyingParty.Proofs.Credential.Constructors
import RelyingParty.Proofs.Specimen

/-!
# What sorting by usage keeps

A list of credentials is sorted into four lists, and each of them is described by what it holds of
the first: its elements in their order, and each as often as before or not at all. That nothing is
lost on the way, and that the two parties stay apart, are not properties of the four choices, which
say nothing about each other. They come from how credentials are made. Each declares some usage, so
some list takes it, and its usages are those of one party.

The statements are about all lists of credentials, which are the lists of what the constructors can
give (`Credential.exists_definition`).
-/

namespace RelyingParty.Categorized

variable {xs : List Credential} {c : Credential} {u v : Usage}

theorem mem_bucket_ofList : c ∈ (ofList xs).bucket u ↔ c ∈ xs ∧ c.hasUsage u = true := by
  rw [bucket_ofList, List.mem_filter]

/-- A list takes a credential as often as it occurs, or not at all. -/
theorem count_bucket_ofList (xs : List Credential) (u : Usage) (c : Credential) :
    ((ofList xs).bucket u).count c = if c.hasUsage u then xs.count c else 0 := by
  rw [bucket_ofList]
  split
  · next hu => exact List.count_filter hu
  · next hu =>
      refine List.count_eq_zero.mpr ?_
      intro hmem
      exact hu (List.mem_filter.mp hmem).2

/-- **Nothing is lost.** -/
theorem exists_count_bucket_ofList (xs : List Credential) (c : Credential) :
    ∃ u, ((ofList xs).bucket u).count c = xs.count c := by
  obtain ⟨u, hu⟩ := c.exists_hasUsage
  refine ⟨u, ?_⟩
  rw [count_bucket_ofList, if_pos hu]

/-- **The parties stay apart.** -/
theorem needsKey_eq_of_mem_bucket (hu : c ∈ (ofList xs).bucket u) (hv : c ∈ (ofList xs).bucket v) :
    u.needsKey = v.needsKey :=
  Credential.needsKey_eq_of_hasUsage (mem_bucket_ofList.mp hu).2 (mem_bucket_ofList.mp hv).2

/-- Four lists are empty when the list for each usage is. -/
theorem isEmpty_iff {k : Categorized} : k.isEmpty = true ↔ ∀ u, k.bucket u = [] := by
  simp only [isEmpty, Bool.and_eq_true, List.isEmpty_iff]
  constructor
  · intro h u
    obtain ⟨⟨⟨hs, hd⟩, hv⟩, he⟩ := h
    cases u with
    | signing => exact hs
    | decryption => exact hd
    | verification => exact hv
    | encryption => exact he
  · intro h
    exact ⟨⟨⟨h .signing, h .decryption⟩, h .verification⟩, h .encryption⟩

theorem isEmpty_ofList_iff : (ofList xs).isEmpty = true ↔ xs = [] := by
  rw [isEmpty_iff]
  constructor
  · intro h
    refine List.eq_nil_iff_forall_not_mem.mpr ?_
    intro c hc
    obtain ⟨u, hu⟩ := c.exists_hasUsage
    have hmem : c ∈ (ofList xs).bucket u := mem_bucket_ofList.mpr ⟨hc, hu⟩
    rw [h u] at hmem
    cases hmem
  · intro h u
    rw [h, bucket_ofList]
    rfl

theorem bucket_ofList_append (xs ys : List Credential) (u : Usage) :
    (ofList (xs ++ ys)).bucket u = (ofList xs).bucket u ++ (ofList ys).bucket u := by
  rw [bucket_ofList, bucket_ofList, bucket_ofList, List.filter_append]

/-- What has been chosen for a usage is chosen for it again. -/
theorem bucket_ofList_bucket (xs : List Credential) (u : Usage) :
    (ofList ((ofList xs).bucket u)).bucket u = (ofList xs).bucket u := by
  rw [bucket_ofList ((ofList xs).bucket u)]
  refine List.filter_eq_self.mpr ?_
  intro c hc
  exact (mem_bucket_ofList.mp hc).2

/-- **Sorting by usage loses nothing and never crosses parties.** The list for a usage holds the
credentials that declare it, in their order and with their repetitions. Each credential is in some
list as often as it was given, and in none of the other party. All lists are empty only when nothing
was given. Lists given one after the other are sorted one after the other, and a list that is sorted
again stays where it is. -/
theorem ofList_keeps_parties_apart (xs ys : List Credential) :
    (∀ u, ((ofList xs).bucket u).Sublist xs ∧ ∀ c, ((ofList xs).bucket u).count c
      = if c.hasUsage u then xs.count c else 0) ∧
    (∀ c ∈ xs, ∃ u, c ∈ (ofList xs).bucket u ∧ ((ofList xs).bucket u).count c = xs.count c) ∧
    (∀ c, c ∈ (ofList xs).signing ∨ c ∈ (ofList xs).decryption →
      c ∉ (ofList xs).verification ∧ c ∉ (ofList xs).encryption) ∧
    ((ofList xs).isEmpty = true ↔ xs = []) ∧
    (∀ u, (ofList (xs ++ ys)).bucket u = (ofList xs).bucket u ++ (ofList ys).bucket u) ∧
    (∀ u, (ofList ((ofList xs).bucket u)).bucket u = (ofList xs).bucket u) := by
  refine ⟨?_, ?_, ?_, isEmpty_ofList_iff, bucket_ofList_append xs ys, bucket_ofList_bucket xs⟩
  · intro u
    refine ⟨?_, count_bucket_ofList xs u⟩
    rw [bucket_ofList]
    exact List.filter_sublist
  · intro c hc
    obtain ⟨u, hu⟩ := exists_count_bucket_ofList xs c
    refine ⟨u, ?_, hu⟩
    rw [← List.count_pos_iff, hu, List.count_pos_iff]
    exact hc
  · intro c hrelying
    -- a usage of the relying party takes a key, one of the asserting party does not
    have hkeyed : ∃ u : Usage, u.needsKey = true ∧ c ∈ (ofList xs).bucket u := by
      rcases hrelying with hs | hd
      · exact ⟨.signing, rfl, hs⟩
      · exact ⟨.decryption, rfl, hd⟩
    obtain ⟨u, hu, hmem⟩ := hkeyed
    have hapart : ∀ v : Usage, v.needsKey = false → c ∉ (ofList xs).bucket v := by
      intro v hv hother
      have hsame := needsKey_eq_of_mem_bucket hmem hother
      rw [hu, hv] at hsame
      cases hsame
    exact ⟨hapart .verification rfl, hapart .encryption rfl⟩

open Specimen in
/-- A credential of two usages, given twice, is in two lists twice and in no other. -/
theorem ofList_keeps_parties_apart_specimen :
    let xs := [keyPair, verifier, keyPair, signer]
    (ofList xs).signing = [keyPair, keyPair, signer] ∧ (ofList xs).decryption = [keyPair, keyPair] ∧
      keyPair ∈ xs ∧
      (∃ u, keyPair ∈ (ofList xs).bucket u ∧ ((ofList xs).bucket u).count keyPair = 2) ∧
      keyPair ∉ (ofList xs).verification ∧ keyPair ∉ (ofList xs).encryption ∧
      (ofList (xs ++ [verifier])).bucket .verification = [verifier, verifier] := by
  intro xs
  obtain ⟨-, hkept, hapart, -, happend, -⟩ := ofList_keeps_parties_apart xs [verifier]
  have hmem : keyPair ∈ xs := by decide
  have hsigning : (ofList xs).signing = [keyPair, keyPair, signer] := by decide
  have hother := hapart keyPair (Or.inl (by rw [hsigning]; decide))
  obtain ⟨u, hu, hcount⟩ := hkept keyPair hmem
  refine ⟨hsigning, by decide, hmem, ⟨u, hu, hcount.trans (by decide)⟩, hother.1, hother.2, ?_⟩
  rw [happend .verification]
  decide

end RelyingParty.Categorized
