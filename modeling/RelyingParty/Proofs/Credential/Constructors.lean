import RelyingParty.Credential.Definition
import RelyingParty.Proofs.Check

/-!
# What the constructors of credentials give

A constructor makes its checks in a fixed order (`checks`). It reports the first that fails, and
if none does, it gives a credential of just the parts it was given (`create_spec`).

The type of credentials holds what the constructors can return and nothing else: each value of
it is what some definition builds (`exists_definition`). So a statement about all credentials is
one about all that can be constructed.

Two facts about them decide where a credential may end up. It declares at least one usage, so
sorting by usage never loses it, and its usages all belong to the party that its key material
is for, so it never serves both.
-/

namespace RelyingParty.UsageSet

theorem ofList_toList (s : UsageSet) : ofList s.toList = s := by
  refine ext_mem ?_
  intro u
  rw [mem_ofList, mem_toList]

end RelyingParty.UsageSet

namespace RelyingParty.Credential

/-- What can be wrong with material and usages, in the order in which it is reported: of the
declared usages, each that does not go with the kind of the material. -/
def checks (privateKey : Option String) (certificate : String) (usages : List Usage) :
    List Check :=
  [⟨privateKey.any Text.isBlank, .missingField "privateKey"⟩,
   ⟨Text.isBlank certificate, .missingField "certificate"⟩,
   ⟨(UsageSet.ofList usages).toList.isEmpty, .emptyCollection "usages"⟩]
  ++ (UsageSet.ofList usages).toList.map fun u =>
    ⟨u.needsKey != privateKey.isSome, .unsupportedUsage u (kind privateKey.isSome)⟩

section Create

variable {privateKey : Option String} {certificate : String} {usages : List Usage}

theorem any_isBlank_eq_false_iff :
    privateKey.any Text.isBlank = false ↔ ∀ k ∈ privateKey, Text.isBlank k = false := by
  cases privateKey <;> simp

/-- Of the usages, the first that does not go with the material is reported. -/
theorem firstFailure_usages (us : List Usage) (keyed : Bool) :
    firstFailure (us.map fun u => ⟨u.needsKey != keyed, .unsupportedUsage u (kind keyed)⟩)
      = (us.find? fun u => u.needsKey != keyed).map (.unsupportedUsage · (kind keyed)) := by
  rw [firstFailure, List.find?_map, Option.map_map]
  rfl

/-- **What a constructor gives:** the first defect there is, or else a credential of just these
parts. -/
theorem create_spec (privateKey : Option String) (certificate : String) (usages : List Usage) :
    (∀ e, create privateKey certificate usages = .error e →
      firstFailure (checks privateKey certificate usages) = some e) ∧
    (∀ c, create privateKey certificate usages = .ok c →
      firstFailure (checks privateKey certificate usages) = none ∧ c.privateKey = privateKey ∧
        c.certificate = certificate ∧ c.usages = .ofList usages) := by
  simp only [checks, List.cons_append, List.nil_append, firstFailure_cons, firstFailure_usages]
  -- the branches of `create`, beside those of the list of checks
  unfold create
  by_cases hk : ∀ k ∈ privateKey, Text.isBlank k = false
  · rw [dif_pos hk, any_isBlank_eq_false_iff.mpr hk]
    by_cases hc : Text.isBlank certificate = false
    · rw [dif_pos hc, hc]
      by_cases hu : (UsageSet.ofList usages).toList = []
      · simp [hu]
      · simp only [dif_neg hu]
        split
        · next u hfirst => simp [hu, hfirst]
        · next hnone =>
            simp only [hnone]
            simp [hu]
    · simp [hc]
  · have hblank : privateKey.any Text.isBlank = true := by
      simpa using mt any_isBlank_eq_false_iff.mp hk
    rw [dif_neg hk, hblank]
    simp

theorem create_eq_error_iff {e : ConfigurationError} :
    create privateKey certificate usages = .error e
      ↔ firstFailure (checks privateKey certificate usages) = some e := by
  obtain ⟨herror, hok⟩ := create_spec privateKey certificate usages
  refine ⟨herror e, ?_⟩
  intro he
  cases hcreate : create privateKey certificate usages with
  | error e' =>
      rw [herror e' hcreate] at he
      exact congrArg _ (Option.some.inj he)
  | ok c =>
      rw [(hok c hcreate).1] at he
      cases he

/-- A credential is made, of just these parts, when no check fails. -/
theorem create_eq_ok_iff {c : Credential} :
    create privateKey certificate usages = .ok c
      ↔ firstFailure (checks privateKey certificate usages) = none ∧ c.privateKey = privateKey ∧
        c.certificate = certificate ∧ c.usages = .ofList usages := by
  obtain ⟨herror, hok⟩ := create_spec privateKey certificate usages
  refine ⟨hok c, ?_⟩
  rintro ⟨hnone, hkey, hcertificate, husages⟩
  cases hcreate : create privateKey certificate usages with
  | error e =>
      rw [herror e hcreate] at hnone
      cases hnone
  | ok d =>
      obtain ⟨-, hkey', hcertificate', husages'⟩ := hok d hcreate
      exact congrArg _ (ext (hkey'.trans hkey.symm) (hcertificate'.trans hcertificate.symm)
        (husages'.trans husages.symm))

end Create

/-- A credential is what `create` makes of its own parts. -/
theorem create_self (c : Credential) :
    create c.privateKey c.certificate c.usages.toList = .ok c := by
  have hkey : c.privateKey.any Text.isBlank = false :=
    any_isBlank_eq_false_iff.mpr c.privateKey_visible
  have husages : ∀ u ∈ c.usages.toList, (u.needsKey != c.privateKey.isSome) = false := by
    intro u hu
    simp [c.needsKey_eq u hu]
  refine create_eq_ok_iff.mpr ⟨?_, rfl, rfl, (UsageSet.ofList_toList c.usages).symm⟩
  rw [firstFailure_eq_none_iff, checks, UsageSet.ofList_toList]
  simpa [hkey, c.certificate_visible, c.usages_ne_nil] using husages

/-- **Every credential comes from a definition.** -/
theorem exists_definition (c : Credential) : ∃ d : Definition, d.build = .ok c := by
  have hself := create_self c
  cases hk : c.privateKey with
  | none =>
      rw [hk] at hself
      exact ⟨.certificateOnly c.certificate c.usages.toList, hself⟩
  | some k =>
      rw [hk] at hself
      exact ⟨.withPrivateKey k c.certificate c.usages.toList, hself⟩

/-- No credential is without a usage. -/
theorem exists_hasUsage (c : Credential) : ∃ u, c.hasUsage u = true := by
  obtain ⟨u, hu⟩ := List.exists_mem_of_ne_nil _ c.usages_ne_nil
  exact ⟨u, UsageSet.mem_toList.mp hu⟩

/-- A credential for a usage that takes a key has one, and something shows in it. -/
theorem exists_privateKey {c : Credential} {u : Usage} (h : c.hasUsage u = true)
    (hu : u.needsKey = true) : ∃ k, c.privateKey = some k ∧ Text.isBlank k = false := by
  have hk : c.privateKey.isSome = true := by
    rw [← hu]
    exact (needsKey_of_hasUsage h).symm
  obtain ⟨k, hk⟩ := Option.isSome_iff_exists.mp hk
  exact ⟨k, hk, c.privateKey_visible k hk⟩

/-- A credential for a usage that takes a certificate alone has no key. -/
theorem privateKey_eq_none {c : Credential} {u : Usage} (h : c.hasUsage u = true)
    (hu : u.needsKey = false) : c.privateKey = none := by
  have hk : c.privateKey.isSome = false := by
    rw [← hu]
    exact (needsKey_of_hasUsage h).symm
  exact Option.not_isSome_iff_eq_none.mp (by simp [hk])

/-- **No credential serves both parties.** -/
theorem needsKey_eq_of_hasUsage {c : Credential} {u v : Usage} (hu : c.hasUsage u = true)
    (hv : c.hasUsage v = true) : u.needsKey = v.needsKey := by
  rw [needsKey_of_hasUsage hu, needsKey_of_hasUsage hv]

end RelyingParty.Credential
