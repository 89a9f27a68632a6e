import RelyingParty.Proofs.Credential.Constructors
import RelyingParty.Proofs.Specimen

/-!
# What comes of a credential definition

A constructor is given a private key or none, a certificate and a list of usages, which may be in
any order and hold repetitions. What comes of them is said here as a relation on just these:
`Outcome` has one case for each defect, in the order of their priority, and one for the credential.
It agrees with the constructors (`create_eq_iff`).

Of several usages that the material cannot serve, the one reported is the first in listing order and
not the one given first, since declared usages are kept in that order (`find?_toList_eq_some_iff`).
For the same reason two credentials are equal when they were asked for with the same material and
with lists that name the same usages.
-/

namespace RelyingParty

namespace UsageSet

variable {s : UsageSet}

/-- The members are listed in order and without repetition. -/
theorem pairwise_toList (s : UsageSet) : s.toList.Pairwise fun u v => u.rank < v.rank := by
  have hall : Usage.all.Pairwise fun u v => u.rank < v.rank := by decide
  exact hall.filter _

/-- **Searching the listed members finds the least.** -/
theorem find?_toList_eq_some_iff {p : Usage → Bool} {u : Usage} :
    s.toList.find? p = some u ↔
      u ∈ s ∧ p u = true ∧ ∀ v ∈ s, p v = true → u.rank ≤ v.rank := by
  have hleast : ∀ {u}, s.toList.find? p = some u → ∀ v ∈ s, p v = true → u.rank ≤ v.rank := by
    intro u hu v hv hpv
    obtain ⟨-, before, after, hsplit, hbefore⟩ := List.find?_eq_some_iff_append.mp hu
    have hmem : v ∈ before ++ u :: after := hsplit ▸ mem_toList.mpr hv
    have hsorted : (before ++ u :: after).Pairwise fun u v => u.rank < v.rank :=
      hsplit ▸ pairwise_toList s
    rcases List.mem_append.mp hmem with hv | hv
    · -- what comes before the usage found does not satisfy the condition
      have hnot := hbefore v hv
      simp [hpv] at hnot
    · rcases List.mem_cons.mp hv with rfl | hv
      · exact Nat.le_refl _
      · have hrest := (List.pairwise_append.mp hsorted).2.1
        exact Nat.le_of_lt ((List.pairwise_cons.mp hrest).1 v hv)
  constructor
  · intro hu
    exact ⟨mem_toList.mp (List.mem_of_find?_eq_some hu), List.find?_some hu, hleast hu⟩
  · intro h
    obtain ⟨hu, hpu, hmin⟩ := h
    have hsome : (s.toList.find? p).isSome := List.find?_isSome.mpr ⟨u, mem_toList.mpr hu, hpu⟩
    obtain ⟨v, hv⟩ := Option.isSome_iff_exists.mp hsome
    have hvu : v.rank ≤ u.rank := hleast hv u hu hpu
    have huv : u.rank ≤ v.rank :=
      hmin v (mem_toList.mp (List.mem_of_find?_eq_some hv)) (List.find?_some hv)
    rw [hv, Usage.rank_inj.mp (Nat.le_antisymm hvu huv)]

theorem toList_ofList_eq_nil_iff {us : List Usage} : (ofList us).toList = [] ↔ us = [] := by
  rw [List.eq_nil_iff_forall_not_mem, List.eq_nil_iff_forall_not_mem]
  simp only [mem_toList, mem_ofList]

theorem ofList_eq_ofList_iff {us vs : List Usage} :
    ofList us = ofList vs ↔ ∀ u, u ∈ us ↔ u ∈ vs := by
  constructor
  · intro h u
    rw [← mem_ofList, h, mem_ofList]
  · intro h
    refine ext_mem ?_
    intro u
    rw [mem_ofList, mem_ofList, h u]

end UsageSet

namespace Credential

open Text (isBlank)

/-- The usages that a private key, or a certificate alone, can serve. -/
def servable : Option String → List Usage
  | some _ => [.signing, .decryption]
  | none => [.verification, .encryption]

theorem mem_servable_iff {privateKey : Option String} {u : Usage} :
    u ∈ servable privateKey ↔ u.needsKey = privateKey.isSome := by
  cases privateKey <;> cases u <;> simp [servable, Usage.needsKey]

/-- Of the usages given, the first in listing order that the material cannot serve. -/
structure FirstUnsupported (privateKey : Option String) (usages : List Usage) (u : Usage) :
    Prop where
  mem : u ∈ usages
  unsupported : u ∉ servable privateKey
  first : ∀ v ∈ usages, v ∉ servable privateKey → u.rank ≤ v.rank

/-- The credential has the material as it was given, and its usages are those of the list, in order
and without repetition. -/
structure IsMadeOf (c : Credential) (privateKey : Option String) (certificate : String)
    (usages : List Usage) : Prop where
  privateKey : c.privateKey = privateKey
  certificate : c.certificate = certificate
  sorted : c.usages.toList.Pairwise fun u v => u.rank < v.rank
  mem_usages : ∀ u, u ∈ c.usages.toList ↔ u ∈ usages

/-- What comes of material and usages. -/
inductive Outcome (privateKey : Option String) (certificate : String) (usages : List Usage) :
    Except ConfigurationError Credential → Prop
  | blankKey {k : String} (hkey : privateKey = some k) (hblank : isBlank k = true) :
      Outcome privateKey certificate usages (.error (.missingField "privateKey"))
  | blankCertificate (hkey : ∀ k ∈ privateKey, isBlank k = false)
      (hblank : isBlank certificate = true) :
      Outcome privateKey certificate usages (.error (.missingField "certificate"))
  | noUsage (hkey : ∀ k ∈ privateKey, isBlank k = false)
      (hcertificate : isBlank certificate = false) (husages : usages = []) :
      Outcome privateKey certificate usages (.error (.emptyCollection "usages"))
  | unsupported {u : Usage} (hkey : ∀ k ∈ privateKey, isBlank k = false)
      (hcertificate : isBlank certificate = false)
      (hfirst : FirstUnsupported privateKey usages u) :
      Outcome privateKey certificate usages
        (.error (.unsupportedUsage u (kind privateKey.isSome)))
  | credential {c : Credential} (hkey : ∀ k ∈ privateKey, isBlank k = false)
      (hcertificate : isBlank certificate = false) (husages : usages ≠ [])
      (hserved : ∀ u ∈ usages, u ∈ servable privateKey)
      (hmade : c.IsMadeOf privateKey certificate usages) :
      Outcome privateKey certificate usages (.ok c)

section Create

variable {privateKey : Option String} {certificate : String} {usages : List Usage}

/-- The checks, read off what was given. -/
theorem firstFailure_checks (privateKey : Option String) (certificate : String)
    (usages : List Usage) : firstFailure (checks privateKey certificate usages)
      = if privateKey.any isBlank then some (.missingField "privateKey")
        else if isBlank certificate then some (.missingField "certificate")
        else if usages.isEmpty then some (.emptyCollection "usages")
        else ((UsageSet.ofList usages).toList.find? fun u => u.needsKey != privateKey.isSome).map
          (.unsupportedUsage · (kind privateKey.isSome)) := by
  have hempty : (UsageSet.ofList usages).toList.isEmpty = usages.isEmpty := by
    rw [Bool.eq_iff_iff, List.isEmpty_iff, List.isEmpty_iff, UsageSet.toList_ofList_eq_nil_iff]
  simp only [checks, List.cons_append, List.nil_append, firstFailure_cons, firstFailure_usages,
    hempty]

theorem needsKey_bne_eq_true_iff {u : Usage} :
    (u.needsKey != privateKey.isSome) = true ↔ u ∉ servable privateKey := by
  rw [mem_servable_iff, bne_iff_ne]

theorem find?_unsupported_eq_some_iff {u : Usage} :
    ((UsageSet.ofList usages).toList.find? fun u => u.needsKey != privateKey.isSome) = some u
      ↔ FirstUnsupported privateKey usages u := by
  simp only [UsageSet.find?_toList_eq_some_iff, UsageSet.mem_ofList, needsKey_bne_eq_true_iff]
  constructor
  · intro h
    obtain ⟨hmem, hunsupported, hfirst⟩ := h
    exact ⟨hmem, hunsupported, hfirst⟩
  · intro h
    exact ⟨h.mem, h.unsupported, h.first⟩

theorem find?_unsupported_eq_none_iff :
    ((UsageSet.ofList usages).toList.find? fun u => u.needsKey != privateKey.isSome) = none
      ↔ ∀ u ∈ usages, u ∈ servable privateKey := by
  simp only [List.find?_eq_none, UsageSet.mem_toList, UsageSet.mem_ofList,
    needsKey_bne_eq_true_iff, Decidable.not_not]

/-- Its parts determine the credential. -/
theorem isMadeOf_iff {c : Credential} : c.IsMadeOf privateKey certificate usages ↔
    c.privateKey = privateKey ∧ c.certificate = certificate ∧ c.usages = .ofList usages := by
  constructor
  · intro h
    refine ⟨h.privateKey, h.certificate, UsageSet.ext_mem ?_⟩
    intro u
    rw [UsageSet.mem_ofList, ← h.mem_usages u, UsageSet.mem_toList]
  · intro h
    obtain ⟨hkey, hcertificate, husages⟩ := h
    refine ⟨hkey, hcertificate, UsageSet.pairwise_toList _, ?_⟩
    intro u
    rw [husages, UsageSet.mem_toList, UsageSet.mem_ofList]

/-- What is said to come of material and usages does come of them. -/
theorem Outcome.create_eq {r : Except ConfigurationError Credential}
    (h : Outcome privateKey certificate usages r) : create privateKey certificate usages = r := by
  have hchecks := firstFailure_checks privateKey certificate usages
  cases h with
  | blankKey hkey hblank =>
      rw [create_eq_error_iff, hchecks, hkey]
      simp [hblank]
  | blankCertificate hkey hblank =>
      rw [create_eq_error_iff, hchecks, any_isBlank_eq_false_iff.mpr hkey, hblank]
      rfl
  | noUsage hkey hcertificate husages =>
      rw [create_eq_error_iff, hchecks, any_isBlank_eq_false_iff.mpr hkey, hcertificate, husages]
      rfl
  | unsupported hkey hcertificate hfirst =>
      have husages : usages.isEmpty = false :=
        List.isEmpty_eq_false_iff.mpr (List.ne_nil_of_mem hfirst.mem)
      rw [create_eq_error_iff, hchecks, any_isBlank_eq_false_iff.mpr hkey, hcertificate, husages,
        find?_unsupported_eq_some_iff.mpr hfirst]
      rfl
  | credential hkey hcertificate husages hserved hmade =>
      refine create_eq_ok_iff.mpr ⟨?_, isMadeOf_iff.mp hmade⟩
      rw [hchecks, any_isBlank_eq_false_iff.mpr hkey, hcertificate,
        List.isEmpty_eq_false_iff.mpr husages, find?_unsupported_eq_none_iff.mpr hserved]
      rfl

/-- The cases leave nothing out. When no check stands in the way, there is a credential. -/
theorem exists_outcome (privateKey : Option String) (certificate : String) (usages : List Usage) :
    ∃ r, Outcome privateKey certificate usages r := by
  by_cases hkey : ∀ k ∈ privateKey, isBlank k = false
  · by_cases hcertificate : isBlank certificate = false
    · by_cases husages : usages = []
      · exact ⟨_, .noUsage hkey hcertificate husages⟩
      · cases hfind : (UsageSet.ofList usages).toList.find?
            fun u => u.needsKey != privateKey.isSome with
        | some u =>
            exact ⟨_, .unsupported hkey hcertificate (find?_unsupported_eq_some_iff.mp hfind)⟩
        | none =>
            -- what the checks have found is what a credential carries with it
            have hserved := find?_unsupported_eq_none_iff.mp hfind
            have hneeds : ∀ u ∈ (UsageSet.ofList usages).toList,
                u.needsKey = privateKey.isSome := by
              intro u hu
              exact mem_servable_iff.mp
                (hserved u (UsageSet.mem_ofList.mp (UsageSet.mem_toList.mp hu)))
            have hnonempty : (UsageSet.ofList usages).toList ≠ [] :=
              mt UsageSet.toList_ofList_eq_nil_iff.mp husages
            let c : Credential :=
              ⟨privateKey, certificate, .ofList usages, hkey, hcertificate, hnonempty, hneeds⟩
            exact ⟨.ok c, .credential hkey hcertificate husages hserved
              (isMadeOf_iff.mpr ⟨rfl, rfl, rfl⟩)⟩
    · exact ⟨_, .blankCertificate hkey (by simpa using hcertificate)⟩
  · have hblank : ∃ k, privateKey = some k ∧ isBlank k = true := by
      simpa using hkey
    obtain ⟨k, hk, hkblank⟩ := hblank
    exact ⟨_, .blankKey hk hkblank⟩

/-- **The constructors give what the cases say.** -/
theorem create_eq_iff {r : Except ConfigurationError Credential} :
    create privateKey certificate usages = r ↔ Outcome privateKey certificate usages r := by
  constructor
  · intro h
    obtain ⟨r', hr'⟩ := exists_outcome privateKey certificate usages
    rw [← h, hr'.create_eq]
    exact hr'
  · intro h
    exact h.create_eq

end Create

namespace Definition

/-- The private key of a definition, if its form has one. -/
def privateKey : Definition → Option String
  | withPrivateKey k _ _ | signing k _ | decryption k _ => some k
  | certificateOnly .. | verification _ | encryption _ => none

def certificate : Definition → String
  | withPrivateKey _ c _ | certificateOnly c _ | signing _ c | decryption _ c | verification c
  | encryption c => c

/-- The usages of a definition as they are given. -/
def usages : Definition → List Usage
  | withPrivateKey _ _ us | certificateOnly _ us => us
  | signing .. => [.signing]
  | decryption .. => [.decryption]
  | verification _ => [.verification]
  | encryption _ => [.encryption]

/-- The form of a definition matters no further. -/
theorem build_eq_create (d : Definition) :
    d.build = create d.privateKey d.certificate d.usages := by
  cases d <;> rfl

variable {d d' : Definition} {c c' : Credential}

theorem isMadeOf_of_build (h : d.build = .ok c) :
    c.IsMadeOf d.privateKey d.certificate d.usages := by
  rw [build_eq_create, create_eq_ok_iff] at h
  exact isMadeOf_iff.mpr h.2

theorem hasUsage_iff_of_build (h : d.build = .ok c) (u : Usage) :
    c.hasUsage u = true ↔ u ∈ d.usages := by
  rw [← (isMadeOf_of_build h).mem_usages u, UsageSet.mem_toList]
  rfl

/-- **Definitions of the same parts give the same credential,** and only they do. -/
theorem eq_iff_of_build (h : d.build = .ok c) (h' : d'.build = .ok c') :
    c = c' ↔ d.privateKey = d'.privateKey ∧ d.certificate = d'.certificate ∧
      ∀ u, u ∈ d.usages ↔ u ∈ d'.usages := by
  obtain ⟨hkey, hcertificate, husages⟩ := isMadeOf_iff.mp (isMadeOf_of_build h)
  obtain ⟨hkey', hcertificate', husages'⟩ := isMadeOf_iff.mp (isMadeOf_of_build h')
  rw [← hkey, ← hkey', ← hcertificate, ← hcertificate', ← UsageSet.ofList_eq_ofList_iff, ← husages,
    ← husages']
  constructor
  · intro he
    rw [he]
    exact ⟨rfl, rfl, rfl⟩
  · intro he
    exact ext he.1 he.2.1 he.2.2

end Definition

/-- **A constructor gives the first defect or a credential of what it was given.** A blank key comes
before a blank certificate, this before the want of usages, and last comes a usage that the material
cannot serve, the first in listing order. Without a defect there is a credential. It declares the
usages that were given, and two of them are equal just when key, certificate and the sets of given
usages are. So a credential has material in which something shows and at least one usage, and its
usages are all those of one party, which is the one its material is for. -/
theorem constructors_first_defect :
    (∀ privateKey certificate usages r, withPrivateKey privateKey certificate usages = r ↔
      Outcome (some privateKey) certificate usages r) ∧
    (∀ certificate usages r, certificateOnly certificate usages = r ↔
      Outcome none certificate usages r) ∧
    (∀ (d : Definition) c, d.build = .ok c → (∀ u, c.hasUsage u = true ↔ u ∈ d.usages) ∧
      (c.isSigning = true ↔ .signing ∈ d.usages) ∧
      (c.isDecryption = true ↔ .decryption ∈ d.usages) ∧
      (c.isVerification = true ↔ .verification ∈ d.usages) ∧
      (c.isEncryption = true ↔ .encryption ∈ d.usages)) ∧
    (∀ (d d' : Definition) c c', d.build = .ok c → d'.build = .ok c' →
      (c = c' ↔ d.privateKey = d'.privateKey ∧ d.certificate = d'.certificate ∧
        ∀ u, u ∈ d.usages ↔ u ∈ d'.usages)) ∧
    (∀ (d : Definition) c, d.build = .ok c → (∀ k ∈ c.privateKey, isBlank k = false) ∧
      isBlank c.certificate = false ∧ (∃ u, c.hasUsage u = true) ∧
      ∀ u, c.hasUsage u = true → u ∈ servable c.privateKey) := by
  refine ⟨fun _ _ _ _ => create_eq_iff, fun _ _ _ => create_eq_iff, ?_, ?_, ?_⟩
  · intro d c h
    have husage := Definition.hasUsage_iff_of_build h
    exact ⟨husage, husage .signing, husage .decryption, husage .verification, husage .encryption⟩
  · intro d d' c c' h h'
    exact Definition.eq_iff_of_build h h'
  · intro d c h
    refine ⟨c.privateKey_visible, c.certificate_visible, c.exists_hasUsage, ?_⟩
    intro u hu
    exact mem_servable_iff.mpr (needsKey_of_hasUsage hu)

open Specimen in
/-- Everything is wrong with the first definition. Of the unsupported usages of the second, the one
given last is reported. Of the last two, one repeats a usage and lists them the other way round. -/
theorem constructors_first_defect_specimen :
    withPrivateKey " " "" [.encryption] = .error (.missingField "privateKey") ∧
    withPrivateKey "key" "pair" [.encryption, .signing, .verification]
      = .error (.unsupportedUsage .verification "private key") ∧
    (Definition.withPrivateKey "key" "pair" [.decryption, .signing, .decryption]).build
      = .ok keyPair ∧
    (∀ c, (Definition.withPrivateKey "key" "pair" [.signing, .decryption]).build = .ok c →
      keyPair = c) ∧
    keyPair.isDecryption = true ∧ ∀ u, keyPair.hasUsage u = true → u ∈ servable (some "key") := by
  obtain ⟨hkeyed, -, hdeclares, hequal, hserved⟩ := constructors_first_defect
  have hpair : (Definition.withPrivateKey "key" "pair" [.decryption, .signing, .decryption]).build
      = .ok keyPair :=
    (hkeyed _ _ _ _).mpr (.credential (by decide) (by decide) (by decide) (by decide)
      ⟨rfl, rfl, by decide, by intro u; cases u <;> decide⟩)
  refine ⟨?_, ?_, hpair, ?_, ?_, ?_⟩
  · exact (hkeyed _ _ _ _).mpr (.blankKey rfl (by decide))
  · exact (hkeyed _ _ _ _).mpr (.unsupported (by decide) (by decide)
      ⟨by decide, by decide, by intro v; cases v <;> decide⟩)
  · intro c hc
    refine (hequal _ _ _ _ hpair hc).mpr ⟨rfl, rfl, ?_⟩
    intro u
    cases u <;> decide
  · exact (hdeclares _ _ hpair).2.2.1.mpr (by decide)
  · exact (hserved _ _ hpair).2.2.2

end Credential

end RelyingParty
