import Mathlib.Logic.Function.Basic
import RelyingParty.Credential.Definition
import RelyingParty.Description
import RelyingParty.Proofs.Credential.Constructors
import RelyingParty.Session.CredentialSet
import RelyingParty.Summary

/-!
# Renaming private keys

What may private keys influence? They are compared, since a set holds no credential twice, and
they are asked whether anything shows in them. To say that nothing else of them matters, run
everything a second time with other keys: a `KeyRenaming` puts a key in place of each key, such
that different keys stay different and blank ones stay blank.

This file renames the keys of definitions, credentials, sets and steps on sets. Every operation
commutes with the renaming, every answer that shows no key is the same, and what a credential
looks like from outside, its description and its summary, does not change at all.
-/

namespace RelyingParty

/-- A key in place of each private key. -/
structure KeyRenaming where
  rename : String → String
  /-- Different keys stay different. -/
  injective : Function.Injective rename
  /-- Keys that show nothing, and only they, become keys that show nothing. -/
  isBlank_rename : ∀ k, Text.isBlank (rename k) = Text.isBlank k

variable (ρ : KeyRenaming)

namespace Credential

/-- The credential with its key renamed, if it has one. -/
def rekey (c : Credential) : Credential where
  privateKey := c.privateKey.map ρ.rename
  certificate := c.certificate
  usages := c.usages
  privateKey_visible := by
    intro k hk
    obtain ⟨k₀, hk₀, rfl⟩ := Option.map_eq_some_iff.mp hk
    rw [ρ.isBlank_rename]
    exact c.privateKey_visible k₀ hk₀
  certificate_visible := c.certificate_visible
  usages_ne_nil := c.usages_ne_nil
  needsKey_eq := by
    rw [Option.isSome_map]
    exact c.needsKey_eq

@[simp] theorem hasUsage_rekey (c : Credential) (u : Usage) :
    (c.rekey ρ).hasUsage u = c.hasUsage u := rfl

@[simp] theorem hasPrivateKey_rekey (c : Credential) :
    (c.rekey ρ).hasPrivateKey = c.hasPrivateKey := Option.isSome_map

@[simp] theorem fingerprint_rekey (c : Credential) : (c.rekey ρ).fingerprint = c.fingerprint := rfl

/-- **A description shows of a key only that it is there.** -/
@[simp] theorem describe_rekey (c : Credential) : (c.rekey ρ).describe = c.describe := by
  cases h : c.privateKey <;> simp [describe, rekey, fingerprint, h]

@[simp] theorem summary_rekey (c : Credential) : (c.rekey ρ).summary = c.summary := rfl

@[simp] theorem accepts_rekey (s : Selector) (c : Credential) :
    s.accepts (c.rekey ρ) = s.accepts c := by
  cases s with
  | hasPrivateKey => exact hasPrivateKey_rekey ρ c
  | hasUsage _ | certificateIs _ => rfl

/-- Credentials that differ go on to differ. -/
theorem rekey_injective : Function.Injective (rekey ρ) := by
  intro c d h
  have hkey : c.privateKey.map ρ.rename = d.privateKey.map ρ.rename := congrArg privateKey h
  have hcert : (c.rekey ρ).certificate = (d.rekey ρ).certificate := congrArg certificate h
  have husages : (c.rekey ρ).usages = (d.rekey ρ).usages := congrArg usages h
  exact ext (Option.map_injective ρ.injective hkey) hcert husages

theorem rekey_inj {c d : Credential} : c.rekey ρ = d.rekey ρ ↔ c = d :=
  (rekey_injective ρ).eq_iff

theorem map_rekey_inj {cs ds : List Credential} :
    cs.map (rekey ρ) = ds.map (rekey ρ) ↔ cs = ds :=
  List.map_inj_right (rekey_injective ρ)

/-- **The constructor looks at a key only to see whether it is blank.** -/
theorem create_rekey (privateKey : Option String) (certificate : String) (usages : List Usage) :
    create (privateKey.map ρ.rename) certificate usages
      = (create privateKey certificate usages).map (rekey ρ) := by
  have hchecks : checks (privateKey.map ρ.rename) certificate usages
      = checks privateKey certificate usages := by
    have hblank : (privateKey.map ρ.rename).any Text.isBlank = privateKey.any Text.isBlank := by
      cases privateKey <;> simp [ρ.isBlank_rename]
    rw [checks, checks, hblank, Option.isSome_map]
  cases hcreate : create privateKey certificate usages with
  | error e =>
      refine create_eq_error_iff.mpr ?_
      rw [hchecks]
      exact create_eq_error_iff.mp hcreate
  | ok c =>
      obtain ⟨hnone, rfl, rfl, husages⟩ := create_eq_ok_iff.mp hcreate
      refine create_eq_ok_iff.mpr ⟨?_, rfl, rfl, husages⟩
      rw [hchecks]
      exact hnone

/-- The definition with its key renamed, if it gives one. -/
def Definition.rekey : Definition → Definition
  | .withPrivateKey privateKey certificate usages =>
      .withPrivateKey (ρ.rename privateKey) certificate usages
  | .certificateOnly certificate usages => .certificateOnly certificate usages
  | .signing privateKey certificate => .signing (ρ.rename privateKey) certificate
  | .decryption privateKey certificate => .decryption (ρ.rename privateKey) certificate
  | .verification certificate => .verification certificate
  | .encryption certificate => .encryption certificate

/-- **A definition fails as before, or gives the credential with its key renamed.** -/
theorem Definition.build_rekey (d : Definition) :
    (d.rekey ρ).build = d.build.map (Credential.rekey ρ) := by
  cases d with
  | withPrivateKey k c us => exact create_rekey ρ (some k) c us
  | certificateOnly c us => exact create_rekey ρ none c us
  | signing k c => exact create_rekey ρ (some k) c _
  | decryption k c => exact create_rekey ρ (some k) c _
  | verification c => exact create_rekey ρ none c _
  | encryption c => exact create_rekey ρ none c _

end Credential

namespace CredentialSet

/-- The set with the keys of its members renamed. -/
def rekey (s : CredentialSet) : CredentialSet where
  members := s.members.map (Credential.rekey ρ)
  nodup := List.Pairwise.map _ (fun _ _ hne h => hne (Credential.rekey_injective ρ h)) s.nodup

@[simp] theorem members_rekey (s : CredentialSet) :
    (s.rekey ρ).members = s.members.map (Credential.rekey ρ) := rfl

theorem rekey_inj {s t : CredentialSet} : s.rekey ρ = t.rekey ρ ↔ s = t := by
  constructor
  · intro h
    exact ext ((Credential.map_rekey_inj ρ).mp (congrArg members h))
  · intro h
    rw [h]

theorem rekey_injective : Function.Injective (rekey ρ) := fun _ _ => (rekey_inj ρ).mp

theorem mem_rekey {s : CredentialSet} {c : Credential} : c.rekey ρ ∈ s.rekey ρ ↔ c ∈ s := by
  rw [mem_iff, mem_iff, members_rekey, List.mem_map]
  constructor
  · intro h
    obtain ⟨d, hd, he⟩ := h
    rwa [← Credential.rekey_injective ρ he]
  · intro h
    exact ⟨c, h, rfl⟩

theorem contains_rekey (s : CredentialSet) (c : Credential) :
    (s.rekey ρ).contains (c.rekey ρ) = s.contains c := by
  rw [Bool.eq_iff_iff, contains_eq_true_iff, contains_eq_true_iff, mem_rekey]

theorem insert_rekey (s : CredentialSet) (c : Credential) :
    (s.rekey ρ).insert (c.rekey ρ) = (s.insert c).rekey ρ := by
  by_cases hc : c ∈ s
  · rw [insert_of_mem hc, insert_of_mem ((mem_rekey ρ).mpr hc)]
  · refine ext ?_
    rw [members_insert_of_not_mem (mt (mem_rekey ρ).mp hc), members_rekey, members_rekey,
      members_insert_of_not_mem hc, List.map_append]
    rfl

theorem retain_rekey (s : CredentialSet) {keep keep' : Credential → Bool}
    (h : ∀ c, keep' (c.rekey ρ) = keep c) :
    (s.rekey ρ).retain keep' = (s.retain keep).rekey ρ := by
  refine ext ?_
  have hkeep : keep' ∘ Credential.rekey ρ = keep := funext h
  rw [members_retain, members_rekey, members_rekey, members_retain, List.filter_map, hkeep]

theorem remove_rekey (s : CredentialSet) (c : Credential) :
    (s.rekey ρ).remove (c.rekey ρ) = (s.remove c).rekey ρ := by
  refine retain_rekey ρ s ?_
  intro d
  simp [Credential.rekey_inj]

theorem extend_rekey (s : CredentialSet) (cs : List Credential) :
    (s.rekey ρ).extend (cs.map (Credential.rekey ρ)) = (s.extend cs).rekey ρ := by
  induction cs generalizing s with
  | nil => rfl
  | cons c cs ih => rw [List.map_cons, extend_cons, extend_cons, insert_rekey, ih]

theorem extendByReference_rekey {α : Type} (s : CredentialSet) (read : α → Credential)
    (refs : List α) :
    (s.rekey ρ).extendByReference (fun r => (read r).rekey ρ) refs
      = (s.extendByReference read refs).rekey ρ := by
  rw [extendByReference_eq, extendByReference_eq, ← extend_rekey, List.map_map]
  rfl

/-- An empty set has no keys to rename. -/
theorem empty_extend_rekey (cs : List Credential) :
    empty.extend (cs.map (Credential.rekey ρ)) = (empty.extend cs).rekey ρ :=
  extend_rekey ρ empty cs

theorem ofList_rekey (cs : List Credential) :
    ofList (cs.map (Credential.rekey ρ)) = (ofList cs).rekey ρ :=
  empty_extend_rekey ρ cs

@[simp] theorem size_rekey (s : CredentialSet) : (s.rekey ρ).size = s.size := List.length_map _

@[simp] theorem isEmpty_rekey (s : CredentialSet) : (s.rekey ρ).isEmpty = s.isEmpty :=
  List.isEmpty_map

@[simp] theorem lacks_rekey (s : CredentialSet) (u : Usage) : (s.rekey ρ).lacks u = s.lacks u := by
  simp [lacks, Function.comp_def]

@[simp] theorem describe_rekey (s : CredentialSet) : (s.rekey ρ).describe = s.describe := by
  simp [describe, Credential.describeList, Function.comp_def]

/-- The step with the keys of its credentials renamed. -/
def Step.rekey : Step → Step
  | .insert c => .insert (c.rekey ρ)
  | .remove c => .remove (c.rekey ρ)
  | .contains c => .contains (c.rekey ρ)
  | .retain selector keep => .retain selector keep
  | .clear => .clear
  | .extend cs => .extend (cs.map (Credential.rekey ρ))
  | .extendByReference cells read refs =>
      .extendByReference cells (fun i => (read i).rekey ρ) refs
  | .assign cs => .assign (cs.map (Credential.rekey ρ))
  | .equals cs => .equals (cs.map (Credential.rekey ρ))
  | .size => .size
  | .isEmpty => .isEmpty
  | .toList => .toList

/-- A change of sets under renamed keys: of a renamed set it makes what the change makes of the set,
renamed. A change that looks at no key itself does that already. Other sets do not come up. -/
noncomputable def rekeyChange (change : CredentialSet → CredentialSet) :
    CredentialSet → CredentialSet :=
  Function.extend (rekey ρ) (fun s => (change s).rekey ρ) id

theorem rekeyChange_rekey (change : CredentialSet → CredentialSet) (s : CredentialSet) :
    rekeyChange ρ change (s.rekey ρ) = (change s).rekey ρ :=
  (rekey_injective ρ).extend_apply _ _ s

/-- The answer with the keys renamed, if it lists credentials. A truth value or a number is the
same. -/
def Answer.rekey : Answer → Answer
  | .members cs => .members (cs.map (Credential.rekey ρ))
  | .done => .done
  | .flag b => .flag b
  | .count n => .count n

theorem apply_rekey (s : CredentialSet) (st : Step) :
    (s.rekey ρ).apply (st.rekey ρ) = (s.apply st).rekey ρ := by
  cases st with
  | insert c => exact insert_rekey ρ s c
  | remove c => exact remove_rekey ρ s c
  | retain selector keep => exact retain_rekey ρ s fun c => by rw [Credential.accepts_rekey]
  | clear => rfl
  | extend cs => exact extend_rekey ρ s cs
  | extendByReference _ read refs => exact extendByReference_rekey ρ s read refs
  | assign cs => exact ofList_rekey ρ cs
  | contains _ | equals _ | size | isEmpty | toList => rfl

theorem answer_rekey (s : CredentialSet) (st : Step) :
    (s.rekey ρ).answer (st.rekey ρ) = (s.answer st).rekey ρ := by
  cases st with
  | insert c | contains c => simp [Step.rekey, answer, Answer.rekey, contains_rekey]
  | remove c => simp [Step.rekey, answer, Answer.rekey, remove_rekey]
  | equals cs => simp [Step.rekey, answer, Answer.rekey, ofList_rekey, rekey_inj]
  | size | isEmpty => simp [Step.rekey, answer, Answer.rekey]
  | retain _ _ | clear | extend _ | extendByReference _ _ _ | assign _ | toList => rfl

theorem applyAll_rekey (s : CredentialSet) (steps : List Step) :
    (s.rekey ρ).applyAll (steps.map (Step.rekey ρ)) = (s.applyAll steps).rekey ρ := by
  induction steps generalizing s with
  | nil => rfl
  | cons st sts ih =>
      show ((s.rekey ρ).apply (st.rekey ρ)).applyAll (sts.map (Step.rekey ρ)) = _
      rw [apply_rekey, ih]
      rfl

/-- **A run of steps gives the same answers.** -/
theorem answers_rekey (s : CredentialSet) (steps : List Step) :
    (s.rekey ρ).answers (steps.map (Step.rekey ρ)) = (s.answers steps).map (Answer.rekey ρ) := by
  induction steps generalizing s with
  | nil => rfl
  | cons st sts ih =>
      show (s.rekey ρ).answer (st.rekey ρ)
          :: ((s.rekey ρ).apply (st.rekey ρ)).answers (sts.map (Step.rekey ρ)) = _
      rw [answer_rekey, apply_rekey, ih]
      rfl

end CredentialSet

end RelyingParty
