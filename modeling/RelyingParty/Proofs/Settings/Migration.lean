import RelyingParty.Proofs.Settings.Trace

/-!
# Settings without a flat list

Settings that still use the flat list can be rewritten without it: each flat entry goes to the end of
every list whose usage it names. Entries are then resolved in another order, under the names of other
collections, and repetitions are dropped in other places, but what the build sees is the same. An
entry that resolves becomes the same credential in every list, and this credential declares just the
usages that the entry names, so moving entries before they are resolved is sorting credentials after
(`ResolvesTo.migrated`). The builder that the rewritten settings fill is therefore the original one
with its flat set sorted (`filled_migrated`), and all that is lost is the report that it had to be.
-/

namespace RelyingParty

namespace CredentialSettings

variable {w : World} {id field : String} {c : CredentialSettings}

/-- The name of the collection occurs in failures alone. -/
theorem Resolves.in_collection {credential : Credential}
    (h : c.Resolves w id field (.ok credential)) (other : String) :
    c.Resolves w id other (.ok credential) := by
  cases h with
  | credential hcertificate hkey hcreate => exact .credential hcertificate hkey hcreate

/-- A credential declares the usages that its entry names. -/
theorem Resolves.hasUsage_eq {credential : Credential}
    (h : c.Resolves w id field (.ok credential)) (u : Usage) :
    credential.hasUsage u = c.usages.contains u := by
  cases h with
  | credential hcertificate hkey hcreate =>
      obtain ⟨-, -, -, husages⟩ := Credential.create_eq_ok_iff.mp hcreate
      rw [Credential.hasUsage, husages, UsageSet.contains_ofList]

/-- **Choosing entries by usage is choosing their credentials by usage,** in whatever collection the
chosen entries are resolved. -/
theorem resolve_filter_usage {cs : List CredentialSettings} {xs : List Credential}
    (h : cs.map (·.resolve w id field) = xs.map .ok) (u : Usage) (other : String) :
    (cs.filter fun c => c.usages.contains u).map (·.resolve w id other)
      = (Registration.declaring xs u).map .ok := by
  induction cs generalizing xs with
  | nil =>
      have hxs : xs = [] := List.map_eq_nil_iff.mp h.symm
      rw [hxs]
      rfl
  | cons c cs ih =>
      obtain ⟨x, xs, rfl, hx, hxs⟩ := List.map_eq_cons_iff.mp h.symm
      have hc : c.Resolves w id field (.ok x) := resolve_eq_iff.mp hx.symm
      have husage := hc.hasUsage_eq u
      have hrest := ih hxs.symm
      by_cases hu : x.hasUsage u = true
      · have hchosen : Registration.declaring (x :: xs) u = x :: Registration.declaring xs u :=
          List.filter_cons_of_pos hu
        rw [List.filter_cons_of_pos (husage ▸ hu), hchosen, List.map_cons, List.map_cons, hrest,
          (hc.in_collection other).resolve_eq]
      · have hchosen : Registration.declaring (x :: xs) u = Registration.declaring xs u :=
          List.filter_cons_of_neg hu
        rw [List.filter_cons_of_neg (husage ▸ hu), hchosen, hrest]

end CredentialSettings

namespace RelyingPartySettings

open Registration (declaring)
open Registration.Builder (flatSetReport)

variable {w : World} {s : RelyingPartySettings} {R : Resolution}

/-- The entries of the flat list that name a usage. -/
def flatFor (s : RelyingPartySettings) (u : Usage) : List CredentialSettings :=
  s.credentials.filter fun c => c.usages.contains u

/-- The settings without a flat list. An entry that names two usages is copied to two lists. -/
def migrated (s : RelyingPartySettings) : RelyingPartySettings :=
  { s with
    signingCredentials := s.signingCredentials ++ s.flatFor .signing
    decryptionCredentials := s.decryptionCredentials ++ s.flatFor .decryption
    credentials := []
    assertingParty :=
      { s.assertingParty with
        verificationCredentials :=
          s.assertingParty.verificationCredentials ++ s.flatFor .verification
        encryptionCredentials := s.assertingParty.encryptionCredentials ++ s.flatFor .encryption } }

/-- The credentials sorted in the same way. -/
def Resolution.migrated (R : Resolution) : Resolution where
  signing := R.signing ++ declaring R.flat .signing
  decryption := R.decryption ++ declaring R.flat .decryption
  flat := []
  verification := R.verification ++ declaring R.flat .verification
  encryption := R.encryption ++ declaring R.flat .encryption

/-- A list and the flat entries after it resolve to its credentials and those that are chosen. -/
theorem ResolvesTo.map_append_flatFor (h : s.ResolvesTo w R) {field : String}
    {cs : List CredentialSettings} {xs : List Credential}
    (hcs : cs.map (·.resolve w s.registrationId field) = xs.map .ok) (u : Usage) :
    (cs ++ s.flatFor u).map (·.resolve w s.registrationId field)
      = (xs ++ declaring R.flat u).map .ok := by
  rw [List.map_append, List.map_append, hcs, flatFor,
    CredentialSettings.resolve_filter_usage h.flat]

/-- **Moving entries before they are resolved is sorting credentials after.** -/
theorem ResolvesTo.migrated (h : s.ResolvesTo w R) : s.migrated.ResolvesTo w R.migrated where
  signing := h.map_append_flatFor h.signing .signing
  decryption := h.map_append_flatFor h.decryption .decryption
  flat := rfl
  verification := h.map_append_flatFor h.verification .verification
  encryption := h.map_append_flatFor h.encryption .encryption

/-- **The migrated settings fill the builder that sorting its flat set would lead to.** -/
theorem filled_migrated (s : RelyingPartySettings) (R : Resolution) :
    s.migrated.filled R.migrated = (s.filled R).reconciled := by
  rw [Registration.Builder.reconciled_eq, Registration.Builder.extendBuckets_eq]
  simp only [filled_eq, party_fill_eq, AssertingParty.Builder.modifyVerification,
    AssertingParty.Builder.modifyEncryption, extend_declaring_ofList]
  rfl

/-- The result is the same, be it a registration or an error. -/
theorem ResolvesTo.build_migrated_value (h : s.ResolvesTo w R) :
    (s.migrated.build w).value = (s.build w).value := by
  rw [h.migrated.build_value, h.build_value, filled_migrated,
    Registration.Builder.build_reconciled_value]
  rfl

/-- The original settings leave one more record, of the distinct credentials of their flat list. -/
theorem ResolvesTo.build_events_eq (h : s.ResolvesTo w R) :
    (s.build w).events
      = (if s.credentials = [] then [] else [flatSetReport s.registrationId R.flat.eraseDups])
        ++ (s.migrated.build w).events := by
  rw [h.build_events, h.migrated.build_events, filled_migrated,
    Registration.Builder.build_events_eq_append, h.reconciliationEvents_filled]

/-- No record of the migrated settings is about a flat list. -/
theorem ResolvesTo.build_migrated_quiet (h : s.ResolvesTo w R) :
    ∀ e ∈ (s.migrated.build w).events, e.reportsFlatSet = false := by
  rw [h.migrated.build_events, filled_migrated]
  exact Registration.Builder.build_quiet (Registration.Builder.credentials_reconciled _)

/-- **Settings can be freed of their flat list.** If they build a registration, then so do the
migrated settings, and it is the same one. The records are the same as well, but for the report on
the flat list, which comes first where there is such a list. -/
theorem build_migrated (w : World) (s : RelyingPartySettings) (r : Registration)
    (h : (s.build w).value = .ok r) :
    (s.migrated.build w).value = .ok r ∧
      (s.migrated.build w).events = (s.build w).events.filter (fun e => !e.reportsFlatSet) ∧
      ∃ R, s.ResolvesTo w R ∧ (s.build w).events
        = (if s.credentials = [] then [] else [flatSetReport s.registrationId R.flat.eraseDups])
          ++ (s.migrated.build w).events := by
  obtain ⟨R, hR⟩ := exists_resolvesTo_of_build h
  have hevents := hR.build_events_eq
  refine ⟨hR.build_migrated_value.trans h, ?_, R, hR, hevents⟩
  have hquiet : (s.migrated.build w).events.filter (fun e => !e.reportsFlatSet)
      = (s.migrated.build w).events := by
    refine List.filter_eq_self.mpr ?_
    intro e he
    simp [hR.build_migrated_quiet e he]
  rw [hevents, List.filter_append, hquiet]
  split <;> rfl

open Specimen in
/-- A flat list with a repetition, an entry of two usages and entries whose credentials are in the
lists already. -/
theorem build_migrated_specimen :
    let s : RelyingPartySettings :=
      { relyingParty with
        credentials := [pairEntry, verifierEntry, signerEntry, pairEntry]
        assertingParty :=
          { relyingParty.assertingParty with verificationCredentials := [verifierEntry] } }
    ∃ r, (s.build world).value = .ok r ∧ (s.migrated.build world).value = .ok r ∧
      s.migrated.signingCredentials = [signerEntry, pairEntry, signerEntry, pairEntry] ∧
      s.migrated.decryptionCredentials = [pairEntry, pairEntry] ∧
      r.signingCredentials = [signer, keyPair] ∧ r.decryptionCredentials = [keyPair] ∧
      (s.build world).events
        = .flatListReconciled "sp" 2 1 1 0 :: (s.migrated.build world).events := by
  intro s
  let R : Resolution := ⟨[signer], [], [keyPair, verifier, signer, keyPair], [verifier], []⟩
  have hs : s.ResolvesTo world R := by constructor <;> rfl
  have hok : (s.build world).value = .ok (s.filled R).reconciled.described := by
    rw [hs.build_value, Registration.Builder.build_value_eq_ok_iff.mpr
      ⟨valid_filled_iff.mpr (by decide), rfl⟩]
    rfl
  obtain ⟨hvalue, -, R', hR', hevents⟩ := build_migrated world s _ hok
  have hflat : R'.flat = R.flat :=
    (List.map_inj_right fun _ _ => Except.ok.inj).mp (hR'.flat.symm.trans hs.flat)
  have hreport : flatSetReport s.registrationId R.flat.eraseDups
      = .flatListReconciled "sp" 2 1 1 0 := by decide
  refine ⟨_, hok, hvalue, rfl, rfl, by decide, by decide, ?_⟩
  rw [hevents, hflat, hreport]
  rfl

end RelyingPartySettings

end RelyingParty
