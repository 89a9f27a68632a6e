import RelyingParty.Proofs.Document.Rearrangement
import RelyingParty.Proofs.Json.RoundTrip
import RelyingParty.Settings.Loading
import RelyingParty.Settings.Writer

/-!
# Settings and the layout of their documents

Settings are read back from the document that is written for them, and from every document that
differs from it in layout only. What that means is said by the rules for the fields of each kind of
settings; `Settings.Edit` is one edit, somewhere in the document.

Each kind of settings is steady under its edits because each of its fields is. The fields are given
as parts, in the order of their declaration, and the reader is taken apart along them.
-/

namespace RelyingParty

open Document (Entry ListEdit NoEdit Part Reader Rule Says Steady TableEdit steady_of_reads
  steady_table)
open Relation (ReflTransGen)

/-! ## The rules for the fields -/

def CredentialSettings.rules : List (String × Rule) :=
  [("certificate", .optional),
   ("private_key", .optional),
   ("certificate_path", .optional),
   ("private_key_path", .optional),
   ("private_key_env", .optional),
   ("usages", .listOf NoEdit)]

/-- One edit of the document of a credential entry. -/
def CredentialSettings.Edit : Document → Document → Prop := TableEdit CredentialSettings.rules

def AssertingPartySettings.rules : List (String × Rule) :=
  [("entity_id", .optional),
   ("wants_authn_requests_signed", .optional),
   ("verification_credentials", .listOf CredentialSettings.Edit),
   ("encryption_credentials", .listOf CredentialSettings.Edit),
   ("single_sign_on_service_location", .optional),
   ("single_sign_on_service_binding", .optional)]

def AssertingPartySettings.Edit : Document → Document → Prop :=
  TableEdit AssertingPartySettings.rules

def RelyingPartySettings.rules : List (String × Rule) :=
  [("registration_id", .required),
   ("entity_id", .optional),
   ("assertion_consumer_service_location", .optional),
   ("signing_credentials", .listOf CredentialSettings.Edit),
   ("decryption_credentials", .listOf CredentialSettings.Edit),
   ("credentials", .listOf CredentialSettings.Edit),
   ("asserting_party",
     .defaulted AssertingPartySettings.Edit ({} : AssertingPartySettings).toDocument)]

def RelyingPartySettings.Edit : Document → Document → Prop := TableEdit RelyingPartySettings.rules

def LoggingSettings.rules : List (String × Rule) := [("level", .required)]

def LoggingSettings.Edit : Document → Document → Prop := TableEdit LoggingSettings.rules

def Settings.rules : List (String × Rule) :=
  [("logging", .defaulted LoggingSettings.Edit ({} : LoggingSettings).toDocument),
   ("registrations", .listOf RelyingPartySettings.Edit)]

/-- One edit of the document of settings, in their own table or in any table under it. -/
def Settings.Edit : Document → Document → Prop := TableEdit Settings.rules

/-! ## Values without fields -/

section

variable (f : Document.Format)

theorem optional_ofText? (value : Option String) :
    (Reader.text f).optional (.ofText? value) = .ok value := by
  cases value <;> rfl

theorem optional_bool (value : Option Bool) :
    (Reader.bool f).optional (value.elim .null .bool) = .ok value := by
  cases value <;> rfl

theorem Usage.reader_toDocument (u : Usage) : Usage.reader f u.toDocument = .ok u := by
  cases u <;> rfl

theorem Binding.optional_ofText?_name (value : Option Binding) :
    (Binding.reader f).optional (.ofText? (value.map Binding.name)) = .ok value := by
  rcases value with _ | _ | _ <;> rfl

/-! ## Records -/

/-- A text that may be absent. -/
def textPart (name : String) (value : Option String) : Part :=
  .optional name (Reader.text f) value (.ofText? value) (optional_ofText? f value)

namespace CredentialSettings

def parts (c : CredentialSettings) : List Part :=
  [textPart f "certificate" c.certificate,
   textPart f "private_key" c.privateKey,
   textPart f "certificate_path" c.certificatePath,
   textPart f "private_key_path" c.privateKeyPath,
   textPart f "private_key_env" c.privateKeyEnv,
   .listOf f "usages" (Usage.reader f) Usage.toDocument
     (fun u => steady_of_reads (Usage.reader_toDocument f u)) c.usages]

theorem ofEntries_of_says {c : CredentialSettings} {es : List Entry} (h : Says (parts f c) es) :
    ofEntries f es = .ok c := by
  obtain ⟨hcertificate, hkey, hcertificatePath, hkeyPath, hkeyEnv, husages, -⟩ :=
    by simpa only [parts, List.forall_mem_cons] using h.said
  rw [ofEntries, hcertificate.optional_eq, hkey.optional_eq, hcertificatePath.optional_eq,
    hkeyPath.optional_eq, hkeyEnv.optional_eq, husages.listOf_eq]
  rfl

/-- **Whatever edits make of a credential entry, it reads as before.** -/
theorem steady (c : CredentialSettings) : Steady Edit (reader f) c c.toDocument :=
  steady_table f "CredentialSettings" rules rfl (by decide) rfl fun _ => ofEntries_of_says f

end CredentialSettings

/-- A list of credential entries. -/
def credentialsPart (name : String) (cs : List CredentialSettings) : Part :=
  .listOf f name (CredentialSettings.reader f) CredentialSettings.toDocument
    (CredentialSettings.steady f) cs

namespace AssertingPartySettings

def parts (p : AssertingPartySettings) : List Part :=
  [textPart f "entity_id" p.entityId,
   .optional "wants_authn_requests_signed" (Reader.bool f) p.wantsAuthnRequestsSigned
     (p.wantsAuthnRequestsSigned.elim .null .bool) (optional_bool f _),
   credentialsPart f "verification_credentials" p.verificationCredentials,
   credentialsPart f "encryption_credentials" p.encryptionCredentials,
   textPart f "single_sign_on_service_location" p.singleSignOnServiceLocation,
   .optional "single_sign_on_service_binding" (Binding.reader f) p.singleSignOnServiceBinding
     (.ofText? (p.singleSignOnServiceBinding.map Binding.name)) (Binding.optional_ofText?_name f _)]

theorem ofEntries_of_says {p : AssertingPartySettings} {es : List Entry} (h : Says (parts f p) es) :
    ofEntries f es = .ok p := by
  obtain ⟨hentityId, hsigned, hverification, hencryption, hlocation, hbinding, -⟩ :=
    by simpa only [parts, List.forall_mem_cons] using h.said
  rw [ofEntries, hentityId.optional_eq, hsigned.optional_eq, CredentialSettings.listReader,
    hverification.listOf_eq, hencryption.listOf_eq, hlocation.optional_eq, hbinding.optional_eq]
  rfl

/-- **Whatever edits make of an asserting party, it reads as before.** -/
theorem steady (p : AssertingPartySettings) : Steady Edit (reader f) p p.toDocument :=
  steady_table f "AssertingPartySettings" rules rfl (by decide) rfl fun _ => ofEntries_of_says f

end AssertingPartySettings

namespace RelyingPartySettings

def parts (r : RelyingPartySettings) : List Part :=
  [.required "registration_id" (Reader.text f) r.registrationId (.text r.registrationId) rfl,
   textPart f "entity_id" r.entityId,
   textPart f "assertion_consumer_service_location" r.assertionConsumerServiceLocation,
   credentialsPart f "signing_credentials" r.signingCredentials,
   credentialsPart f "decryption_credentials" r.decryptionCredentials,
   credentialsPart f "credentials" r.credentials,
   .defaulted "asserting_party" (AssertingPartySettings.reader f)
     (AssertingPartySettings.steady f r.assertingParty) (AssertingPartySettings.steady f {})]

theorem ofEntries_of_says {r : RelyingPartySettings} {es : List Entry} (h : Says (parts f r) es) :
    ofEntries f es = .ok r := by
  obtain ⟨hid, hentityId, hlocation, hsigning, hdecryption, hcredentials, hparty, -⟩ :=
    by simpa only [parts, List.forall_mem_cons] using h.said
  rw [ofEntries, hid.required_eq, hentityId.optional_eq, hlocation.optional_eq,
    CredentialSettings.listReader, hsigning.listOf_eq, hdecryption.listOf_eq,
    hcredentials.listOf_eq, hparty.defaulted_eq]
  rfl

/-- **Whatever edits make of a registration, it reads as before.** -/
theorem steady (r : RelyingPartySettings) : Steady Edit (reader f) r r.toDocument :=
  steady_table f "RelyingPartySettings" rules rfl (by decide) rfl fun _ => ofEntries_of_says f

end RelyingPartySettings

namespace LoggingSettings

def parts (l : LoggingSettings) : List Part :=
  [.required "level" (Reader.text f) l.level (.text l.level) rfl]

theorem ofEntries_of_says {l : LoggingSettings} {es : List Entry} (h : Says (parts f l) es) :
    ofEntries f es = .ok l := by
  obtain ⟨hlevel, -⟩ := by simpa only [parts, List.forall_mem_cons] using h.said
  rw [ofEntries, hlevel.required_eq]
  rfl

/-- **Whatever edits make of the logging table, it reads as before.** -/
theorem steady (l : LoggingSettings) : Steady Edit (reader f) l l.toDocument :=
  steady_table f "LoggingSettings" rules rfl (by decide) rfl fun _ => ofEntries_of_says f

end LoggingSettings

namespace Settings

def parts (s : Settings) : List Part :=
  [.defaulted "logging" (LoggingSettings.reader f) (LoggingSettings.steady f s.logging)
     (LoggingSettings.steady f {}),
   .listOf f "registrations" (RelyingPartySettings.reader f) RelyingPartySettings.toDocument
     (RelyingPartySettings.steady f) s.registrations]

theorem ofEntries_of_says {s : Settings} {es : List Entry} (h : Says (parts f s) es) :
    ofEntries f es = .ok s := by
  obtain ⟨hlogging, hregistrations, -⟩ :=
    by simpa only [parts, List.forall_mem_cons] using h.said
  rw [ofEntries, hlogging.defaulted_eq, hregistrations.listOf_eq]
  rfl

/-- **Whatever edits make of settings, they read as before.** -/
theorem steady (s : Settings) : Steady Edit (reader f) s s.toDocument :=
  steady_table f "RegistrationSettings" rules rfl (by decide) rfl fun _ => ofEntries_of_says f

end Settings

end

/-! ## Texts

The text of each kind of settings is read as its document with the fields of all its tables in
alphabetical order. -/

section

open Json (Rereads denotes_bool denotes_null denotes_text rereads_list rereads_of_denotes
  rereads_table)

theorem rereads_text {edit : Document → Document → Prop} (s : String) :
    Rereads edit (.text s) :=
  rereads_of_denotes (denotes_text s)

theorem rereads_ofText? {edit : Document → Document → Prop} (value : Option String) :
    Rereads edit (.ofText? value) := by
  cases value with
  | none => exact rereads_of_denotes denotes_null
  | some s => exact rereads_text s

theorem rereads_map {α : Type} {edit : Document → Document → Prop} {write : α → Document}
    (h : ∀ a, Rereads edit (write a)) (as : List α) :
    Rereads (ListEdit edit) (.list (as.map write)) :=
  rereads_list (List.forall_mem_map.mpr fun a _ => h a)

theorem Usage.rereads (u : Usage) : Rereads NoEdit u.toDocument := rereads_text u.name

theorem rereads_flag {edit : Document → Document → Prop} (value : Option Bool) :
    Rereads edit (value.elim .null .bool) := by
  cases value with
  | none => exact rereads_of_denotes denotes_null
  | some b => exact rereads_of_denotes (denotes_bool b)

theorem CredentialSettings.rereads (c : CredentialSettings) : Rereads Edit c.toDocument := by
  refine rereads_table (parts .json c) rules rfl (by decide) ?_
  simp only [parts, List.forall_mem_cons]
  exact ⟨rereads_ofText? _, rereads_ofText? _, rereads_ofText? _, rereads_ofText? _,
    rereads_ofText? _, rereads_map Usage.rereads _, fun _ h => nomatch h⟩

theorem AssertingPartySettings.rereads (p : AssertingPartySettings) :
    Rereads Edit p.toDocument := by
  refine rereads_table (parts .json p) rules rfl (by decide) ?_
  simp only [parts, List.forall_mem_cons]
  exact ⟨rereads_ofText? _, rereads_flag _, rereads_map CredentialSettings.rereads _,
    rereads_map CredentialSettings.rereads _, rereads_ofText? _, rereads_ofText? _,
    fun _ h => nomatch h⟩

theorem RelyingPartySettings.rereads (r : RelyingPartySettings) : Rereads Edit r.toDocument := by
  refine rereads_table (parts .json r) rules rfl (by decide) ?_
  simp only [parts, List.forall_mem_cons]
  exact ⟨rereads_text _, rereads_ofText? _, rereads_ofText? _,
    rereads_map CredentialSettings.rereads _, rereads_map CredentialSettings.rereads _,
    rereads_map CredentialSettings.rereads _, AssertingPartySettings.rereads _,
    fun _ h => nomatch h⟩

theorem LoggingSettings.rereads (l : LoggingSettings) : Rereads Edit l.toDocument := by
  refine rereads_table (parts .json l) rules rfl (by decide) ?_
  simp only [parts, List.forall_mem_cons]
  exact ⟨rereads_text _, fun _ h => nomatch h⟩

/-- The text of settings is read as their document in another order. -/
theorem Settings.rereads (s : Settings) : Rereads Edit s.toDocument := by
  refine rereads_table (parts .json s) rules rfl (by decide) ?_
  simp only [parts, List.forall_mem_cons]
  exact ⟨LoggingSettings.rereads _, rereads_map RelyingPartySettings.rereads _,
    fun _ h => nomatch h⟩

end

/-- **Settings survive being written and read.** What is read back from their JSON text is the same
settings, and so is what is read from any document that edits make of the written one, however many
and wherever they are. -/
theorem Settings.written_reads_back (s : Settings) :
    ofJson (Json.compact s.toDocument) = .ok s ∧
      ∀ d, ReflTransGen Edit s.toDocument d → reader .json d = .ok s := by
  have hsteady := s.steady .json
  refine ⟨?_, hsteady⟩
  obtain ⟨d, hedits, hdenotes⟩ := s.rereads
  rw [ofJson, hdenotes.parse?_compact]
  exact hsteady d hedits

/-- The logging table and the asserting party are left out, the fields of the registration come in the
opposite order, with a note on top, and the credential entry lacks a field that is absent. -/
theorem Settings.written_reads_back_specimen :
    reader .json (.table
        [("registrations", .list [.table
          [("note", .list [.null]),
           ("credentials", .list [.table
             [("private_key", .null),
              ("certificate_path", .null),
              ("private_key_path", .text "key.pem"),
              ("private_key_env", .null),
              ("usages", .list [])]]),
           ("decryption_credentials", .list []),
           ("signing_credentials", .list []),
           ("assertion_consumer_service_location", .null),
           ("entity_id", .null),
           ("registration_id", .text "demo")]])])
      = .ok { registrations :=
          [{ registrationId := "demo", credentials := [{ privateKeyPath := some "key.pem" }] }] } := by
  let entry : CredentialSettings := { privateKeyPath := some "key.pem" }
  let registration : RelyingPartySettings := { registrationId := "demo", credentials := [entry] }
  have hcredentials : ListEdit CredentialSettings.Edit _ _ :=
    @ListEdit.item _ [] [] entry.toDocument _ (.delete rfl rfl)
  have hregistration : ReflTransGen RelyingPartySettings.Edit registration.toDocument _ :=
    .head (.permute (List.reverse_perm _).symm)
      (.head (.delete rfl .refl) (.head (.inside rfl hcredentials)
        (.single (@TableEdit.add _ _ "note" (.list [.null]) rfl rfl))))
  refine (Settings.written_reads_back _).2 _ ?_
  refine .head (.delete rfl .refl) ?_
  exact (Document.edits_items (.cons hregistration .nil) []).lift
    (fun d => Document.table [("registrations", d)]) fun _ _ he => TableEdit.inside rfl he

end RelyingParty
