import RelyingParty.Document.Reader
import RelyingParty.Settings.Basic

/-!
# Settings from documents

Each kind of settings is a record with a fixed list of fields. Texts and truth values that are
optional may be absent or `null`; lists, and the tables that have a default, may be absent but
not `null`.
-/

namespace RelyingParty

open Document (Entry Fault Field Format Reader required withDefault)

def Usage.reader (f : Format) : Reader Usage :=
  Reader.choice f "CredentialUsage" Usage.all Usage.name

def Binding.reader (f : Format) : Reader Binding :=
  Reader.choice f "MessageBinding" [Binding.redirect, Binding.post] Binding.name

/-- A field whose value may be absent or `null`. -/
def Document.Field.optional {α : Type} (name : String) (r : Reader α) : Field :=
  ⟨name, false, r.optional.fault?⟩

/-- A field that takes its default where it is absent. -/
def Document.Field.defaulted {α : Type} (name : String) (r : Reader α) : Field :=
  ⟨name, true, r.fault?⟩

/-- The value of an optional field. -/
def Document.optionalField {α : Type} (entries : List Entry) (name : String) (r : Reader α) :
    Except Fault (Option α) :=
  withDefault entries name r.optional none

open Document (optionalField)

namespace CredentialSettings

def fields (f : Format) : List Field :=
  [.optional "certificate" (Reader.text f),
   .optional "private_key" (Reader.text f),
   .optional "certificate_path" (Reader.text f),
   .optional "private_key_path" (Reader.text f),
   .optional "private_key_env" (Reader.text f),
   .defaulted "usages" (Reader.list f (Usage.reader f))]

def ofEntries (f : Format) (es : List Entry) : Except Fault CredentialSettings := do
  return {
    certificate := ← optionalField es "certificate" (Reader.text f)
    privateKey := ← optionalField es "private_key" (Reader.text f)
    certificatePath := ← optionalField es "certificate_path" (Reader.text f)
    privateKeyPath := ← optionalField es "private_key_path" (Reader.text f)
    privateKeyEnv := ← optionalField es "private_key_env" (Reader.text f)
    usages := ← withDefault es "usages" (Reader.list f (Usage.reader f)) [] }

def reader (f : Format) : Reader CredentialSettings :=
  Reader.record f "CredentialSettings" (fields f) (ofEntries f)

/-- A list of credential entries. -/
def listReader (f : Format) : Reader (List CredentialSettings) := Reader.list f (reader f)

end CredentialSettings

namespace AssertingPartySettings

def fields (f : Format) : List Field :=
  [.optional "entity_id" (Reader.text f),
   .optional "wants_authn_requests_signed" (Reader.bool f),
   .defaulted "verification_credentials" (CredentialSettings.listReader f),
   .defaulted "encryption_credentials" (CredentialSettings.listReader f),
   .optional "single_sign_on_service_location" (Reader.text f),
   .optional "single_sign_on_service_binding" (Binding.reader f)]

def ofEntries (f : Format) (es : List Entry) : Except Fault AssertingPartySettings := do
  return {
    entityId := ← optionalField es "entity_id" (Reader.text f)
    wantsAuthnRequestsSigned := ← optionalField es "wants_authn_requests_signed" (Reader.bool f)
    verificationCredentials :=
      ← withDefault es "verification_credentials" (CredentialSettings.listReader f) []
    encryptionCredentials :=
      ← withDefault es "encryption_credentials" (CredentialSettings.listReader f) []
    singleSignOnServiceLocation :=
      ← optionalField es "single_sign_on_service_location" (Reader.text f)
    singleSignOnServiceBinding :=
      ← optionalField es "single_sign_on_service_binding" (Binding.reader f) }

def reader (f : Format) : Reader AssertingPartySettings :=
  Reader.record f "AssertingPartySettings" (fields f) (ofEntries f)

end AssertingPartySettings

namespace RelyingPartySettings

def fields (f : Format) : List Field :=
  [⟨"registration_id", false, (Reader.text f).fault?⟩,
   .optional "entity_id" (Reader.text f),
   .optional "assertion_consumer_service_location" (Reader.text f),
   .defaulted "signing_credentials" (CredentialSettings.listReader f),
   .defaulted "decryption_credentials" (CredentialSettings.listReader f),
   .defaulted "credentials" (CredentialSettings.listReader f),
   .defaulted "asserting_party" (AssertingPartySettings.reader f)]

def ofEntries (f : Format) (es : List Entry) : Except Fault RelyingPartySettings := do
  return {
    registrationId := ← required es "registration_id" (Reader.text f)
    entityId := ← optionalField es "entity_id" (Reader.text f)
    assertionConsumerServiceLocation :=
      ← optionalField es "assertion_consumer_service_location" (Reader.text f)
    signingCredentials :=
      ← withDefault es "signing_credentials" (CredentialSettings.listReader f) []
    decryptionCredentials :=
      ← withDefault es "decryption_credentials" (CredentialSettings.listReader f) []
    credentials := ← withDefault es "credentials" (CredentialSettings.listReader f) []
    assertingParty :=
      ← withDefault es "asserting_party" (AssertingPartySettings.reader f) {} }

def reader (f : Format) : Reader RelyingPartySettings :=
  Reader.record f "RelyingPartySettings" (fields f) (ofEntries f)

end RelyingPartySettings

namespace LoggingSettings

def fields (f : Format) : List Field := [⟨"level", false, (Reader.text f).fault?⟩]

def ofEntries (f : Format) (es : List Entry) : Except Fault LoggingSettings := do
  return { level := ← required es "level" (Reader.text f) }

def reader (f : Format) : Reader LoggingSettings :=
  Reader.record f "LoggingSettings" (fields f) (ofEntries f)

end LoggingSettings

namespace Settings

def fields (f : Format) : List Field :=
  [.defaulted "logging" (LoggingSettings.reader f),
   .defaulted "registrations" (Reader.list f (RelyingPartySettings.reader f))]

def ofEntries (f : Format) (es : List Entry) : Except Fault Settings := do
  return {
    logging := ← withDefault es "logging" (LoggingSettings.reader f) {}
    registrations :=
      ← withDefault es "registrations" (Reader.list f (RelyingPartySettings.reader f)) [] }

def reader (f : Format) : Reader Settings :=
  Reader.record f "RegistrationSettings" (fields f) (ofEntries f)

end Settings

end RelyingParty
