import RelyingParty.Json.Printer
import RelyingParty.Summary

/-!
# The text of a report

A registration is reported by its summary as JSON text. Here that text is written down once more
with no summary and no document in between: the parts of an object or an array stand on lines of
their own, two spaces further in than the line that opens it, and behind each but the last there is
a comma. `Registration.reportText` puts the values of a registration in their places, and the
printer comes to the same text (`pretty_summary`).
-/

namespace RelyingParty

namespace Report

/-- Parts between brackets, which open on a line with the given indent. Brackets around nothing stay
on their line. -/
def enclosed (opening closing indent : String) (parts : List String) : String :=
  if parts = [] then opening ++ closing
  else
    opening ++ ",".intercalate (parts.map fun part => "\n" ++ indent ++ "  " ++ part)
      ++ "\n" ++ indent ++ closing

def array (indent : String) (items : List String) : String := enclosed "[" "]" indent items

/-- An object from the names and values of its members. -/
def object (indent : String) (members : List (String × String)) : String :=
  enclosed "\x7b" "\x7d" indent (members.map fun m => Json.quoted m.1 ++ ": " ++ m.2)

end Report

open Report (array object)
open Json (quoted)

def Credential.reportText (indent : String) (c : Credential) : String :=
  object indent
    [("fingerprint", quoted c.fingerprint),
     ("usages", array (indent ++ "  ") (c.usages.toList.map fun u => quoted u.name))]

/-- A list of credentials, each by its fingerprint and its usages. -/
def Report.credentials (indent : String) (cs : List Credential) : String :=
  array indent (cs.map (Credential.reportText (indent ++ "  ")))

def AssertingParty.reportText (indent : String) (p : AssertingParty) : String :=
  object indent
    [("entity_id", quoted p.entityId),
     ("wants_authn_requests_signed", toString p.wantsAuthnRequestsSigned),
     ("single_sign_on_service_location", quoted p.singleSignOnServiceLocation),
     ("single_sign_on_service_binding", quoted p.singleSignOnServiceBinding.name),
     ("verification_credentials", Report.credentials (indent ++ "  ") p.verificationCredentials),
     ("encryption_credentials", Report.credentials (indent ++ "  ") p.encryptionCredentials)]

/-- The text that reports a registration. -/
def Registration.reportText (r : Registration) : String :=
  object ""
    [("registration_id", quoted r.registrationId),
     ("entity_id", quoted r.entityId),
     ("assertion_consumer_service_location", quoted r.assertionConsumerServiceLocation),
     ("signing_credentials", Report.credentials "  " r.signingCredentials),
     ("decryption_credentials", Report.credentials "  " r.decryptionCredentials),
     ("asserting_party", r.assertingParty.reportText "  ")]

namespace Json

/-- The blanks that open a line at a level. -/
def indentation (level : Nat) : String := String.ofList (List.replicate (2 * level) ' ')

theorem indentation_succ (level : Nat) : indentation (level + 1) = indentation level ++ "  " := by
  have hlength : 2 * (level + 1) = 2 * level + 2 := by omega
  rw [indentation, hlength, ← List.replicate_append_replicate, String.ofList_append]
  rfl

/-- A text before the first part and before each further one is a text before every part. -/
theorem append_intercalate (before part : String) (parts : List String) :
    before ++ ("," ++ before).intercalate (part :: parts)
      = ",".intercalate ((part :: parts).map fun p => before ++ p) := by
  induction parts generalizing part with
  | nil => simp only [List.map_cons, List.map_nil, String.intercalate_singleton]
  | cons next parts ih =>
      rw [List.map_cons, List.map_cons, String.intercalate_cons_cons, String.intercalate_cons_cons,
        ← List.map_cons, ← ih next]
      simp only [String.append_assoc]

theorem block_eq_enclosed (opening closing : String) (level : Nat) (parts : List String) :
    block opening closing level parts
      = Report.enclosed opening closing (indentation level) parts := by
  have hbreak : ∀ n, lineBreak n = "\n" ++ indentation n := fun _ => rfl
  cases parts with
  | nil => rfl
  | cons part parts =>
      have hparts := append_intercalate (lineBreak (level + 1)) part parts
      rw [Report.enclosed, if_neg (List.cons_ne_nil part parts)]
      simp only [block, String.append_assoc, hbreak, indentation_succ] at hparts ⊢
      rw [← hparts]
      simp only [String.append_assoc]

theorem prettyItems_eq_map (level : Nat) (ds : List Document) :
    prettyItems level ds = ds.map (prettyAt level) := by
  induction ds with
  | nil => rfl
  | cons d ds ih => rw [prettyItems, ih, List.map_cons]

theorem prettyEntries_eq_map (level : Nat) (es : List Document.Entry) :
    prettyEntries level es = es.map fun e => quoted e.1 ++ ": " ++ prettyAt level e.2 := by
  induction es with
  | nil => rfl
  | cons e es ih => rw [prettyEntries, ih, List.map_cons]

/-- **A list is laid out as an array,** whatever it holds. -/
theorem prettyAt_list (level : Nat) (ds : List Document) :
    prettyAt level (.list ds) = array (indentation level) (ds.map (prettyAt (level + 1))) := by
  rw [prettyAt, prettyItems_eq_map, block_eq_enclosed, array]

/-- **A table is laid out as an object.** -/
theorem prettyAt_table (level : Nat) (es : List Document.Entry) :
    prettyAt level (.table es)
      = object (indentation level) (es.map fun e => (e.1, prettyAt (level + 1) e.2)) := by
  rw [prettyAt, prettyEntries_eq_map, block_eq_enclosed, object, List.map_map]
  rfl

theorem prettyAt_text (level : Nat) (s : String) : prettyAt level (.text s) = quoted s := by
  simp only [prettyAt, scalar]

theorem prettyAt_bool (level : Nat) (b : Bool) : prettyAt level (.bool b) = toString b := by
  cases b <;> simp only [prettyAt, scalar] <;> rfl

end Json

open Json (prettyAt indentation)

theorem prettyAt_credential (level : Nat) (c : Credential) :
    prettyAt level c.summary.toDocument = c.reportText (indentation level) := by
  simp only [Credential.summary, CredentialSummary.toDocument, Credential.reportText,
    Json.prettyAt_table, Json.prettyAt_list, Json.prettyAt_text, Json.indentation_succ,
    List.map_cons, List.map_nil, List.map_map, Function.comp_def]

theorem prettyAt_credentials (level : Nat) (cs : List Credential) :
    prettyAt level (.list ((cs.map Credential.summary).map CredentialSummary.toDocument))
      = Report.credentials (indentation level) cs := by
  simp only [Report.credentials, Json.prettyAt_list, List.map_map, Function.comp_def,
    prettyAt_credential, Json.indentation_succ]

theorem prettyAt_assertingParty (level : Nat) (p : AssertingParty) :
    prettyAt level p.summary.toDocument = p.reportText (indentation level) := by
  simp only [AssertingParty.summary, AssertingPartySummary.toDocument, AssertingParty.reportText,
    Json.prettyAt_table, Json.prettyAt_text, Json.prettyAt_bool, prettyAt_credentials,
    Json.indentation_succ, List.map_cons, List.map_nil]

/-- **The printer puts every value of a summary in its place.** -/
theorem pretty_summary (r : Registration) : Json.pretty r.summary.toDocument = r.reportText := by
  have hinner : indentation 1 = "  " := rfl
  have houter : indentation 0 = "" := rfl
  simp only [Json.pretty, Registration.summary, RegistrationSummary.toDocument,
    Registration.reportText, Json.prettyAt_table, Json.prettyAt_text, prettyAt_credentials,
    prettyAt_assertingParty, List.map_cons, List.map_nil, Nat.zero_add, hinner, houter]

end RelyingParty
