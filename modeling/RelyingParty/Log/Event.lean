import RelyingParty.Binding
import RelyingParty.ConfigurationError
import RelyingParty.Log.Level
import RelyingParty.Text.Quoted
import RelyingParty.Text.Record

/-!
# Log records

What is worth a record, as data: an event holds exactly what its message shows. Certificates
appear as fingerprints and private keys not at all, so no message can reveal one.
-/

namespace RelyingParty.Log

inductive Event where
  /-- A registration was built; fingerprints of its relying party credentials. -/
  | registrationBuilt (id entityId consumerLocation : String) (signing decryption : List String)
  /-- The asserting party of a registration that was built. -/
  | assertingPartyBuilt (id entityId location : String) (binding : Binding) (wantsSigned : Bool)
      (verification encryption : List String)
  /-- A flat credential list was sorted; how many credentials declare each usage. -/
  | flatListReconciled (id : String) (signing decryption verification encryption : Nat)
  | registrationRejected (id : String) (error : ConfigurationError)
  | settingsLoaded (path : String)
  /-- The directory that should hold the settings has no settings file. -/
  | settingsFileAbsent (path : String)
  /-- The settings are in and their registrations are about to be built. -/
  | validating (version : String) (count : Nat)
deriving DecidableEq, Repr

namespace Event

def level : Event → Level
  | registrationBuilt .. | assertingPartyBuilt .. => .debug
  | flatListReconciled .. | registrationRejected .. => .warn
  | settingsLoaded .. | settingsFileAbsent .. | validating .. => .info

/-- The part of the program that a record comes from. -/
def target : Event → String
  | validating .. => "saml_registration"
  | _ => "saml_registration::utils::logging"

def fingerprintList (fingerprints : List String) : String :=
  Text.bracketed (fingerprints.map Text.quote)

def message : Event → String
  | registrationBuilt id entityId consumerLocation signing decryption =>
      "Built registration " ++ id ++ " (entity_id=" ++ entityId ++ ", acs=" ++ consumerLocation
        ++ ", signing=" ++ fingerprintList signing
        ++ ", decryption=" ++ fingerprintList decryption ++ ")"
  | assertingPartyBuilt id entityId location binding wantsSigned verification encryption =>
      "Asserting party for " ++ id ++ ": entity_id=" ++ entityId ++ ", sso=" ++ location
        ++ " (" ++ binding.name ++ "), wants_authn_requests_signed=" ++ toString wantsSigned
        ++ ", verification=" ++ fingerprintList verification
        ++ ", encryption=" ++ fingerprintList encryption
  | flatListReconciled id signing decryption verification encryption =>
      "Registration " ++ id
        ++ " uses the deprecated flat credentials list; reconciled into signing="
        ++ toString signing ++ ", decryption=" ++ toString decryption
        ++ ", verification=" ++ toString verification ++ ", encryption=" ++ toString encryption
  | registrationRejected id error =>
      "Rejected registration " ++ Text.quote id ++ ": " ++ error.message
        ++ " (field: " ++ error.field ++ ")"
  | settingsLoaded path => "✓ Loaded registration settings from " ++ path
  | settingsFileAbsent path => "ℹ SAML_SETTINGS_DIR set but no Settings.toml found at: " ++ path
  | validating version count =>
      "saml-registration " ++ version ++ ": validating " ++ toString count ++ " registration(s)"

end Event

/-- The events that pass a threshold. -/
def Threshold.filter (t : Threshold) (events : List Event) : List Event :=
  events.filter fun e => t.admits e.level

end RelyingParty.Log
