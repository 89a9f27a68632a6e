import RelyingParty.Settings.Resolution
import RelyingParty.Toml.Section

/-!
# Specimens

A few small values on which the hypotheses of general statements can be seen to hold: three
credentials of the relying party, one of them with two usages, one of the asserting party,
builders that hold some of them and can be built, and a small world with settings entries, one of
which does not resolve there.
-/

namespace RelyingParty.Specimen

/-- Serves two usages of the relying party. -/
def keyPair : Credential where
  privateKey := some "key"
  certificate := "pair"
  usages := ⟨true, true, false, false⟩
  privateKey_visible := by decide
  certificate_visible := by decide
  usages_ne_nil := by decide
  needsKey_eq := by decide

def signer : Credential where
  privateKey := some "key"
  certificate := "signer"
  usages := ⟨true, false, false, false⟩
  privateKey_visible := by decide
  certificate_visible := by decide
  usages_ne_nil := by decide
  needsKey_eq := by decide

def decrypter : Credential where
  privateKey := some "key"
  certificate := "decrypter"
  usages := ⟨false, true, false, false⟩
  privateKey_visible := by decide
  certificate_visible := by decide
  usages_ne_nil := by decide
  needsKey_eq := by decide

def verifier : Credential where
  privateKey := none
  certificate := "verifier"
  usages := ⟨false, false, true, false⟩
  privateKey_visible := by decide
  certificate_visible := by decide
  usages_ne_nil := by decide
  needsKey_eq := by decide

theorem fingerprint_keyPair :
    keyPair.fingerprint = "R9i9Rod4MczWHBz6yWLNQUO8gYx9X9CYneTwYc5gNR4" := by
  decide +kernel

theorem fingerprint_signer :
    signer.fingerprint = "_9zEuhugKdkftkXqsVYwEO57z6xvMhMm9OqymGAbW84" := by
  decide +kernel

def partyBuilder : AssertingParty.Builder where
  entityId := some "idp"
  verificationCredentials := .ofList [verifier]
  singleSignOnServiceLocation := some "sso"

/-- A builder whose flat set is empty. -/
def builder : Registration.Builder where
  registrationId := "sp"
  assertionConsumerServiceLocation := some "acs"
  assertingParty := partyBuilder
  signingCredentials := .ofList [signer]

/-- One certificate in a file and one key in a variable. -/
def world : World where
  read path := if path = "pair.pem" then .ok "pair" else .error .notFound
  hasPath path := path = "pair.pem"
  environment name := if name = "SP_KEY" then .text "key" else .unset

/-- Resolves to `keyPair`. The variable spares it the file of its key. -/
def pairEntry : CredentialSettings where
  certificatePath := some "pair.pem"
  privateKeyPath := some "lost.pem"
  privateKeyEnv := some "SP_KEY"
  usages := [.decryption, .signing, .decryption]

/-- Resolves to `signer`. -/
def signerEntry : CredentialSettings where
  certificate := some "signer"
  privateKey := some "key"
  usages := [.signing]

/-- Resolves to `verifier`. -/
def verifierEntry : CredentialSettings where
  certificate := some "verifier"
  usages := [.verification]

/-- Does not resolve: the file of its key is not there. -/
def lostEntry : CredentialSettings where
  certificate := some "signer"
  privateKeyPath := some "lost.pem"
  usages := [.signing]

/-- Describes a registration. -/
def relyingParty : RelyingPartySettings where
  registrationId := "sp"
  assertionConsumerServiceLocation := some "acs"
  signingCredentials := [signerEntry]
  assertingParty := { entityId := some "idp", singleSignOnServiceLocation := some "sso" }

/-- Describes another registration with the same id. -/
def namesake : RelyingPartySettings := { relyingParty with credentials := [pairEntry] }

/-- Describes nothing, for want of an id that shows. -/
def nameless : RelyingPartySettings := { relyingParty with registrationId := " " }

/-- Resolves to `signer` where a variable holds the key. -/
def variableEntry : CredentialSettings where
  certificate := some "signer"
  privateKeyEnv := some "SP_KEY"
  usages := [.signing]

/-- Describes a registration whose key is in a variable. -/
def keyedParty : RelyingPartySettings :=
  { relyingParty with signingCredentials := [variableEntry] }

/-- A settings file that describes `keyedParty` and goes on as given. -/
def keyedPartyText (more : String) : String :=
  "registrations=[\x7bregistration_id='sp'," ++
    ("assertion_consumer_service_location='acs'," ++
      ("signing_credentials=[\x7bcertificate='signer'," ++
        ("private_key_env='SP_KEY',usages=['SIGNING']\x7d]," ++
          ("asserting_party=\x7bentity_id='idp'," ++
            ("single_sign_on_service_location='sso'\x7d\x7d" ++ more)))))

/-- What that file says of `keyedParty`. -/
def keyedPartyPairs : List (String × Toml.Item) :=
  [("registration_id", .scalar (.text "sp")),
    ("assertion_consumer_service_location", .scalar (.text "acs")),
    ("signing_credentials", .array [.inline [("certificate", .scalar (.text "signer")),
      ("private_key_env", .scalar (.text "SP_KEY")),
      ("usages", .array [.scalar (.text "SIGNING")])]]),
    ("asserting_party", .inline [("entity_id", .scalar (.text "idp")),
      ("single_sign_on_service_location", .scalar (.text "sso"))])]

/-- A world with this text as its settings in the working directory. -/
def onePlace (text : String) : World where
  read path := if path = "Settings.toml" then .ok text else .error .notFound
  hasPath path := path = "Settings.toml"
  environment name := if name = "SP_KEY" then .text "key" else .unset

/-- A world with settings in the directory `conf` and perhaps a text in the working directory. -/
def twoPlaces (base : Option String) : World where
  read path :=
    if path = "conf/Settings.toml" then .ok "logging.level='warn'"
    else match base with
      | some text => .ok text
      | none => .error .notFound
  hasPath path := path = "conf/Settings.toml" || base.isSome
  environment name := if name = "SAML_SETTINGS_DIR" then .text "conf" else .unset

end RelyingParty.Specimen
