import RelyingParty.Settings.Loading

/-!
# What settings refer to

The files and variables that building the registrations can look at: certificates and keys that
are not given inline, and the variables that may hold a key.
-/

namespace RelyingParty

/-- The variable that may hold the private key. -/
def CredentialSettings.variableNames (c : CredentialSettings) : List String :=
  c.privateKeyEnv.toList

/-- The files of the values that are not inline. -/
def CredentialSettings.paths (c : CredentialSettings) : List String :=
  (if c.certificate.isNone then c.certificatePath.toList else [])
    ++ (if c.privateKey.isNone then c.privateKeyPath.toList else [])

/-- The credential entries of all lists. -/
def RelyingPartySettings.credentialEntries (s : RelyingPartySettings) : List CredentialSettings :=
  s.signingCredentials ++ s.decryptionCredentials ++ s.credentials
    ++ s.assertingParty.verificationCredentials ++ s.assertingParty.encryptionCredentials

namespace Settings

def credentialEntries (s : Settings) : List CredentialSettings :=
  s.registrations.flatMap RelyingPartySettings.credentialEntries

def variableNames (s : Settings) : List String :=
  s.credentialEntries.flatMap CredentialSettings.variableNames

def paths (s : Settings) : List String := s.credentialEntries.flatMap CredentialSettings.paths

/-- The settings files that loading looks for. -/
def filePaths (directory : Option String) : List String :=
  fileName :: (directory.map fun d => joinPath d fileName).toList

end Settings

end RelyingParty
