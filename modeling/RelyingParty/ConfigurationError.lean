import RelyingParty.Usage

/-!
# Configuration errors

Everything that can be wrong with a registration is a defect of its configuration, and each
error names the field that has to change.
-/

namespace RelyingParty

inductive ConfigurationError where
  /-- A required text is unset or blank. -/
  | missingField (field : String)
  /-- A collection that must hold something is empty. -/
  | emptyCollection (field : String)
  /-- An entry of a collection resolved to nothing. -/
  | nullElement (field : String)
  /-- A credential sits in a collection whose usage it does not declare. -/
  | usageMismatch (field : String) (usage : Usage)
  /-- A credential declares a usage that its kind of key material cannot serve. -/
  | unsupportedUsage (usage : Usage) (kind : String)
deriving DecidableEq, Repr

namespace ConfigurationError

/-- The offending field, or the kind of credential for an unsupported usage. -/
def field : ConfigurationError → String
  | missingField field | emptyCollection field | nullElement field | usageMismatch field _ => field
  | unsupportedUsage _ kind => kind

def message : ConfigurationError → String
  | missingField field | emptyCollection field => field ++ " cannot be empty"
  | nullElement field => field ++ " cannot have null values"
  | usageMismatch field usage => "All " ++ field ++ " must have a usage of " ++ usage.name ++ " set"
  | unsupportedUsage usage kind =>
      usage.name ++ " usage is not supported for " ++ kind ++ " credentials"

end ConfigurationError

end RelyingParty
