import RelyingParty.Credential.Basic

/-!
# What a field must satisfy

The two checks that builders make: a text must show something, and the credentials of a
collection must declare its usage.
-/

namespace RelyingParty

/-- Fails unless there is a text and it is not blank. -/
def requireText (value : Option String) (field : String) : Except ConfigurationError String :=
  match value with
  | none => .error (.missingField field)
  | some text => if Text.isBlank text then .error (.missingField field) else .ok text

/-- Fails unless every credential declares `usage`. -/
def requireUsage (credentials : List Credential) (field : String) (usage : Usage) :
    Except ConfigurationError Unit :=
  if credentials.all (fun c => c.hasUsage usage) then .ok ()
  else .error (.usageMismatch field usage)

end RelyingParty
