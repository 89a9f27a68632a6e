/-!
# Message bindings

The transport that carries a protocol message over HTTP.
-/

namespace RelyingParty

inductive Binding where
  /-- Deflated, base64 and URL encoded query parameter. -/
  | redirect
  /-- Base64 encoded form field. -/
  | post
deriving DecidableEq, Repr

namespace Binding

/-- The binding of a party that names none. -/
instance : Inhabited Binding := ⟨redirect⟩

def name : Binding → String
  | redirect => "REDIRECT"
  | post => "POST"

/-- The name used when a value is described. -/
def title : Binding → String
  | redirect => "Redirect"
  | post => "Post"

/-- The name found in metadata. -/
def urn : Binding → String
  | redirect => "urn:oasis:names:tc:SAML:2.0:bindings:HTTP-Redirect"
  | post => "urn:oasis:names:tc:SAML:2.0:bindings:HTTP-POST"

end Binding

end RelyingParty
