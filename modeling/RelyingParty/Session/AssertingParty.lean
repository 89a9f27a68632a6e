import RelyingParty.Description
import RelyingParty.Session.CredentialSet
import RelyingParty.Summary

/-!
# Steps on the builder of an asserting party

A `Setting` changes the builder; it is also what the nested builder of a registration is
configured with. A `Step` of a session is a setting, a build, or something that looks back at
the parties built so far, which are numbered in the order in which they were built.
-/

namespace RelyingParty.AssertingParty

/-- One change to a builder, under its current or its older name. A set is changed by steps, which
answer, or by a function that may do anything to it and answers nothing. -/
inductive Setting where
  | entityId (value : String)
  | wantsAuthnRequestsSigned (value : Bool)
  | signAuthnRequest (value : Bool)
  | singleSignOnServiceLocation (value : String)
  | webSsoUrl (value : String)
  | singleSignOnServiceBinding (value : Binding)
  | binding (value : Binding)
  | verification (steps : List CredentialSet.Step)
  | encryption (steps : List CredentialSet.Step)
  | modifyVerification (change : CredentialSet → CredentialSet)
  | modifyEncryption (change : CredentialSet → CredentialSet)

namespace Builder

/-- The builder after a setting. -/
def apply (b : Builder) : Setting → Builder
  | .entityId v => b.setEntityId v
  | .wantsAuthnRequestsSigned v => b.setWantsAuthnRequestsSigned v
  | .signAuthnRequest v => b.setSignAuthnRequest v
  | .singleSignOnServiceLocation v => b.setSingleSignOnServiceLocation v
  | .webSsoUrl v => b.setWebSsoUrl v
  | .singleSignOnServiceBinding v => b.setSingleSignOnServiceBinding v
  | .binding v => b.setBinding v
  | .verification steps => b.modifyVerification (·.applyAll steps)
  | .encryption steps => b.modifyEncryption (·.applyAll steps)
  | .modifyVerification change => b.modifyVerification change
  | .modifyEncryption change => b.modifyEncryption change

/-- The answers of a setting's steps on a set. Any other setting answers nothing. -/
def answer (b : Builder) : Setting → Option (List CredentialSet.Answer)
  | .verification steps => some (b.verificationCredentials.answers steps)
  | .encryption steps => some (b.encryptionCredentials.answers steps)
  | _ => none

def applyAll (b : Builder) (settings : List Setting) : Builder := settings.foldl apply b

def answers (b : Builder) : List Setting → List (Option (List CredentialSet.Answer))
  | [] => []
  | s :: ss => b.answer s :: (b.apply s).answers ss

end Builder

/-- A builder at work and the parties it has built. -/
structure Session where
  builder : Builder := {}
  built : List AssertingParty := []

inductive Session.Step where
  | set (setting : Setting)
  | build
  /-- Starts again with an empty builder. -/
  | restart
  /-- Goes on with a builder that holds every value of a party built earlier. -/
  | derive (index : Nat)
  | equal (first second : Nat)
  | summary (index : Nat)
  | describe (index : Nat)
  | describeBuilder

inductive Session.Answer where
  | done
  | answers (answers : List CredentialSet.Answer)
  | built (result : Except ConfigurationError AssertingParty)
  | flag (value : Bool)
  | summary (value : AssertingPartySummary)
  | text (value : String)
  /-- There is no party with that number. -/
  | absent

namespace Session

def orAbsent (f : AssertingParty → Answer) : Option AssertingParty → Answer
  | some p => f p
  | none => .absent

/-- A step's answer and the session after it. -/
def step (s : Session) : Step → Answer × Session
  | .set setting =>
      ((s.builder.answer setting).elim .done .answers,
        { s with builder := s.builder.apply setting })
  | .build =>
      match s.builder.build with
      | .ok p => (.built (.ok p), { s with built := s.built ++ [p] })
      | .error e => (.built (.error e), s)
  | .restart => (.done, { s with builder := {} })
  | .derive i =>
      match s.built[i]? with
      | some p => (.done, { s with builder := p.toBuilder })
      | none => (.absent, s)
  | .equal i j =>
      match s.built[i]?, s.built[j]? with
      | some p, some q => (.flag (p = q), s)
      | _, _ => (.absent, s)
  | .summary i => (orAbsent (.summary ·.summary) s.built[i]?, s)
  | .describe i => (orAbsent (.text ·.describe) s.built[i]?, s)
  | .describeBuilder => (.text s.builder.describe, s)

/-- The answers of a run of steps. -/
def run (s : Session) : List Step → List Answer
  | [] => []
  | st :: sts => (s.step st).1 :: (s.step st).2.run sts

end Session

end RelyingParty.AssertingParty
