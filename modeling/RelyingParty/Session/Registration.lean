import RelyingParty.Json.Printer
import RelyingParty.Session.AssertingParty

/-!
# Steps on the builder of a registration

As for an asserting party: a `Setting` changes the builder, a `Step` of a session is a setting,
a build, or something that looks back. A session numbers the registrations it has built and the
builders it has saved in the order in which they came.
-/

namespace RelyingParty.Registration

/-- One change to a builder, under its current or its older name. As for an asserting party, a set
is changed by steps or by any function. -/
inductive Setting where
  | registrationId (value : String)
  | entityId (value : String)
  | localEntityIdTemplate (value : String)
  | assertionConsumerServiceLocation (value : String)
  | assertionConsumerServiceUrlTemplate (value : String)
  | remoteIdpEntityId (value : String)
  | idpWebSsoUrl (value : String)
  | signing (steps : List CredentialSet.Step)
  | decryption (steps : List CredentialSet.Step)
  | credentials (steps : List CredentialSet.Step)
  | modifySigning (change : CredentialSet → CredentialSet)
  | modifyDecryption (change : CredentialSet → CredentialSet)
  | modifyCredentials (change : CredentialSet → CredentialSet)
  /-- Settings of the nested builder, which `fresh` replaces by an empty one first. -/
  | assertingParty (fresh : Bool) (settings : List AssertingParty.Setting)

/-- What a setting reports: the answers of steps on a set, or those of nested settings. -/
inductive Setting.Answer where
  | done
  | answers (answers : List CredentialSet.Answer)
  | nested (answers : List (Option (List CredentialSet.Answer)))

namespace Builder

/-- The nested builder that settings start from. -/
def nestedBuilder (b : Builder) (fresh : Bool) : AssertingParty.Builder :=
  if fresh then {} else b.assertingParty

/-- The builder after a setting. -/
def apply (b : Builder) : Setting → Builder
  | .registrationId v => b.setRegistrationId v
  | .entityId v => b.setEntityId v
  | .localEntityIdTemplate v => b.setLocalEntityIdTemplate v
  | .assertionConsumerServiceLocation v => b.setAssertionConsumerServiceLocation v
  | .assertionConsumerServiceUrlTemplate v => b.setAssertionConsumerServiceUrlTemplate v
  | .remoteIdpEntityId v => b.setRemoteIdpEntityId v
  | .idpWebSsoUrl v => b.setIdpWebSsoUrl v
  | .signing steps => b.modifySigning (·.applyAll steps)
  | .decryption steps => b.modifyDecryption (·.applyAll steps)
  | .credentials steps => b.modifyCredentials (·.applyAll steps)
  | .modifySigning change => b.modifySigning change
  | .modifyDecryption change => b.modifyDecryption change
  | .modifyCredentials change => b.modifyCredentials change
  | .assertingParty fresh settings =>
      b.modifyAssertingParty fun _ => (b.nestedBuilder fresh).applyAll settings

/-- The answer of a setting on the builder before it. -/
def answer (b : Builder) : Setting → Setting.Answer
  | .signing steps => .answers (b.signingCredentials.answers steps)
  | .decryption steps => .answers (b.decryptionCredentials.answers steps)
  | .credentials steps => .answers (b.credentials.answers steps)
  | .assertingParty fresh settings => .nested ((b.nestedBuilder fresh).answers settings)
  | _ => .done

def applyAll (b : Builder) (settings : List Setting) : Builder := settings.foldl apply b

end Builder

/-- A builder at work, the registrations it has built and the builders put aside. -/
structure Session where
  builder : Builder
  built : List Registration := []
  saved : List Builder := []

inductive Session.Step where
  | set (setting : Setting)
  | build
  /-- Starts again with a builder that has nothing but an id. -/
  | restart (registrationId : String)
  /-- Goes on with a builder that holds every value of a registration built earlier. -/
  | derive (index : Nat)
  /-- Takes the asserting party of a registration built earlier. -/
  | assertingPartyOf (index : Nat)
  /-- Puts a copy of the builder aside. -/
  | save
  /-- Goes on with a builder put aside earlier. -/
  | restore (index : Nat)
  | equal (first second : Nat)
  | summary (index : Nat)
  | aliases (index : Nat)
  | describe (index : Nat)
  | describeBuilder

inductive Session.Answer where
  | set (answer : Setting.Answer)
  | done
  | built (result : Except ConfigurationError Registration) (events : List Log.Event)
  | flag (value : Bool)
  | text (value : String)
  | registration (value : Registration)
  /-- There is no registration or builder with that number. -/
  | absent

/-- The text of a summary, one field per line. -/
def summaryText (r : Registration) : String := Json.pretty r.summary.toDocument

namespace Session

def orAbsent (f : Registration → Answer) : Option Registration → Answer
  | some r => f r
  | none => .absent

/-- A step's answer and the session after it. -/
def step (s : Session) : Step → Answer × Session
  | .set setting =>
      (.set (s.builder.answer setting), { s with builder := s.builder.apply setting })
  | .build =>
      let outcome := s.builder.build
      (.built outcome.value outcome.events,
        { s with built := s.built ++ outcome.value.toOption.toList })
  | .restart id => (.done, { s with builder := Builder.ofId id })
  | .derive i =>
      match s.built[i]? with
      | some r => (.done, { s with builder := r.toBuilder })
      | none => (.absent, s)
  | .assertingPartyOf i =>
      match s.built[i]? with
      | some r =>
          (.done,
            { s with
              builder := s.builder.modifyAssertingParty fun _ => r.assertingParty.toBuilder })
      | none => (.absent, s)
  | .save => (.done, { s with saved := s.saved ++ [s.builder] })
  | .restore i =>
      match s.saved[i]? with
      | some b => (.done, { s with builder := b })
      | none => (.absent, s)
  | .equal i j =>
      match s.built[i]?, s.built[j]? with
      | some q, some r => (.flag (q = r), s)
      | _, _ => (.absent, s)
  | .summary i => (orAbsent (.text ·.summaryText) s.built[i]?, s)
  | .aliases i => (orAbsent .registration s.built[i]?, s)
  | .describe i => (orAbsent (.text ·.describe) s.built[i]?, s)
  | .describeBuilder => (.text s.builder.describe, s)

/-- The answers of a run of steps. -/
def run (s : Session) : List Step → List Answer
  | [] => []
  | st :: sts => (s.step st).1 :: (s.step st).2.run sts

end Session

end RelyingParty.Registration
