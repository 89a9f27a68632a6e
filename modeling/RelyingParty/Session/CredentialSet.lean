import RelyingParty.Credential.Selection
import RelyingParty.Credential.Set

/-!
# Steps on a credential set

The operations on a set as data, so that a whole run of them is a value: a list of steps can be
replayed, compared with another list, or mapped to other credentials. A step changes the set and
gives an answer, and both are functions of the set before it.
-/

namespace RelyingParty

inductive CredentialSet.Step where
  | insert (credential : Credential)
  | remove (credential : Credential)
  | contains (credential : Credential)
  /-- Keeps the members on which the selector answers `keep`. -/
  | retain (selector : Credential.Selector) (keep : Bool)
  | clear
  | extend (credentials : List Credential)
  /-- Extends the set by what references to some cells lead to. -/
  | extendByReference (cells : Nat) (read : Fin cells → Credential) (references : List (Fin cells))
  /-- Replaces the set by the elements of a list. -/
  | assign (credentials : List Credential)
  /-- Compares the set, in order, with the set of the elements of a list. -/
  | equals (credentials : List Credential)
  | size
  | isEmpty
  | toList

/-- What a step reports. -/
inductive CredentialSet.Answer where
  | done
  | flag (value : Bool)
  | count (value : Nat)
  | members (credentials : List Credential)
deriving DecidableEq

namespace CredentialSet

/-- The set after a step. -/
def apply (s : CredentialSet) : Step → CredentialSet
  | .insert c => s.insert c
  | .remove c => s.remove c
  | .retain selector keep => s.retain fun c => selector.accepts c = keep
  | .clear => empty
  | .extend cs => s.extend cs
  | .extendByReference _ read refs => s.extendByReference read refs
  | .assign cs => ofList cs
  | .contains _ | .equals _ | .size | .isEmpty | .toList => s

/-- The answer of a step on the set before it. What a removal answers is whether the size has
changed by it. -/
def answer (s : CredentialSet) : Step → Answer
  | .insert c => .flag !s.contains c
  | .remove c => .flag (s.size != (s.remove c).size)
  | .contains c => .flag (s.contains c)
  | .equals cs => .flag (s = ofList cs)
  | .size => .count s.size
  | .isEmpty => .flag s.isEmpty
  | .toList => .members s.members
  | .retain .. | .clear | .extend _ | .extendByReference .. | .assign _ => .done

/-- The set after a run of steps. -/
def applyAll (s : CredentialSet) (steps : List Step) : CredentialSet := steps.foldl apply s

/-- The answer of each step of a run, with the set after it. -/
def history (s : CredentialSet) : List Step → List (Answer × CredentialSet)
  | [] => []
  | step :: steps => (s.answer step, s.apply step) :: (s.apply step).history steps

/-- The answers of a run. -/
def answers (s : CredentialSet) (steps : List Step) : List Answer := (s.history steps).map (·.1)

theorem applyAll_append (s : CredentialSet) (xs ys : List Step) :
    s.applyAll (xs ++ ys) = (s.applyAll xs).applyAll ys := List.foldl_append

end CredentialSet

end RelyingParty
