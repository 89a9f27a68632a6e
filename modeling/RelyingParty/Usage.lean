/-!
# Credential usages

The role a credential may play in an exchange. Signing and decryption belong to the relying
party and take its private key; verification and encryption belong to the asserting party and
take a certificate alone. Which side a usage is on decides everything that follows: a credential
has a key exactly when its usages need one, so no credential ever serves both parties.
-/

namespace RelyingParty

inductive Usage where
  | signing
  | decryption
  | verification
  | encryption
deriving DecidableEq, Repr

namespace Usage

/-- All usages, in the order in which they are listed everywhere. -/
def all : List Usage := [signing, decryption, verification, encryption]

theorem mem_all (u : Usage) : u ∈ all := by cases u <;> decide

/-- The name used in settings and messages. -/
def name : Usage → String
  | signing => "SIGNING"
  | decryption => "DECRYPTION"
  | verification => "VERIFICATION"
  | encryption => "ENCRYPTION"

/-- The name used when a value is described. -/
def title : Usage → String
  | signing => "Signing"
  | decryption => "Decryption"
  | verification => "Verification"
  | encryption => "Encryption"

/-- Whether the usage takes a private key. -/
def needsKey : Usage → Bool
  | signing | decryption => true
  | verification | encryption => false

/-- The place in the listing order. -/
def rank : Usage → Nat
  | signing => 0
  | decryption => 1
  | verification => 2
  | encryption => 3

theorem rank_inj {u v : Usage} : u.rank = v.rank ↔ u = v := by
  cases u <;> cases v <;> decide

/-- The usages in listing order, repetitions kept. -/
def sort (us : List Usage) : List Usage := us.mergeSort fun u v => u.rank ≤ v.rank

/-- The usage that is listed last. -/
def last? : List Usage → Option Usage
  | [] => none
  | u :: us =>
      match last? us with
      | none => some u
      | some v => some (if v.rank < u.rank then u else v)

end Usage

/-- Which usages a credential declares. -/
structure UsageSet where
  signing : Bool
  decryption : Bool
  verification : Bool
  encryption : Bool
deriving DecidableEq, Repr

namespace UsageSet

def contains (s : UsageSet) : Usage → Bool
  | .signing => s.signing
  | .decryption => s.decryption
  | .verification => s.verification
  | .encryption => s.encryption

instance : Membership Usage UsageSet := ⟨fun s u => s.contains u = true⟩

instance (u : Usage) (s : UsageSet) : Decidable (u ∈ s) :=
  inferInstanceAs (Decidable (s.contains u = true))

theorem mem_iff {u : Usage} {s : UsageSet} : u ∈ s ↔ s.contains u = true := Iff.rfl

/-- The usages that occur in a list, whatever their order and repetition. -/
def ofList (us : List Usage) : UsageSet :=
  ⟨us.contains .signing, us.contains .decryption, us.contains .verification,
   us.contains .encryption⟩

/-- The members in listing order. -/
def toList (s : UsageSet) : List Usage := Usage.all.filter s.contains

theorem contains_ofList (us : List Usage) (u : Usage) : (ofList us).contains u = us.contains u := by
  cases u <;> rfl

theorem mem_ofList {us : List Usage} {u : Usage} : u ∈ ofList us ↔ u ∈ us := by
  simp [mem_iff, contains_ofList]

theorem mem_toList {s : UsageSet} {u : Usage} : u ∈ s.toList ↔ u ∈ s := by
  simp [toList, mem_iff, Usage.mem_all]

/-- A set is determined by its members. -/
theorem ext_mem {s t : UsageSet} (h : ∀ u, u ∈ s ↔ u ∈ t) : s = t := by
  have hc : ∀ u, s.contains u = t.contains u := fun u => Bool.eq_iff_iff.2 (h u)
  cases s; cases t
  have h1 := hc .signing
  have h2 := hc .decryption
  have h3 := hc .verification
  have h4 := hc .encryption
  simp only [contains] at h1 h2 h3 h4
  simp [h1, h2, h3, h4]

end UsageSet

end RelyingParty
