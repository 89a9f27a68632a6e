import RelyingParty.Credential.Basic

/-!
# Sets of credentials in order of insertion

The collection that builders keep: no credential occurs twice, and members are listed in the
order in which they came in. Inserting a member again moves nothing; removing it and inserting
it again puts it last. The view of a set is its list of members, and each operation below comes
with the equation that says what it does to that list.
-/

namespace RelyingParty

structure CredentialSet where
  members : List Credential
  nodup : members.Nodup

namespace CredentialSet

theorem ext {s t : CredentialSet} (h : s.members = t.members) : s = t := by
  cases s; cases t; simp_all

instance : DecidableEq CredentialSet := fun s t =>
  if h : s.members = t.members then isTrue (ext h) else isFalse (fun e => h (e ▸ rfl))

def empty : CredentialSet := ⟨[], List.nodup_nil⟩

instance : EmptyCollection CredentialSet := ⟨empty⟩

instance : Inhabited CredentialSet := ⟨empty⟩

instance : Membership Credential CredentialSet := ⟨fun s c => c ∈ s.members⟩

instance (c : Credential) (s : CredentialSet) : Decidable (c ∈ s) :=
  inferInstanceAs (Decidable (c ∈ s.members))

theorem mem_iff {c : Credential} {s : CredentialSet} : c ∈ s ↔ c ∈ s.members := Iff.rfl

def size (s : CredentialSet) : Nat := s.members.length

def isEmpty (s : CredentialSet) : Bool := s.members.isEmpty

def contains (s : CredentialSet) (c : Credential) : Bool := decide (c ∈ s)

/-- Puts `c` last, unless it is a member already. -/
def insert (s : CredentialSet) (c : Credential) : CredentialSet :=
  if h : c ∈ s.members then s
  else ⟨s.members ++ [c], by
    refine List.nodup_append.2 ⟨s.nodup, by simp, ?_⟩
    intro a ha b hb
    rw [List.mem_singleton.1 hb]
    exact fun e => h (e ▸ ha)⟩

/-- Keeps the members that satisfy `keep`. -/
def retain (s : CredentialSet) (keep : Credential → Bool) : CredentialSet :=
  ⟨s.members.filter keep, s.nodup.filter _⟩

def remove (s : CredentialSet) (c : Credential) : CredentialSet := s.retain fun d => d ≠ c

/-- Inserts the elements of a list one after the other. -/
def extend (s : CredentialSet) (cs : List Credential) : CredentialSet := cs.foldl insert s

/-- Inserts one after the other what references lead to. The credentials stay where they are, and
the set gets copies. -/
def extendByReference {ρ : Type} (s : CredentialSet) (read : ρ → Credential) (refs : List ρ) :
    CredentialSet :=
  refs.foldl (fun t r => t.insert (read r)) s

/-- The elements of a list, each at its first occurrence. -/
def ofList (cs : List Credential) : CredentialSet := empty.extend cs

@[simp] theorem members_empty : (empty : CredentialSet).members = [] := rfl

theorem members_insert (s : CredentialSet) (c : Credential) :
    (s.insert c).members = if c ∈ s.members then s.members else s.members ++ [c] := by
  unfold insert; split <;> rfl

@[simp] theorem members_retain (s : CredentialSet) (keep : Credential → Bool) :
    (s.retain keep).members = s.members.filter keep := rfl

@[simp] theorem members_remove (s : CredentialSet) (c : Credential) :
    (s.remove c).members = s.members.filter (fun d => d ≠ c) := rfl

@[simp] theorem extend_nil (s : CredentialSet) : s.extend [] = s := rfl

@[simp] theorem extend_cons (s : CredentialSet) (c : Credential) (cs : List Credential) :
    s.extend (c :: cs) = (s.insert c).extend cs := rfl

theorem extend_append (s : CredentialSet) (xs ys : List Credential) :
    s.extend (xs ++ ys) = (s.extend xs).extend ys := List.foldl_append

theorem extendByReference_eq {ρ : Type} (s : CredentialSet) (read : ρ → Credential)
    (refs : List ρ) : s.extendByReference read refs = s.extend (refs.map read) :=
  List.foldl_map.symm

theorem contains_eq_true_iff {s : CredentialSet} {c : Credential} :
    s.contains c = true ↔ c ∈ s := by simp [contains]

theorem mem_insert {s : CredentialSet} {c d : Credential} : d ∈ s.insert c ↔ d ∈ s ∨ d = c := by
  rw [mem_iff, mem_iff, members_insert]
  split
  · next h => exact ⟨Or.inl, fun hd => hd.elim id (fun e => e ▸ h)⟩
  · simp

end CredentialSet

end RelyingParty
