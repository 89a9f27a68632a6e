import RelyingParty.Credential.Set

/-!
# What bulk operations do to a credential set

`extend` inserts one credential after the other, and the membership test of each insertion sees
those before it. The laws below say what comes out without mentioning that loop: a set extended
by a list is the set followed by the first occurrences in the list of what the set lacks.

Two laws carry the equivalence of the flat set with the sets by usage. Choosing members of an
extended set is extending by what is chosen from the list (`retain_extend`), and extending by a
set is extending by what the set was made from (`extend_members_extend`). Together they let
sorting pass through insertion (`extend_filter_extend`).
-/

namespace RelyingParty.CredentialSet

theorem insert_of_mem {s : CredentialSet} {c : Credential} (h : c ∈ s) : s.insert c = s :=
  dif_pos h

theorem members_insert_of_not_mem {s : CredentialSet} {c : Credential} (h : c ∉ s) :
    (s.insert c).members = s.members ++ [c] := by
  rw [members_insert, if_neg (mt mem_iff.mpr h)]

theorem mem_extend {s : CredentialSet} {xs : List Credential} {c : Credential} :
    c ∈ s.extend xs ↔ c ∈ s ∨ c ∈ xs := by
  induction xs generalizing s with
  | nil => simp
  | cons x xs ih =>
      rw [extend_cons, ih, mem_insert, List.mem_cons, or_assoc]

/-- Nothing comes of inserting members again. -/
theorem extend_of_forall_mem {s : CredentialSet} {xs : List Credential} (h : ∀ c ∈ xs, c ∈ s) :
    s.extend xs = s := by
  induction xs with
  | nil => rfl
  | cons x xs ih =>
      obtain ⟨hx, hxs⟩ := List.forall_mem_cons.mp h
      rw [extend_cons, insert_of_mem hx, ih hxs]

/-- **The closed form of `extend`.** New members follow in the order of their first occurrence. -/
theorem members_extend (s : CredentialSet) (xs : List Credential) :
    (s.extend xs).members = s.members ++ (xs.filter fun c => c ∉ s).eraseDups := by
  induction xs generalizing s with
  | nil => simp
  | cons x xs ih =>
      rw [extend_cons, ih]
      by_cases hx : x ∈ s
      · rw [insert_of_mem hx, List.filter_cons_of_neg (by simpa using hx)]
      · -- the elements still to come are now also tested against `x`
        have hrest : (xs.filter fun c => c ∉ s.insert x)
            = (xs.filter fun c => c ∉ s).filter fun c => !c == x := by
          rw [List.filter_filter]
          refine List.filter_congr ?_
          intro c _
          by_cases hc : c = x
          · simp [mem_insert, hc]
          · simp [mem_insert, hc]
        rw [hrest, members_insert_of_not_mem hx, List.filter_cons_of_pos (by simpa using hx),
          List.eraseDups_cons, List.append_assoc, List.singleton_append]

/-- A list's set holds its first occurrences. -/
theorem members_ofList (xs : List Credential) : (ofList xs).members = xs.eraseDups := by
  have hall : (xs.filter fun c => c ∉ empty) = xs := by
    simp [mem_iff]
  rw [ofList, members_extend, hall]
  rfl

theorem mem_ofList {xs : List Credential} {c : Credential} : c ∈ ofList xs ↔ c ∈ xs := by
  rw [ofList, mem_extend]
  simp [mem_iff]

theorem isEmpty_ofList (xs : List Credential) : (ofList xs).isEmpty = xs.isEmpty := by
  cases xs with
  | nil => rfl
  | cons x xs =>
      have hx : x ∈ (ofList (x :: xs)).members := mem_ofList.mpr List.mem_cons_self
      rw [isEmpty, List.isEmpty_eq_false_iff.mpr (List.ne_nil_of_mem hx)]
      rfl

theorem ofList_append (xs ys : List Credential) : ofList (xs ++ ys) = (ofList xs).extend ys :=
  extend_append empty xs ys

/-- A list without repetitions is what its set holds. -/
theorem members_ofList_of_nodup {xs : List Credential} (h : xs.Nodup) :
    (ofList xs).members = xs := by
  rw [members_ofList]
  induction xs with
  | nil => rfl
  | cons x xs ih =>
      obtain ⟨hx, hn⟩ := List.nodup_cons.mp h
      have hrest : (xs.filter fun c => !c == x) = xs := by
        refine List.filter_eq_self.mpr ?_
        intro c hc
        have hcx : c ≠ x := fun he => hx (he ▸ hc)
        simp [hcx]
      rw [List.eraseDups_cons, hrest, ih hn]

/-- A set is rebuilt from its own members. -/
theorem ofList_members (s : CredentialSet) : ofList s.members = s :=
  ext (members_ofList_of_nodup s.nodup)

theorem retain_insert (s : CredentialSet) (c : Credential) (keep : Credential → Bool) :
    (s.insert c).retain keep = if keep c then (s.retain keep).insert c else s.retain keep := by
  refine ext ?_
  by_cases hc : c ∈ s
  · rw [insert_of_mem hc]
    split
    · next hk =>
        rw [insert_of_mem]
        exact List.mem_filter.mpr ⟨hc, hk⟩
    · rfl
  · rw [members_retain, members_insert_of_not_mem hc, List.filter_append]
    by_cases hk : keep c = true
    · rw [if_pos hk, members_insert_of_not_mem (fun h => hc (List.mem_filter.mp h).1)]
      simp [hk]
    · rw [if_neg hk]
      simp [hk]

/-- **Choosing commutes with extending.** -/
theorem retain_extend (s : CredentialSet) (xs : List Credential) (keep : Credential → Bool) :
    (s.extend xs).retain keep = (s.retain keep).extend (xs.filter keep) := by
  induction xs generalizing s with
  | nil => rfl
  | cons x xs ih =>
      rw [extend_cons, ih, retain_insert]
      by_cases hk : keep x = true
      · rw [if_pos hk, List.filter_cons_of_pos hk, extend_cons]
      · rw [if_neg hk, List.filter_cons_of_neg hk]

/-- Extending by a set is extending by what the set was made from. -/
theorem extend_members_extend (s t : CredentialSet) (xs : List Credential) :
    s.extend (t.extend xs).members = (s.extend t.members).extend xs := by
  induction xs generalizing t with
  | nil => rfl
  | cons x xs ih =>
      rw [extend_cons, ih, extend_cons]
      by_cases hx : x ∈ t
      · rw [insert_of_mem hx, insert_of_mem (mem_extend.mpr (Or.inr hx))]
      · rw [members_insert_of_not_mem hx, extend_append]
        rfl

/-- What a condition chooses from a list's set is the set of what it chooses from the list. -/
theorem filter_members_ofList (xs : List Credential) (keep : Credential → Bool) :
    (ofList xs).members.filter keep = (ofList (xs.filter keep)).members :=
  congrArg members (retain_extend empty xs keep)

/-- Elements that have been listed before can be left out of a list's set. -/
theorem ofList_append_ofList {before xs : List Credential} (h : ∀ c ∈ xs, c ∈ before)
    (ys : List Credential) :
    ofList (before ++ (ofList (xs ++ ys)).members) = ofList (before ++ ys) := by
  have hlist : (ofList before).extend (ofList (xs ++ ys)).members
      = (ofList before).extend (xs ++ ys) := extend_members_extend (ofList before) empty (xs ++ ys)
  rw [ofList_append, hlist, extend_append,
    extend_of_forall_mem (fun c hc => mem_ofList.mpr (h c hc)), ofList_append]

/-- **Sorting commutes with inserting.** What a condition chooses from an extended set reaches
another set as if it had been chosen from the list. -/
theorem extend_filter_extend (s t : CredentialSet) (xs : List Credential)
    (keep : Credential → Bool) :
    s.extend ((t.extend xs).members.filter keep)
      = (s.extend (t.members.filter keep)).extend (xs.filter keep) := by
  have h := congrArg members (retain_extend t xs keep)
  rw [members_retain] at h
  rw [h, extend_members_extend, members_retain]

end RelyingParty.CredentialSet
