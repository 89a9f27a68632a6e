import Mathlib.Data.Nat.Find
import RelyingParty.Proofs.Credential.Set
import RelyingParty.Proofs.Specimen
import RelyingParty.Session.CredentialSet

/-!
# What a set remembers of its history

A set that starts empty is changed by a run of operations. Seen from the credentials, a run is a
list of moves: single insertions, and removals that take away every credential of some kind. This
file reads a set off its moves alone. A credential is a member exactly when some insertion of it
*lasts*, which means that no later removal takes it away, and the first insertion that lasts is
the one that *admits* it. Members are listed in the order in which they were admitted.

The invariant is `Recorded`; one move keeps it (`recorded_move`), hence so does every run. What a
step answers depends on the members only (`AnswersByMembers`).
-/

namespace RelyingParty.CredentialSet

/-- What can be done to a set. Beside the steps there is keeping the members that satisfy any
condition at all. A condition that changes its mind between members is covered as well: no member
is asked about twice. -/
inductive Operation where
  | step (step : Step)
  | retain (keep : Credential → Bool)

/-- The set after an operation. -/
def perform (s : CredentialSet) : Operation → CredentialSet
  | .step st => s.apply st
  | .retain keep => s.retain keep

/-- What a run of operations makes of the empty set. -/
def ofOperations (ops : List Operation) : CredentialSet := ops.foldl perform empty

/-- What an operation does to credentials, one insertion at a time. -/
inductive Move where
  | insertion (credential : Credential)
  | removal (gone : Credential → Bool)

/-- Whether a move takes the credential away, if it is there. -/
def Move.removes : Move → Credential → Bool
  | insertion _, _ => false
  | removal gone, c => gone c

def Step.moves : Step → List Move
  | .insert c => [.insertion c]
  | .remove c => [.removal fun d => d = c]
  | .retain selector keep => [.removal fun c => selector.accepts c ≠ keep]
  | .clear => [.removal fun _ => true]
  | .extend cs => cs.map .insertion
  | .extendByReference _ read refs => refs.map fun r => .insertion (read r)
  | .assign cs => .removal (fun _ => true) :: cs.map .insertion
  | .contains _ | .equals _ | .size | .isEmpty | .toList => []

def Operation.moves : Operation → List Move
  | step st => st.moves
  | retain keep => [.removal fun c => !keep c]

/-- Move `i` inserts the credential, and no later move removes it. -/
def Lasts (ms : List Move) (i : Nat) (c : Credential) : Prop :=
  ms[i]? = some (.insertion c) ∧ ∀ j m, i < j → ms[j]? = some m → m.removes c = false

/-- Move `i` is the insertion that made the credential present: the first since the last move that
removes it. -/
def Admits (ms : List Move) (i : Nat) (c : Credential) : Prop :=
  Lasts ms i c ∧ ∀ j < i, ¬ Lasts ms j c

section Moves

variable {ms : List Move} {m : Move} {i : Nat} {c : Credential}

/-- What one more move changes: it may end what lasted, and it may begin to last itself. -/
theorem lasts_snoc : Lasts (ms ++ [m]) i c ↔
    (Lasts ms i c ∧ m.removes c = false) ∨ (i = ms.length ∧ m = .insertion c) := by
  constructor
  · intro h
    obtain ⟨hi, hlater⟩ := h
    rcases Nat.lt_trichotomy i ms.length with hlt | heq | hgt
    · refine Or.inl ⟨⟨?_, ?_⟩, ?_⟩
      · rwa [List.getElem?_append_left hlt] at hi
      · intro j m' hj hm'
        have hjlt : j < ms.length := (List.getElem?_eq_some_iff.mp hm').1
        exact hlater j m' hj (by rwa [List.getElem?_append_left hjlt])
      · exact hlater ms.length m hlt List.getElem?_concat_length
    · subst heq
      rw [List.getElem?_concat_length] at hi
      exact Or.inr ⟨rfl, Option.some.inj hi⟩
    · have hout : (ms ++ [m])[i]? = none :=
        List.getElem?_eq_none (by rw [List.length_append, List.length_singleton]; omega)
      rw [hout] at hi
      exact absurd hi (by simp)
  · intro h
    rcases h with ⟨⟨hi, hlater⟩, hm⟩ | ⟨rfl, rfl⟩
    · have hlt : i < ms.length := (List.getElem?_eq_some_iff.mp hi).1
      refine ⟨by rwa [List.getElem?_append_left hlt], ?_⟩
      intro j m' hj hm'
      rcases Nat.lt_or_ge j ms.length with hjlt | hjge
      · exact hlater j m' hj (by rwa [List.getElem?_append_left hjlt] at hm')
      · -- only the new move stands there
        have hjlen := (List.getElem?_eq_some_iff.mp hm').1
        rw [List.length_append, List.length_singleton] at hjlen
        have hjeq : j = ms.length := by omega
        rw [hjeq, List.getElem?_concat_length] at hm'
        rw [← Option.some.inj hm']
        exact hm
    · refine ⟨List.getElem?_concat_length, ?_⟩
      intro j m' hj hm'
      have hjlen := (List.getElem?_eq_some_iff.mp hm').1
      rw [List.length_append, List.length_singleton] at hjlen
      omega

theorem Lasts.lt_length (h : Lasts ms i c) : i < ms.length :=
  (List.getElem?_eq_some_iff.mp h.1).1

/-- What lasts was admitted at some point. -/
theorem exists_admits (h : ∃ i, Lasts ms i c) : ∃ i, Admits ms i c := by
  classical
  exact ⟨Nat.find h, Nat.find_spec h, fun j hj => Nat.find_min h hj⟩

/-- A credential that no move takes away stays where it was admitted. -/
theorem Admits.snoc (h : Admits ms i c) (hm : m.removes c = false) : Admits (ms ++ [m]) i c := by
  refine ⟨lasts_snoc.mpr (Or.inl ⟨h.1, hm⟩), ?_⟩
  intro j hj hlasts
  rcases lasts_snoc.mp hlasts with ⟨hj', -⟩ | ⟨hjeq, -⟩
  · exact h.2 j hj hj'
  · have := h.1.lt_length
    omega

end Moves

/-- What the moves say of a set. -/
structure Recorded (ms : List Move) (s : CredentialSet) : Prop where
  /-- Members are the credentials with an insertion after the last move that removed them. -/
  mem_iff : ∀ c, c ∈ s ↔ ∃ i, Lasts ms i c
  /-- Members are listed in the order in which they were admitted. -/
  ordered : s.members.Pairwise fun a b => ∃ i j, Admits ms i a ∧ Admits ms j b ∧ i < j

/-- The set after a move. -/
def move (s : CredentialSet) : Move → CredentialSet
  | .insertion c => s.insert c
  | .removal gone => s.retain fun c => !gone c

theorem recorded_empty : Recorded [] empty where
  mem_iff c := by simp [mem_iff, Lasts]
  ordered := List.Pairwise.nil

/-- **One move keeps the record.** -/
theorem recorded_move {ms : List Move} {s : CredentialSet} (h : Recorded ms s) (m : Move) :
    Recorded (ms ++ [m]) (s.move m) := by
  -- who stays a member stays in place
  have hkept : ∀ {a b : Credential}, m.removes a = false → m.removes b = false →
      (∃ i j, Admits ms i a ∧ Admits ms j b ∧ i < j) →
      ∃ i j, Admits (ms ++ [m]) i a ∧ Admits (ms ++ [m]) j b ∧ i < j := by
    intro a b ha hb hij
    obtain ⟨i, j, hi, hj, hlt⟩ := hij
    exact ⟨i, j, hi.snoc ha, hj.snoc hb, hlt⟩
  cases m with
  | removal gone =>
      constructor
      · intro c
        simp only [lasts_snoc, Move.removes, reduceCtorEq, and_false, or_false, exists_and_right,
          ← h.mem_iff c]
        simp [move, mem_iff]
      · refine (h.ordered.filter _).imp_of_mem ?_
        intro a b ha hb hij
        have ha' : gone a = false := by simpa using (List.mem_filter.mp ha).2
        have hb' : gone b = false := by simpa using (List.mem_filter.mp hb).2
        exact hkept ha' hb' hij
  | insertion d =>
      have hmem : ∀ c, c ∈ s.insert d ↔ ∃ i, Lasts (ms ++ [.insertion d]) i c := by
        intro c
        simp only [mem_insert, h.mem_iff c, lasts_snoc, Move.removes, and_true, exists_or,
          exists_eq_left, Move.insertion.injEq, eq_comm (a := d)]
      refine ⟨hmem, ?_⟩
      by_cases hd : d ∈ s
      · show (s.insert d).members.Pairwise _
        rw [insert_of_mem hd]
        exact h.ordered.imp fun hij => hkept rfl rfl hij
      · show (s.insert d).members.Pairwise _
        rw [members_insert_of_not_mem hd, List.pairwise_append]
        refine ⟨h.ordered.imp fun hij => hkept rfl rfl hij, List.pairwise_singleton _ _, ?_⟩
        -- the newcomer is admitted by the move itself, after all that came before
        intro a ha b hb
        rw [List.mem_singleton.mp hb]
        obtain ⟨i, hi⟩ := exists_admits ((h.mem_iff a).mp ha)
        refine ⟨i, ms.length, hi.snoc rfl, ⟨lasts_snoc.mpr (Or.inr ⟨rfl, rfl⟩), ?_⟩,
          hi.1.lt_length⟩
        intro j hj hlasts
        rcases lasts_snoc.mp hlasts with ⟨hj', -⟩ | ⟨hjeq, -⟩
        · exact hd ((h.mem_iff d).mpr ⟨j, hj'⟩)
        · omega

theorem recorded_moves {ms : List Move} {s : CredentialSet} (h : Recorded ms s)
    (more : List Move) : Recorded (ms ++ more) (more.foldl move s) := by
  induction more generalizing ms s with
  | nil => rwa [List.append_nil]
  | cons m more ih =>
      have hnext := ih (recorded_move h m)
      rwa [List.append_assoc, List.singleton_append] at hnext

theorem extend_eq_foldl_move (s : CredentialSet) (cs : List Credential) :
    s.extend cs = (cs.map Move.insertion).foldl move s := by
  rw [List.foldl_map]
  rfl

/-- **An operation is its moves,** one after the other. -/
theorem perform_eq (s : CredentialSet) (op : Operation) : s.perform op = op.moves.foldl move s := by
  have hclear : s.move (.removal fun _ => true) = empty := ext (by simp [move])
  cases op with
  | retain keep => exact ext (by simp [perform, Operation.moves, move])
  | step st =>
      cases st with
      | insert c => rfl
      | remove c => exact ext (by simp [perform, apply, Operation.moves, Step.moves, move])
      | retain selector keep =>
          exact ext (by simp [perform, apply, Operation.moves, Step.moves, move])
      | clear => exact hclear.symm
      | extend cs => exact extend_eq_foldl_move s cs
      | extendByReference _ read refs =>
          show s.extendByReference read refs
            = (refs.map fun r => Move.insertion (read r)).foldl move s
          rw [List.foldl_map]
          rfl
      | assign cs =>
          show ofList cs = (cs.map Move.insertion).foldl move (s.move (.removal fun _ => true))
          rw [hclear, ← extend_eq_foldl_move]
          rfl
      | contains _ | equals _ | size | isEmpty | toList => rfl

/-- **A run keeps the record.** -/
theorem recorded_foldl_perform {ms : List Move} {s : CredentialSet} (h : Recorded ms s)
    (ops : List Operation) :
    Recorded (ms ++ ops.flatMap Operation.moves) (ops.foldl perform s) := by
  induction ops generalizing ms s with
  | nil => simpa using h
  | cons op ops ih =>
      have hop : Recorded (ms ++ op.moves) (s.perform op) := by
        rw [perform_eq]
        exact recorded_moves h op.moves
      rw [List.flatMap_cons, ← List.append_assoc]
      exact ih hop

/-- What the steps on a set answer and do, told by its members. -/
structure AnswersByMembers (s : CredentialSet) : Prop where
  insert_answer : ∀ c, s.answer (.insert c) = .flag (decide (c ∉ s.members))
  /-- Inserting a member again moves nothing. -/
  insert_present : ∀ c ∈ s.members, s.apply (.insert c) = s
  insert_absent : ∀ c ∉ s.members, (s.apply (.insert c)).members = s.members ++ [c]
  remove_answer : ∀ c, s.answer (.remove c) = .flag (decide (c ∈ s.members))
  /-- Removing a member takes out this one and leaves the others in order. -/
  remove_present : ∀ c ∈ s.members, ∃ before after, s.members = before ++ c :: after ∧
    (s.apply (.remove c)).members = before ++ after ∧ (s.apply (.remove c)).size + 1 = s.size
  remove_absent : ∀ c ∉ s.members, s.apply (.remove c) = s
  /-- Whatever was removed and is inserted again comes last. -/
  remove_insert : ∀ c, ((s.apply (.remove c)).apply (.insert c)).members
    = (s.apply (.remove c)).members ++ [c]
  contains_answer : ∀ c, s.answer (.contains c) = .flag (decide (c ∈ s.members))
  size_answer : s.answer .size = .count s.members.length
  isEmpty_answer : s.answer .isEmpty = .flag (decide (s.members = []))

theorem filter_ne_of_not_mem {xs : List Credential} {c : Credential} (h : c ∉ xs) :
    xs.filter (fun d => d ≠ c) = xs := by
  refine List.filter_eq_self.mpr ?_
  intro d hd
  have hne : d ≠ c := fun he => h (he ▸ hd)
  exact decide_eq_true hne

theorem remove_of_not_mem {s : CredentialSet} {c : Credential} (h : c ∉ s.members) :
    s.remove c = s :=
  ext (filter_ne_of_not_mem h)

/-- Since no member comes twice, only one goes. -/
theorem members_remove_of_mem {s : CredentialSet} {c : Credential} (h : c ∈ s.members) :
    ∃ before after, s.members = before ++ c :: after ∧ (s.remove c).members = before ++ after := by
  obtain ⟨before, after, hsplit⟩ := List.append_of_mem h
  refine ⟨before, after, hsplit, ?_⟩
  have hnodup := s.nodup
  rw [hsplit, List.nodup_append, List.nodup_cons] at hnodup
  obtain ⟨-, ⟨hafter, -⟩, hdisjoint⟩ := hnodup
  have hbefore : c ∉ before := fun hc => hdisjoint c hc c List.mem_cons_self rfl
  rw [members_remove, hsplit, List.filter_append, List.filter_cons_of_neg (by simp),
    filter_ne_of_not_mem hbefore, filter_ne_of_not_mem hafter]

theorem size_remove_of_mem {s : CredentialSet} {c : Credential} (h : c ∈ s.members) :
    (s.remove c).size + 1 = s.size := by
  obtain ⟨before, after, hsplit, hremoved⟩ := members_remove_of_mem h
  rw [size, size, hremoved, hsplit, List.length_append, List.length_append, List.length_cons]
  omega

/-- Comparing the sizes before and after tells whether there was anything to remove. -/
theorem size_ne_size_remove (s : CredentialSet) (c : Credential) :
    (s.size != (s.remove c).size) = decide (c ∈ s.members) := by
  by_cases hc : c ∈ s.members
  · have hsize := size_remove_of_mem hc
    have hne : s.size ≠ (s.remove c).size := by omega
    rw [bne_iff_ne.mpr hne, decide_eq_true hc]
  · rw [remove_of_not_mem hc, bne_self_eq_false, decide_eq_false hc]

theorem not_mem_remove (s : CredentialSet) (c : Credential) : c ∉ s.remove c := by
  simp [mem_iff]

theorem answersByMembers (s : CredentialSet) : s.AnswersByMembers where
  insert_answer c := by simp [answer, contains, mem_iff]
  insert_present c hc := insert_of_mem hc
  insert_absent c hc := members_insert_of_not_mem hc
  remove_answer c := congrArg Answer.flag (s.size_ne_size_remove c)
  remove_present c hc := by
    obtain ⟨before, after, hsplit, hremoved⟩ := members_remove_of_mem hc
    exact ⟨before, after, hsplit, hremoved, size_remove_of_mem hc⟩
  remove_absent c hc := remove_of_not_mem hc
  remove_insert c := members_insert_of_not_mem (s.not_mem_remove c)
  contains_answer c := rfl
  size_answer := rfl
  isEmpty_answer := by
    show Answer.flag s.members.isEmpty = .flag (decide (s.members = []))
    cases s.members <;> rfl

/-- **A set is ordered by insertion, whatever was done to it.** After every run of operations no
member comes twice, the members are those whose last insertion nothing has undone, in the order
in which they were admitted, and every step answers as the members say. -/
theorem ofOperations_insertion_ordered (ops : List Operation) :
    (ofOperations ops).members.Nodup ∧
      Recorded (ops.flatMap Operation.moves) (ofOperations ops) ∧
      (ofOperations ops).AnswersByMembers := by
  have hrecord := recorded_foldl_perform recorded_empty ops
  rw [List.nil_append] at hrecord
  exact ⟨(ofOperations ops).nodup, hrecord, answersByMembers _⟩

open Specimen in
/-- Inserted again, the first stays first; removed before that, it comes last. -/
example :
    (ofOperations [.step (.extend [signer, verifier]), .step (.insert signer)]).members
        = [signer, verifier] ∧
      (ofOperations [.step (.extend [signer, verifier]), .step (.remove signer),
        .step (.insert signer)]).members = [verifier, signer] := by
  decide

end RelyingParty.CredentialSet
