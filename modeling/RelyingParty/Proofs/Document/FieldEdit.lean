import RelyingParty.Document.Reader

/-!
# Edits of one field

A document is changed in one place when the values under one key of its table are, and nothing else
is (`atField`). What a record reader makes of that depends on the field alone: if the reader of the
field finds the same faults before and after, and the records put together agree in the end, then the
results agree for whole documents, faults and their order included (`record_atField`).
-/

namespace RelyingParty.Document

variable {α β : Type} {key : String} {edit : Document → Document}

/-- The entries with each value under a key edited. -/
def editEntries (key : String) (edit : Document → Document) (es : List Entry) : List Entry :=
  es.map fun e => if e.1 = key then (e.1, edit e.2) else e

/-- The document with each value under a key of its table edited. -/
def atField (key : String) (edit : Document → Document) : Document → Document
  | table entries => table (editEntries key edit entries)
  | clashing entries => clashing (editEntries key edit entries)
  | headed content => headed (atField key edit content)
  | d => d

/-! ## Values that are found -/

theorem lookup_editEntries_self (es : List Entry) :
    (editEntries key edit es).lookup key = (es.lookup key).map edit := by
  induction es with
  | nil => rfl
  | cons e es ih =>
      obtain ⟨name, v⟩ := e
      rw [editEntries, List.map_cons, ← editEntries]
      by_cases hname : name = key
      · subst hname
        simp
      · have hother : (key == name) = false := beq_eq_false_iff_ne.mpr (Ne.symm hname)
        rw [if_neg hname, List.lookup_cons, List.lookup_cons, hother]
        exact ih

theorem lookup_editEntries_of_ne {name : String} (h : name ≠ key) (es : List Entry) :
    (editEntries key edit es).lookup name = es.lookup name := by
  induction es with
  | nil => rfl
  | cons e es ih =>
      have hfirst : (if e.1 = key then (e.1, edit e.2) else e).1 = e.1 := by
        split <;> rfl
      rw [editEntries, List.map_cons, ← editEntries, List.lookup_cons, List.lookup_cons, hfirst, ih]
      by_cases hname : name = e.1
      · subst hname
        rw [if_neg h]
      · rw [beq_eq_false_iff_ne.mpr hname]

/-! ## Fields -/

section Fields

variable {r : Reader α} {g : α → β}

/-- Edits that the results do not show do not touch faults. -/
theorem fault?_congr {d d' : Document} (h : (r d').map g = (r d).map g) :
    r.fault? d' = r.fault? d := by
  unfold Reader.fault?
  cases hd : r d with
  | error fault =>
      cases hd' : r d' with
      | error fault' =>
          rw [hd, hd'] at h
          cases h
          rfl
      | ok a' => rw [hd, hd'] at h; cases h
  | ok a =>
      cases hd' : r d' with
      | error fault' => rw [hd, hd'] at h; cases h
      | ok a' => rfl

theorem required_editEntries (h : ∀ d, (r (edit d)).map g = (r d).map g) (es : List Entry) :
    (required (editEntries key edit es) key r).map g = (required es key r).map g := by
  rw [required, required, lookup_editEntries_self]
  cases es.lookup key with
  | none => rfl
  | some d => exact h d

theorem withDefault_editEntries (h : ∀ d, (r (edit d)).map g = (r d).map g) (es : List Entry)
    (default : α) :
    (withDefault (editEntries key edit es) key r default).map g
      = (withDefault es key r default).map g := by
  rw [withDefault, withDefault, lookup_editEntries_self]
  cases es.lookup key with
  | none => rfl
  | some d => exact h d

theorem withDefault_editEntries_of_ne {name : String} (h : name ≠ key) (es : List Entry)
    (default : α) :
    withDefault (editEntries key edit es) name r default = withDefault es name r default := by
  rw [withDefault, withDefault, lookup_editEntries_of_ne h]

end Fields

/-! ## Records -/

section Records

variable {fields : List Field} {assemble : List Entry → Except Fault α} {g : α → β}

theorem findSome?_editEntries
    (hfault : ∀ d, entryFault? fields (key, edit d) = entryFault? fields (key, d))
    (es : List Entry) :
    (editEntries key edit es).findSome? (entryFault? fields) = es.findSome? (entryFault? fields) := by
  rw [editEntries, List.findSome?_map]
  refine congrArg (es.findSome? ·) (funext ?_)
  rintro ⟨name, v⟩
  show entryFault? fields (if name = key then (name, edit v) else (name, v)) = _
  split
  · next hname => rw [hname, hfault]
  · rfl

/-- **A record hides an edit that its field hides.** -/
theorem record_atField (f : Format) (title : String)
    (hfault : ∀ d, entryFault? fields (key, edit d) = entryFault? fields (key, d))
    (hassemble : ∀ es, (assemble (editEntries key edit es)).map g = (assemble es).map g)
    (d : Document) :
    (Reader.record f title fields assemble (atField key edit d)).map g
      = (Reader.record f title fields assemble d).map g := by
  induction d using content.induct with
  | case1 d ih => exact ih
  | case2 d hplain =>
      cases d with
      | table es =>
          simp only [atField, Reader.record, content, findSome?_editEntries hfault]
          cases (es.findSome? (entryFault? fields)).or none with
          | some fault => rfl
          | none => exact hassemble es
      | clashing es =>
          -- there is a fault in both, and it is the same
          simp only [atField, Reader.record, content, findSome?_editEntries hfault]
          cases es.findSome? (entryFault? fields) <;> rfl
      | headed d => exact (hplain d rfl).elim
      | _ => rfl

end Records

end RelyingParty.Document
