import RelyingParty.Log.Traced

/-!
# Logging under a threshold

A computation that logs keeps every event and leaves it to a later moment which of them pass. A
program that is told the threshold beforehand asks at each record instead, and drops those that do
not pass on the spot. The two come to the same: dropping at each step is dropping at the end
(`restrict_bind`, `emitAllUnder_eq`).
-/

namespace RelyingParty.Log

/-- An event as a record in the log: its level and its text. -/
def Event.record (e : Event) : Level × String := (e.level, e.message)

/-- What is there of one level, if it passes. -/
def Threshold.shown {α : Type} (t : Threshold) (l : Level) (xs : List α) : List α :=
  if t.admits l then xs else []

theorem Threshold.map_shown {α β : Type} (t : Threshold) (l : Level) (f : α → β) (xs : List α) :
    (t.shown l xs).map f = t.shown l (xs.map f) := by
  unfold shown
  split <;> rfl

theorem Threshold.filter_append (t : Threshold) (xs ys : List Event) :
    t.filter (xs ++ ys) = t.filter xs ++ t.filter ys := List.filter_append xs ys

/-- Records of one level pass together or not at all. -/
theorem Threshold.filter_eq_shown {t : Threshold} {l : Level} {events : List Event}
    (h : ∀ e ∈ events, e.level = l) : t.filter events = t.shown l events := by
  have hcongr : t.filter events = events.filter fun _ => t.admits l := by
    refine List.filter_congr ?_
    intro e he
    rw [h e he]
  rw [hcongr, shown]
  cases t.admits l <;> simp

namespace Traced

variable {α β : Type} {t : Threshold}

/-- The value with the events that pass. -/
def restrict (t : Threshold) (x : Traced α) : Traced α := ⟨x.value, t.filter x.events⟩

/-- **Dropping at each step is dropping at the end.** -/
theorem restrict_bind (x : Traced α) (f : α → Traced β) :
    (x >>= f).restrict t = x.restrict t >>= fun a => (f a).restrict t :=
  ext rfl (t.filter_append _ _)

/-- Asks before it emits. -/
def emitUnder (t : Threshold) (e : Event) : Traced Unit :=
  if t.admits e.level then emit e else pure ()

/-- Emits one event after the other, asking each time. -/
def emitAllUnder (t : Threshold) : List Event → Traced Unit
  | [] => pure ()
  | e :: es => do
      emitUnder t e
      emitAllUnder t es

theorem emitUnder_eq (t : Threshold) (e : Event) : emitUnder t e = (emit e).restrict t := by
  refine ext rfl ?_
  show (emitUnder t e).events = t.filter [e]
  rw [emitUnder, Threshold.filter, List.filter_cons, List.filter_nil]
  cases t.admits e.level <;> rfl

theorem emitAllUnder_eq (t : Threshold) (events : List Event) :
    emitAllUnder t events = ⟨(), t.filter events⟩ := by
  induction events with
  | nil => rfl
  | cons e es ih =>
      rw [emitAllUnder, emitUnder_eq, ih]
      exact ext rfl (t.filter_append [e] es).symm

end Traced

end RelyingParty.Log
