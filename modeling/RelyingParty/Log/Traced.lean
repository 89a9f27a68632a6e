import RelyingParty.Log.Event

/-!
# Values with the events on the way to them

A computation that logs is a value together with its events in order. Which of the events are
shown is decided later, so no result can depend on a threshold.
-/

namespace RelyingParty.Log

structure Traced (α : Type) where
  value : α
  events : List Event
deriving Repr

namespace Traced

variable {α β : Type}

theorem ext {x y : Traced α} (hv : x.value = y.value) (he : x.events = y.events) : x = y := by
  cases x; cases y; simp_all

/-- The value and events of one computation and of the next that depends on it. -/
def andThen (x : Traced α) (f : α → Traced β) : Traced β :=
  ⟨(f x.value).value, x.events ++ (f x.value).events⟩

instance : Monad Traced where
  pure a := ⟨a, []⟩
  bind := andThen

def emit (e : Event) : Traced Unit := ⟨(), [e]⟩

@[simp] theorem value_pure (a : α) : (pure a : Traced α).value = a := rfl

@[simp] theorem events_pure (a : α) : (pure a : Traced α).events = [] := rfl

@[simp] theorem value_bind (x : Traced α) (f : α → Traced β) :
    (x >>= f).value = (f x.value).value := rfl

@[simp] theorem events_bind (x : Traced α) (f : α → Traced β) :
    (x >>= f).events = x.events ++ (f x.value).events := rfl

end Traced

end RelyingParty.Log
