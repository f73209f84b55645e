set_option autoImplicit false

/-! # Watched values

A `Watch` holds the latest value published on it and tells how often something was
published, so that an observer who remembers the count knows whether it has missed
anything. All publications are kept, newest first: the sequence of published values is
what the laws about a watched machine speak of.
-/

namespace Lookout

/-- A value that observers watch. -/
structure Watch (α : Type) where
  /-- What observers see before the first publication. -/
  initial : α
  /-- Everything published so far, newest first. -/
  sent : List α := []
  deriving Repr, DecidableEq

namespace Watch

variable {α : Type}

/-- The value an observer reads now. -/
def value (w : Watch α) : α := w.sent.headD w.initial

/-- How many publications there have been. -/
def version (w : Watch α) : Nat := w.sent.length

/-- Publishes `a`, also when it equals the current value. -/
def publish (w : Watch α) (a : α) : Watch α := { w with sent := a :: w.sent }

/-- Publishes `a` only if it differs from the current value. -/
def publishChange [DecidableEq α] (w : Watch α) (a : α) : Watch α :=
  if w.value = a then w else w.publish a

@[simp] theorem value_publish (w : Watch α) (a : α) : (w.publish a).value = a := rfl

@[simp] theorem version_publish (w : Watch α) (a : α) :
    (w.publish a).version = w.version + 1 := rfl

@[simp] theorem value_publishChange [DecidableEq α] (w : Watch α) (a : α) :
    (w.publishChange a).value = a := by
  unfold publishChange
  split
  · assumption
  · rfl

end Watch

end Lookout
