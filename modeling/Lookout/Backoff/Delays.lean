set_option autoImplicit false

/-! # Delay schedules

How long polling is withheld after each of several overload signals in a row, in
milliseconds. A schedule is usable when it is not empty, has no zero and never
decreases; the type `Delays` holds usable schedules only, and `Delays.ofList` answers an
unusable list with the default schedule.
-/

namespace Lookout.Backoff

/-- A list of delays that can serve as a schedule. -/
def Usable (delays : List Nat) : Prop :=
  delays ≠ [] ∧ (∀ d ∈ delays, 0 < d) ∧ delays.Pairwise (· ≤ ·)

instance (delays : List Nat) : Decidable (Usable delays) :=
  inferInstanceAs (Decidable (_ ∧ _ ∧ _))

/-- The default schedule: two seconds, doubled up to half a minute. -/
def defaultDelays : List Nat := [2000, 4000, 8000, 16000, 30000]

theorem usable_defaultDelays : Usable defaultDelays := by decide

/-- A usable delay schedule. -/
structure Delays where
  toList : List Nat
  usable : Usable toList := by decide
  deriving DecidableEq

namespace Delays

/-- The default schedule. -/
def standard : Delays := ⟨defaultDelays, usable_defaultDelays⟩

instance : Inhabited Delays := ⟨standard⟩

/-- The given schedule if it is usable, else the default one. -/
def ofList (delays : List Nat) : Delays :=
  if h : Usable delays then ⟨delays, h⟩ else standard

theorem length_pos (d : Delays) : 0 < d.toList.length :=
  List.length_pos_iff.mpr d.usable.1

/-- The delay after `level` earlier signals; the last entry repeats. -/
def delay (d : Delays) (level : Nat) : Nat :=
  d.toList.get ⟨min level (d.toList.length - 1), by have := d.length_pos; omega⟩

/-- The longest delay of the schedule. -/
def last (d : Delays) : Nat := d.toList.getLast d.usable.1

theorem ofList_toList (d : Delays) : ofList d.toList = d := by
  simp [ofList, d.usable]

theorem ofList_of_not_usable {delays : List Nat} (h : ¬ Usable delays) :
    ofList delays = standard := by
  simp [ofList, h]

theorem delay_pos (d : Delays) (level : Nat) : 0 < d.delay level :=
  d.usable.2.1 _ (List.get_mem ..)

end Delays

end Lookout.Backoff
