set_option autoImplicit false

/-! # Timers

A table of live timers on a clock of whole milliseconds. A timer is made with its first
deadline, fires when the clock has reached it, and is then gone (one-shot) or armed again
(recurring). Whoever makes a timer gets its handle, and cancelling by the handle takes
the timer out of the table.

A recurring timer that fires on time keeps its rhythm. One that fires late by more than
`Timer.tolerance` starts a new period at the moment it fired, so that a clock that stood
still causes one firing and not one per missed period.
-/

namespace Lookout

/-- A live timer. -/
structure Timer (α : Type) where
  /-- The number its owner knows it by. -/
  handle : Nat
  /-- When it fires next. -/
  deadline : Nat
  /-- The time between two firings, or `none` if it fires once. -/
  period : Option Nat
  /-- What its owner is told when it fires. -/
  action : α
  deriving Repr, DecidableEq

namespace Timer

variable {α : Type}

/-- How late, in milliseconds, a recurring timer may fire and still keep its rhythm. -/
def tolerance : Nat := 5

/-- The deadline after a firing at `now` of a timer that was due at `deadline`. -/
def following (period deadline now : Nat) : Nat :=
  if now > deadline + tolerance then now + period else deadline + period

/-- What is left of a timer that fires at `now`: nothing, or the timer armed again. -/
def rearmed (t : Timer α) (now : Nat) : Option (Timer α) :=
  t.period.map fun p => { t with deadline := following p t.deadline now }

end Timer

/-- The live timers, in the order in which they were made. -/
structure Timers (α : Type) where
  live : List (Timer α) := []
  /-- How many timers have been made; the next handle. -/
  made : Nat := 0
  deriving Repr, DecidableEq

namespace Timers

variable {α : Type}

/-- Adds a timer whose handle is `t.made`. -/
def add (t : Timers α) (deadline : Nat) (period : Option Nat) (action : α) : Timers α :=
  { live := t.live ++ [⟨t.made, deadline, period, action⟩], made := t.made + 1 }

/-- A timer that fires once, `delay` from `now`. -/
def scheduleAfter (t : Timers α) (now delay : Nat) (action : α) : Timers α :=
  t.add (now + delay) none action

/-- A timer that fires every `period`, for the first time one period from `now`. -/
def scheduleEvery (t : Timers α) (now period : Nat) (action : α) : Timers α :=
  t.add (now + period) (some period) action

/-- Takes the timer with this handle out of the table; no timer has it, no change. -/
def cancel (t : Timers α) (handle : Nat) : Timers α :=
  { t with live := t.live.filter fun x => x.handle != handle }

/-- Cancels the timer of an optional handle. -/
def cancel? (t : Timers α) : Option Nat → Timers α
  | none => t
  | some h => t.cancel h

/-- No timer is live any more. -/
def clear (t : Timers α) : Timers α := { t with live := [] }

/-- The timer with the earliest deadline in a list, the first of several. -/
def earliest : List (Timer α) → Option (Timer α)
  | [] => none
  | x :: rest =>
    match earliest rest with
    | none => some x
    | some y => if y.deadline < x.deadline then some y else some x

/-- The timer that fires next. -/
def next? (t : Timers α) : Option (Timer α) := earliest t.live

/-- When the next firing is due. -/
def due? (t : Timers α) : Option Nat := t.next?.map Timer.deadline

/-- The table after `x` has fired at `now`. -/
def afterFiring (t : Timers α) (x : Timer α) (now : Nat) : Timers α :=
  { t with live := t.live.filterMap fun y => if y.handle = x.handle then y.rearmed now else some y }

/-- Fires the next timer, if it is due at `now`: its action and the table afterwards. -/
def fire? (t : Timers α) (now : Nat) : Option (α × Timers α) :=
  match t.next? with
  | none => none
  | some x => if x.deadline ≤ now then some (x.action, t.afterFiring x now) else none

end Timers

end Lookout
