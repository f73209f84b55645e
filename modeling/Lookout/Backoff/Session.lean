import Lookout.Exhaust
import Lookout.Backoff.Gate

set_option autoImplicit false

/-! # A gate on a clock

A gate alone with its clock: signals reach it, and time passes, either continuously (each
timer fires at its own deadline) or in a jump (everything overdue fires at the new time).
`Command` is what can happen to it, `Clocked.perform` does it, and `session` runs a list
of commands with a report after each.
-/

namespace Lookout.Backoff

/-- A gate, the time, and what has been reported so far. -/
structure Clocked where
  now : Nat := 0
  gate : Gate
  journal : Journal := []

namespace Clocked

/-- A new gate at time zero. -/
def start (delays : List Nat) : Clocked :=
  let (gate, entries) := Gate.make delays
  { gate := gate, journal := entries }

/-- The state after the gate has done something. -/
def put (c : Clocked) (result : Gate × List Journal.Entry) : Clocked :=
  { c with gate := result.1, journal := result.2 ++ c.journal }

/-- Fires the next timer due by `target`, at its deadline or, if that is past, now. -/
def step? (target : Nat) (c : Clocked) : Option Clocked :=
  match c.gate.due? with
  | none => none
  | some due =>
    if due ≤ target then
      (c.gate.fire? (max c.now due)).map fun result =>
        ({ c with now := max c.now due }).put result
    else none

/-- Everything due by `target` is done; then the time is `target`. There is never more
than one timer to fire for each live timer. -/
def runTo (target : Nat) (c : Clocked) : Clocked :=
  { exhaust (step? target) (c.gate.timers.live.length + 1) c with now := target }

end Clocked

/-- What can happen to a gate. -/
inductive Command
  | signal (s : Signal)
  /-- Time passes continuously. -/
  | advance (ms : Nat)
  /-- The clock is moved in one step. -/
  | jump (ms : Nat)
  /-- Nothing happens to the gate: it is shared or described. -/
  | look
  deriving Repr, DecidableEq

/-- Does a command, and all work due after it. -/
def Clocked.perform (c : Clocked) : Command → Clocked
  | .signal s => (c.put (c.gate.tell c.now s)).runTo c.now
  | .advance ms => c.runTo (c.now + ms)
  | .jump ms => ({ c with now := c.now + ms }).runTo (c.now + ms)
  | .look => c

/-- The states after each command of a list. -/
def session (c : Clocked) : List Command → List Clocked
  | [] => []
  | x :: rest => c.perform x :: session (c.perform x) rest

end Lookout.Backoff
