import Lookout.Exhaust
import Lookout.Timer.Basic

set_option autoImplicit false

/-! # Timers and their owners

Timers that are kept under names. Making a timer under a name that is taken replaces the
timer of that name: its handle is dropped once the new timer is made. `Command` is what
can happen, and `Desk.perform` does it and tells which timers fired when.
-/

namespace Lookout.Timers

/-- Live timers with their names, the handle kept under each name, and the firings so
far, newest first. -/
structure Desk where
  now : Nat := 0
  timers : Timers String := {}
  kept : List (String × Nat) := []
  fired : List (Nat × String) := []

namespace Desk

/-- Drops the handle kept under a name, which cancels its timer. -/
def drop (d : Desk) (name : String) : Desk :=
  { d with
    timers := d.timers.cancel? (d.kept.lookup name)
    kept := d.kept.filter fun k => k.1 != name }

/-- Keeps the newest timer under a name in place of the one kept there before. -/
def keep (d : Desk) (name : String) (timers : Timers String) : Desk :=
  let handle := d.timers.made
  let d := ({ d with timers := timers }).drop name
  { d with kept := (name, handle) :: d.kept }

/-- Fires the next timer due by `target`, at its deadline or, if that is past, now. -/
def step? (target : Nat) (d : Desk) : Option Desk :=
  match d.timers.due? with
  | none => none
  | some due =>
    if due ≤ target then
      let now := max d.now due
      (d.timers.fire? now).map fun (name, timers) =>
        { d with now := now, timers := timers, fired := (now, name) :: d.fired }
    else none

/-- Enough steps for everything that falls due in `ms` milliseconds: each timer fires at
most once a millisecond, and a late one some more times while it catches up. -/
def budget (d : Desk) (ms : Nat) : Nat :=
  (ms + Timer.tolerance + 2) * d.timers.live.length

/-- Everything due by `target` is done; then the time is `target`. -/
def runTo (target ms : Nat) (d : Desk) : Desk :=
  { exhaust (step? target) (d.budget ms) d with now := target }

end Desk

/-- What can happen to a desk. -/
inductive Command
  | after (name : String) (ms : Nat)
  | every (name : String) (ms : Nat)
  | drop (name : String)
  | advance (ms : Nat)
  | jump (ms : Nat)
  deriving Repr, DecidableEq

/-- Does a command, and all work due after it. -/
def Desk.perform (d : Desk) : Command → Desk
  | .after name ms => (d.keep name (d.timers.scheduleAfter d.now ms name)).runTo d.now 0
  | .every name ms => (d.keep name (d.timers.scheduleEvery d.now ms name)).runTo d.now 0
  | .drop name => d.drop name
  | .advance ms => d.runTo (d.now + ms) ms
  | .jump ms => ({ d with now := d.now + ms }).runTo (d.now + ms) ms

/-- The desks after each command of a list. -/
def session (d : Desk) : List Command → List Desk
  | [] => []
  | c :: rest => d.perform c :: session (d.perform c) rest

/-- The firings a desk has had since an earlier desk, by time and then by name. -/
def Desk.firedSince (d earlier : Desk) : List (Nat × String) :=
  ((d.fired.take (d.fired.length - earlier.fired.length)).reverse).mergeSort fun a b =>
    a.1 < b.1 || (a.1 == b.1 && a.2 ≤ b.2)

end Lookout.Timers
