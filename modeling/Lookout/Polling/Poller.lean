import Lookout.Timer.Basic
import Lookout.Watch
import Lookout.Text.Quoted
import Lookout.Backoff.Gate
import Lookout.Polling.Cadence
import Lookout.Polling.Event

set_option autoImplicit false

/-! # One poller

The state of a poller and the small changes it is made of. A poller is stopped, idle or
active. While it polls, one recurring timer gives it ticks at the period of its mode;
while it is active, a one-shot timer ends the active window. Replacing a timer cancels
the one before and starts a new generation, and a timer of an old generation does
nothing when it fires.

A tick starts a fetch, whose result arrives later. Fetches are numbered in the order in
which they are started, and the poller remembers the number of the newest result it has
applied, so that a late result never replaces a newer one. Every start and stop begins a
new run, and results of an earlier run are dropped.
-/

namespace Lookout.Polling

open Backoff (Signal)

/-- What the timers of a poller are for, with the generation they were made in. -/
inductive Alarm
  | tick (generation : Nat)
  | expiry (generation : Nat)
  deriving Repr, DecidableEq

/-- Something a poller's change callback does. -/
inductive Reaction
  | start | stop | enterActive | exitActive
  /-- Drops the poller's main handle. -/
  | drop
  | signal (s : Signal)
  /-- Logs the change under a server's name. -/
  | announce (server : String)
  deriving Repr, DecidableEq

/-- Who keeps a poller alive: its main handle, further handles, and guards, which stop
it when they are dropped; and the results that are being reported, each until it is done. -/
structure Owners where
  main : Bool := true
  clones : Nat := 0
  guards : Nat := 0
  reports : Nat := 0
  deriving Repr, DecidableEq

/-- Whether anybody has a handle of the poller. -/
def Owners.held (o : Owners) : Bool := o.main || 0 < o.clones || 0 < o.guards

/-- Whether anybody keeps the poller alive. -/
def Owners.any (o : Owners) : Bool := o.held || 0 < o.reports

/-- A poller. -/
structure Poller where
  name : String
  cadence : Cadence := Cadence.standard
  /-- What the change callback does, if there is one. -/
  callback : Option (List Reaction) := none
  mode : Mode := .stopped
  /-- The status of the newest result of this run. -/
  lastStatus : Option String := none
  tickTimer : Option Nat := none
  expiryTimer : Option Nat := none
  /-- Counts starts and stops. -/
  run : Nat := 0
  /-- The number of the fetch started last. -/
  issued : Nat := 0
  /-- The number of the newest fetch whose result was applied. -/
  applied : Nat := 0
  tickGeneration : Nat := 0
  expiryGeneration : Nat := 0
  /-- The poller's live timers. -/
  timers : Timers Alarm := {}
  /-- What observers of the mode see. -/
  board : Watch Mode := { initial := .stopped }
  /-- The events published so far, newest first. -/
  events : List TickEvent := []
  /-- When the fetch operation was invoked, newest first. -/
  fetches : List Nat := []
  /-- The calls of the callback, as current and previous status, newest first. -/
  changes : List (String × String) := []
  owners : Owners := {}

namespace Poller

/-- Whether the poller still exists. -/
def alive (p : Poller) : Bool := p.owners.any

/-- Sets the mode, and publishes it if it is new. -/
def setMode (p : Poller) (m : Mode) : Poller :=
  { p with mode := m, board := p.board.publishChange m }

/-- Publishes an event. -/
def publish (p : Poller) (e : TickEvent) : Poller := { p with events := e :: p.events }

/-- Replaces the tick timer by one of the given period. -/
def armTicks (p : Poller) (now period : Nat) : Poller :=
  let timers := p.timers.cancel? p.tickTimer
  let generation := p.tickGeneration + 1
  { p with
    tickGeneration := generation
    tickTimer := some timers.made
    timers := timers.scheduleEvery now period (.tick generation) }

/-- Replaces the expiry timer by one at the end of a window that opens now. -/
def armExpiry (p : Poller) (now : Nat) : Poller :=
  let timers := p.timers.cancel? p.expiryTimer
  let generation := p.expiryGeneration + 1
  { p with
    expiryGeneration := generation
    expiryTimer := some timers.made
    timers := timers.scheduleAfter now p.cadence.window (.expiry generation) }

/-- Drops the expiry timer. -/
def disarmExpiry (p : Poller) : Poller :=
  { p with
    timers := p.timers.cancel? p.expiryTimer
    expiryTimer := none
    expiryGeneration := p.expiryGeneration + 1 }

/-- Drops the tick timer. -/
def disarmTicks (p : Poller) : Poller :=
  { p with
    timers := p.timers.cancel? p.tickTimer
    tickTimer := none
    tickGeneration := p.tickGeneration + 1 }

/-- A new run begins: the poller is idle, its first tick still to come. -/
def beginRun (p : Poller) : Poller := ({ p with run := p.run + 1 }).setMode .idle

/-- The run is over: no timer is left and the status is forgotten. -/
def endRun (p : Poller) : Poller :=
  ({ p.disarmTicks.disarmExpiry with run := p.run + 1, lastStatus := none }).setMode .stopped

/-- The poller is active from now on, for one window. -/
def openWindow (p : Poller) (now : Nat) : Poller :=
  ((p.setMode .active).armTicks now p.cadence.active).armExpiry now

/-- The poller is back to its idle period. -/
def closeWindow (p : Poller) (now : Nat) : Poller :=
  (p.disarmExpiry.setMode .idle).armTicks now p.cadence.idle

/-- A fetch is started by a tick. -/
def issue (p : Poller) : Poller := { p with issued := p.issued + 1 }

/-- The fetch operation is invoked. -/
def noteFetch (p : Poller) (now : Nat) : Poller := { p with fetches := now :: p.fetches }

/-- The result of fetch `seq` is the newest so far. -/
def apply (p : Poller) (seq : Nat) (status : Option String) : Poller :=
  { p with applied := seq, lastStatus := status }

/-- The change that a new status is, if there is a callback to tell: current and previous
status, both present and different. -/
def change? (p : Poller) (current : Option String) : Option (String × String) :=
  match p.callback, p.lastStatus, current with
  | some _, some before, some after => if before ≠ after then some (after, before) else none
  | _, _, _ => none

/-- The callback is called about a change. -/
def beginReport (p : Poller) (current previous : String) : Poller :=
  { p with
    changes := (current, previous) :: p.changes
    owners := { p.owners with reports := p.owners.reports + 1 } }

/-- A change has been reported. -/
def endReport (p : Poller) : Poller :=
  { p with owners := { p.owners with reports := p.owners.reports - 1 } }

/-- Once nobody owns the poller it is gone, and its timers with it. -/
def release (p : Poller) : Poller :=
  if p.alive then p
  else { p with timers := p.timers.clear, tickTimer := none, expiryTimer := none }

/-- The text that describes a poller. -/
def describe (p : Poller) : String :=
  let status := match p.lastStatus with
    | none => "None"
    | some s => "Some(" ++ Text.quoted s ++ ")"
  "AdaptiveScheduler \x7b name: " ++ Text.quoted p.name ++ ", state: " ++ p.mode.title
    ++ ", last_status: " ++ status ++ ", config: " ++ p.cadence.describe ++ " \x7d"

end Poller

end Lookout.Polling
