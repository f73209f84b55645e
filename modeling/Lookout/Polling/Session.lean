import Lookout.Polling.Fleet

set_option autoImplicit false

/-! # A fleet at work

What can be done with a fleet from outside, and what is seen of it. A command on a poller
that nobody owns any more is answered with `gone` and does nothing, and one on a poller
that never was does nothing and has no answer. All work due at the present time is done
after each command.
-/

namespace Lookout.Polling

open Backoff (Gate Signal)

/-- What can be done with a fleet. -/
inductive Command
  | advance (ms : Nat)
  | jump (ms : Nat)
  | signal (s : Signal)
  | start (poller : Nat)
  | stop (poller : Nat)
  | enterActive (poller : Nat)
  | exitActive (poller : Nat)
  /-- Calls the fetch operation and waits for its result. -/
  | pollNow (poller : Nat)
  | clone (poller : Nat)
  | guard (poller : Nat)
  | drop (poller : Nat)
  | dropClone (poller : Nat)
  | dropGuard (poller : Nat)
  | describe (poller : Nat)
  | info (poller : Nat)
  deriving Repr, DecidableEq

/-- What a command is answered with. -/
inductive Answer
  | nothing
  | gone
  | flag (b : Bool)
  | fetched (result : Except String Json)
  | text (s : String)
  | info (name : String) (cadence : Cadence) (level : Nat)

namespace Fleet

/-- Does something to poller `i`, unless it is gone. -/
def onOwned (s : Fleet Scripts) (i : Nat) (op : Poller → Fleet Scripts × Answer) :
    Fleet Scripts × Answer :=
  match s.pollers[i]? with
  | none => (s, .nothing)
  | some p => if p.alive then op p else (s, .gone)

/-- Changes poller `i`, unless it is gone. -/
def change (s : Fleet Scripts) (i : Nat) (op : Fleet Scripts → Nat → Fleet Scripts) :
    Fleet Scripts × Answer :=
  s.onOwned i fun _ => ((op s i).settle, .nothing)

/-- Gives up a handle of poller `i` if there is one of the kind. -/
def giveUp (s : Fleet Scripts) (i : Nat) (has : Owners → Bool)
    (op : Fleet Scripts → Nat → Fleet Scripts) : Fleet Scripts × Answer :=
  match s.pollers[i]? with
  | none => (s, .nothing)
  | some p => if has p.owners then (((op s i).release i).settle, .flag true) else (s, .flag false)

/-- Calls the fetch operation of poller `i` and lets time pass until it has completed. The
caller holds a handle of the poller meanwhile. -/
def pollNow (s : Fleet Scripts) (i : Nat) : Fleet Scripts × Answer :=
  s.onOwned i fun _ =>
    let reply := s.source.reply i
    let (f, s) := (s.clone i).callFetch i
    (((s.await f).dropClone i).release i, .fetched reply.answer)

/-- Does a command, and all work due after it. -/
def perform (s : Fleet Scripts) : Command → Fleet Scripts × Answer
  | .advance ms => (s.advance ms, .nothing)
  | .jump ms => (s.jump ms, .nothing)
  | .signal x => ((s.tell x).settle, .nothing)
  | .start i => s.change i start
  | .stop i => s.change i stop
  | .enterActive i => s.change i enterActive
  | .exitActive i => s.change i exitActive
  | .pollNow i => s.pollNow i
  | .clone i => s.change i clone
  | .guard i => s.change i guard
  | .drop i => s.giveUp i (·.main) dropMain
  | .dropClone i => s.giveUp i (0 < ·.clones) dropClone
  | .dropGuard i => s.giveUp i (0 < ·.guards) dropGuard
  | .describe i => s.onOwned i fun p => (s, .text p.describe)
  | .info i => s.onOwned i fun p => (s, .info p.name p.cadence s.gate.level)

/-- The fleets after each command of a list, with the answers. -/
def session (s : Fleet Scripts) : List Command → List (Fleet Scripts × Answer)
  | [] => []
  | c :: rest => s.perform c :: session (s.perform c).1 rest

/-- A fleet of pollers that follow their scripts, at time zero. -/
def ofScripts (delays : List Nat) (pollers : List (Poller × List Reply)) : Fleet Scripts :=
  let (gate, entries) := Gate.make delays
  { gate := gate
    pollers := pollers.map Prod.fst
    source := ⟨pollers.map Prod.snd⟩
    journal := entries }

end Fleet

/-! ## What is seen -/

/-- What is seen of a poller after something has happened. -/
structure Sighting where
  /-- Mode and status, while the poller exists. -/
  present : Option (Mode × Option String)
  watched : Mode
  /-- Whether the mode was published anew, while the poller exists. -/
  changed : Option Bool
  fetches : List Nat
  changes : List (String × String)
  heard : Heard

/-- What is seen of a poller after it has become `after`. -/
def Sighting.ofChange (before after : Poller) : Sighting where
  present := if after.alive then some (after.mode, after.lastStatus) else none
  watched := after.board.value
  changed := if after.alive then some (after.board.version != before.board.version) else none
  fetches := since after.fetches before.fetches
  changes := since after.changes before.changes
  heard := Heard.ofUnread (since after.events before.events)

end Lookout.Polling
