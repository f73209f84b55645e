import Lookout.Exhaust
import Lookout.Polling.Fetch
import Lookout.Polling.Poller

set_option autoImplicit false

/-! # Pollers on a common clock

A fleet is a number of pollers that share one gate, one clock and one source of fetches,
with the fetches in flight and the journal. Everything that can happen is a function on
fleets: the operations on a poller (`start`, `stop`, `enterActive`, `exitActive`), the
signals to the gate (`tell`), and the work that falls due with time (`step?`): timers
firing and fetches completing.

A tick asks the gate first. While it is paused the tick is skipped; otherwise the fetch
operation is called once, and its result is handed to the poller when it completes. A
result counts only if the run that asked for it is still going, and a success only if no
newer one was applied. When the status changes, the callback is told, and may act on the
poller or the gate; a change ends the active window.
-/

namespace Lookout.Polling

open Backoff (Gate Signal)
open Journal (Entry Line Counter)

/-- Who waits for a fetch. -/
inductive Purpose
  /-- A tick of a poller: the poller, its run, and the number of the fetch. -/
  | tick (poller run seq : Nat)
  /-- Somebody outside the pollers. -/
  | direct
  deriving Repr, DecidableEq

/-- A fetch in flight. -/
structure Flight where
  due : Nat
  purpose : Purpose
  effects : List Effect
  result : Except String (Option String)

/-- A change of status that is being reported: the callback is at work. -/
structure Report where
  poller : Nat
  /-- The run the change was seen in. -/
  run : Nat
  current : String
  previous : String
  deriving Repr, DecidableEq

/-- Pollers, their gate and clock, and what they fetch from. -/
structure Fleet (ω : Type) where
  now : Nat := 0
  gate : Gate
  pollers : List Poller
  /-- The fetches in flight, in the order in which they were started. -/
  flights : List Flight := []
  source : ω
  journal : Journal := []

namespace Fleet

variable {ω : Type}

/-! ## Small changes -/

/-- Changes poller `i`. -/
def modify (s : Fleet ω) (i : Nat) (f : Poller → Poller) : Fleet ω :=
  { s with pollers := s.pollers.modify i f }

/-- Puts an entry into the journal. -/
def record (s : Fleet ω) (e : Entry) : Fleet ω := { s with journal := e :: s.journal }

/-- Logs a line. -/
def log (s : Fleet ω) (l : Line) : Fleet ω := s.record (.line l)

/-- Poller `i`, called `name`, publishes an event, which is counted. -/
def emit (s : Fleet ω) (i : Nat) (name : String) (e : TickEvent) : Fleet ω :=
  (s.record (.bump (.tick name e.outcome))).modify i (·.publish e)

/-- The state after the gate has done something. -/
def putGate (s : Fleet ω) (result : Gate × List Entry) : Fleet ω :=
  { s with gate := result.1, journal := result.2 ++ s.journal }

/-- The gate is told a signal. -/
def tell (s : Fleet ω) (signal : Signal) : Fleet ω := s.putGate (s.gate.tell s.now signal)

/-- One effect of a completed fetch. -/
def effect (s : Fleet ω) : Effect → Fleet ω
  | .signal x => s.tell x
  | .report e => s.record e

/-- A fetch takes off. -/
def launch (s : Fleet ω) (purpose : Purpose) (f : Fetch) : Fleet ω :=
  { s with flights := s.flights ++ [⟨s.now + f.duration, purpose, f.effects, f.result⟩] }

/-! ## Operations on a poller -/

section Operations

variable [FetchSource ω]

/-- The fetch operation of poller `i` is called. -/
def callFetch (s : Fleet ω) (i : Nat) : Fetch × Fleet ω :=
  let (f, source) := FetchSource.fetch s.source i
  (f, ({ s with source := source }).modify i (·.noteFetch s.now))

/-- A tick of poller `i`: skipped while the gate is paused, a fetch otherwise. -/
def tick (s : Fleet ω) (i : Nat) : Fleet ω :=
  match s.pollers[i]? with
  | none => s
  | some p =>
    if s.gate.paused then (s.log (.pollSkipped p.name)).emit i p.name .skipped
    else
      let (f, s) := (s.modify i Poller.issue).callFetch i
      s.launch (.tick i p.run (p.issued + 1)) f

/-- Poller `i` begins a run: idle, with a tick now and then one each idle period. -/
def begin (s : Fleet ω) (i : Nat) : Fleet ω :=
  match s.pollers[i]? with
  | none => s
  | some p =>
    (((s.modify i Poller.beginRun).log (.pollingStarted p.name p.cadence.idle)).tick i).modify i
      (·.armTicks s.now p.cadence.idle)

/-- Starts poller `i`, unless it polls already. -/
def start (s : Fleet ω) (i : Nat) : Fleet ω :=
  match s.pollers[i]? with
  | none => s
  | some p => if p.mode.isPolling then s else s.begin i

/-- Poller `i` polls at the active period for one window from now on, started first if it
has to be. -/
def enterActive (s : Fleet ω) (i : Nat) : Fleet ω :=
  match s.pollers[i]? with
  | none => s
  | some p =>
    ((s.start i).modify i (·.openWindow s.now)).log
      (.enteredActive p.name p.cadence.active p.cadence.window)

/-- Poller `i` goes back to its idle period. -/
def leaveActive (s : Fleet ω) (i : Nat) : Fleet ω :=
  match s.pollers[i]? with
  | none => s
  | some p => (s.modify i (·.closeWindow s.now)).log (.returnedToIdle p.name)

/-- Poller `i` goes back to its idle period, if it is active. -/
def exitActive (s : Fleet ω) (i : Nat) : Fleet ω :=
  match s.pollers[i]? with
  | none => s
  | some p => if p.mode = .active then s.leaveActive i else s

/-- Stops poller `i`, if it polls. -/
def stop (s : Fleet ω) (i : Nat) : Fleet ω :=
  match s.pollers[i]? with
  | none => s
  | some p =>
    if p.mode.isPolling then (s.modify i Poller.endRun).log (.pollingStopped p.name) else s

/-! ## Owners -/

/-- One more handle of poller `i`. -/
def clone (s : Fleet ω) (i : Nat) : Fleet ω :=
  s.modify i fun p => { p with owners := { p.owners with clones := p.owners.clones + 1 } }

/-- Starts poller `i` and takes a guard of it. -/
def guard (s : Fleet ω) (i : Nat) : Fleet ω :=
  (s.start i).modify i fun p => { p with owners := { p.owners with guards := p.owners.guards + 1 } }

/-- The main handle of poller `i` is given up. -/
def dropMain (s : Fleet ω) (i : Nat) : Fleet ω :=
  s.modify i fun p => { p with owners := { p.owners with main := false } }

/-- One further handle of poller `i` is given up. -/
def dropClone (s : Fleet ω) (i : Nat) : Fleet ω :=
  s.modify i fun p => { p with owners := { p.owners with clones := p.owners.clones - 1 } }

/-- One guard of poller `i` is given up, which stops it. -/
def dropGuard (s : Fleet ω) (i : Nat) : Fleet ω :=
  (s.stop i).modify i fun p => { p with owners := { p.owners with guards := p.owners.guards - 1 } }

/-- Poller `i` is gone if nobody owns it any more. -/
def release (s : Fleet ω) (i : Nat) : Fleet ω := s.modify i Poller.release

/-! ## Completions -/

/-- What the callback of poller `i` does about a change. It acts through the main handle,
so nothing happens to the poller once that is given up. -/
def react (s : Fleet ω) (i : Nat) (current previous : String) : Reaction → Fleet ω
  | .signal x => s.tell x
  | .announce server => s.log (.serverChanged server previous current)
  | .drop => s.dropMain i
  | .start => whileOwned start
  | .stop => whileOwned stop
  | .enterActive => whileOwned enterActive
  | .exitActive => whileOwned exitActive
where
  /-- Does something to the poller while the main handle is there. -/
  whileOwned (op : Fleet ω → Nat → Fleet ω) : Fleet ω :=
    if (s.pollers[i]?.map (·.owners.main)).getD false then op s i else s

/-- A change ends the active window of the run it was seen in. -/
def endWindow (s : Fleet ω) (i run : Nat) : Fleet ω :=
  match s.pollers[i]? with
  | none => s
  | some p => if p.run = run ∧ p.mode = .active then s.leaveActive i else s

/-- Fetch `seq` of a run of poller `i` has succeeded. What is left to do is to report the
change of status, if it is one. -/
def accept (s : Fleet ω) (i run seq : Nat) (status : Option String) : Fleet ω × Option Report :=
  match s.pollers[i]? with
  | none => (s, none)
  | some p =>
    if ¬ p.alive ∨ p.run ≠ run ∨ ¬ p.mode.isPolling then (s, none)
    else if seq ≤ p.applied then (s.log (.staleResult p.name seq), none)
    else
      let s := (s.modify i (·.apply seq status)).emit i p.name (.fetched status)
      match p.change? status with
      | none => (s, none)
      | some (current, previous) =>
        ((s.log (.statusChanged p.name previous current)).modify i
            (·.beginReport current previous),
          some ⟨i, run, current, previous⟩)

/-- The callback is told of a change. -/
def consult (s : Fleet ω) (r : Report) : Fleet ω :=
  ((s.pollers[r.poller]?.bind Poller.callback).getD []).foldl
    (fun s x => s.react r.poller r.current r.previous x) s

/-- The callback is done: the change goes to the metrics and to the listeners, and ends the
active window. -/
def conclude (s : Fleet ω) (r : Report) : Fleet ω :=
  match s.pollers[r.poller]? with
  | none => s
  | some p =>
    let s := (s.record (.bump (.statusChange p.name))).emit r.poller p.name
      (.statusChanged r.current r.previous)
    ((s.endWindow r.poller r.run).modify r.poller Poller.endReport).release r.poller

/-- A fetch of a run of poller `i` has failed. -/
def fail (s : Fleet ω) (i run : Nat) (error : String) : Fleet ω :=
  match s.pollers[i]? with
  | none => s
  | some p =>
    if p.alive ∧ p.run = run then
      (s.log (.pollFailed p.name error)).emit i p.name (.failed error)
    else s

/-- A fetch lands: its effects come first, then its result is handed over. -/
def deliver (s : Fleet ω) (f : Flight) : Fleet ω × Option Report :=
  let s := f.effects.foldl effect s
  match f.purpose, f.result with
  | .direct, _ => (s, none)
  | .tick i run seq, .ok status => s.accept i run seq status
  | .tick i run _, .error text => (s.fail i run text, none)

/-- A fetch lands, and the change it brings, if any, is reported. -/
def land (s : Fleet ω) (f : Flight) : Fleet ω :=
  match s.deliver f with
  | (s, none) => s
  | (s, some r) => (s.consult r).conclude r

/-! ## Time -/

/-- The tick timer of a generation of poller `i` fires. -/
def onTick (s : Fleet ω) (i generation : Nat) : Fleet ω :=
  match s.pollers[i]? with
  | none => s
  | some p => if p.tickGeneration = generation ∧ p.mode.isPolling then s.tick i else s

/-- The expiry timer of a generation of poller `i` fires. -/
def onExpiry (s : Fleet ω) (i generation : Nat) : Fleet ω :=
  match s.pollers[i]? with
  | none => s
  | some p =>
    if p.expiryGeneration = generation ∧ p.mode = .active then
      (s.log (.windowElapsed p.name)).leaveActive i
    else s

/-- A timer of poller `i` fires. -/
def onAlarm (s : Fleet ω) (i : Nat) : Alarm → Fleet ω
  | .tick generation => s.onTick i generation
  | .expiry generation => s.onExpiry i generation

end Operations

/-- A piece of work that falls due. -/
inductive Work
  | gate
  | timer (poller : Nat)
  | flight (index : Nat)
  deriving Repr, DecidableEq

/-- All work that will fall due, each with its time. -/
def agenda (s : Fleet ω) : List (Nat × Work) :=
  (s.gate.due?.map fun t => (t, Work.gate)).toList
    ++ s.pollers.zipIdx.filterMap (fun (p, i) => p.timers.due?.map fun t => (t, Work.timer i))
    ++ s.flights.zipIdx.map (fun (f, k) => (f.due, Work.flight k))

/-- The entry of an agenda with the earliest time, the first of several. -/
def earliest : List (Nat × Work) → Option (Nat × Work)
  | [] => none
  | x :: rest =>
    match earliest rest with
    | none => some x
    | some y => if y.1 < x.1 then some y else some x

section Time

variable [FetchSource ω]

/-- Does a piece of work that is due now. -/
def work (s : Fleet ω) : Work → Fleet ω
  | .gate =>
    match s.gate.fire? s.now with
    | none => s
    | some result => s.putGate result
  | .timer i =>
    match s.pollers[i]?.bind fun p => p.timers.fire? s.now with
    | none => s
    | some (alarm, timers) => (s.modify i fun p => { p with timers := timers }).onAlarm i alarm
  | .flight k =>
    match s.flights[k]? with
    | none => s
    | some f => ({ s with flights := s.flights.eraseIdx k }).land f

/-- Does the earliest work due by `target`, at its time or, if that is past, now. -/
def step? (target : Nat) (s : Fleet ω) : Option (Fleet ω) :=
  match earliest s.agenda with
  | none => none
  | some (due, work) =>
    if due ≤ target then some (({ s with now := max s.now due }).work work) else none

/-- Enough steps for everything that falls due in `ms` milliseconds. In one millisecond
the gate resumes once, and each poller has one tick and one expiry, lands the fetch of
that tick, and lands one fetch for each start by its callback; a timer that is late fires
some more times while it catches up. -/
def budget (s : Fleet ω) (ms : Nat) : Nat :=
  (ms + Timer.tolerance + 2)
      * (s.pollers.map fun p => 4 + (p.callback.getD []).length).foldr (· + ·) 1
    + s.flights.length

/-- Everything due by `target`, which is `ms` away, is done; then the time is `target`. -/
def runTo (s : Fleet ω) (target ms : Nat) : Fleet ω :=
  { exhaust (step? target) (s.budget ms) s with now := target }

/-- All work due now is done. -/
def settle (s : Fleet ω) : Fleet ω := s.runTo s.now 0

/-- Time passes continuously. -/
def advance (s : Fleet ω) (ms : Nat) : Fleet ω := s.runTo (s.now + ms) ms

/-- The clock is moved in one step. -/
def jump (s : Fleet ω) (ms : Nat) : Fleet ω :=
  ({ s with now := s.now + ms }).runTo (s.now + ms) ms

/-- Somebody outside the pollers waits for a fetch: time passes until it has completed. -/
def await (s : Fleet ω) (f : Fetch) : Fleet ω := (s.launch .direct f).advance f.duration

end Time

end Fleet

end Lookout.Polling
