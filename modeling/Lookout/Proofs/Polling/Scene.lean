import Lookout.Polling.Fleet

set_option autoImplicit false

/-! # Everything that can happen to a fleet

A `Scene` is a fleet together with the changes that are just being reported, whose callback
is still at work. A `Move` is one thing that can happen in a scene: somebody operates a
poller, tells the gate a signal or calls for a fetch, time passes, a timer fires, a fetch
in flight lands, a callback returns. What a callback does is a move like any other, made
while its report is open, so a callback may do anything at all.

Nothing is assumed of the order of moves. A fetch may land at any time, before or after
those started later, or never; a timer may fire at its time or late; and while a callback
is at work everything else may go on. A move that is not possible, such as an operation on
a poller nobody holds or the firing of a timer that is not due, changes nothing. So every
list of moves, newest first, is a run, and `Scene.after` is where it leads. What holds
after every list of moves holds in every order of events, and in particular in the order in
which a fleet does the work that falls due (`Proofs/Polling/Session.lean`).
-/

namespace Lookout.Polling

open Backoff (Signal)
open Journal (Entry)

/-- What can be done with a handle of a poller. -/
inductive Operation
  | start | stop | enterActive | exitActive
  | clone | guard | dropMain | dropClone | dropGuard
  deriving Repr, DecidableEq

/-- Whether there is a handle to do it with: one of the kind that is given up, or else any. -/
def Operation.allowed : Operation → Owners → Bool
  | .dropMain, o => o.main
  | .dropClone, o => 0 < o.clones
  | .dropGuard, o => 0 < o.guards
  | .start, o | .stop, o | .enterActive, o | .exitActive, o | .clone, o | .guard, o => o.held

namespace Fleet

variable {ω : Type} [FetchSource ω]

/-- What is done with a handle of poller `i`. -/
def carryOut (s : Fleet ω) (i : Nat) : Operation → Fleet ω
  | .start => s.start i
  | .stop => s.stop i
  | .enterActive => s.enterActive i
  | .exitActive => s.exitActive i
  | .clone => s.clone i
  | .guard => s.guard i
  | .dropMain => (s.dropMain i).release i
  | .dropClone => (s.dropClone i).release i
  | .dropGuard => (s.dropGuard i).release i

/-- Whether anybody has the handle it takes to do something with poller `i`. -/
def allows (s : Fleet ω) (i : Nat) (o : Operation) : Bool :=
  s.pollers[i]?.any fun p => o.allowed p.owners

/-- Something is done with a handle of poller `i`, if there is one. -/
def operate (s : Fleet ω) (i : Nat) (o : Operation) : Fleet ω :=
  if s.allows i o then s.carryOut i o else s

/-- The fetch operation of poller `i` is called out of turn, if somebody has a handle. -/
def ask (s : Fleet ω) (i : Nat) : Fleet ω :=
  if s.allows i .clone then
    let (f, s) := s.callFetch i
    s.launch .direct f
  else s

/-- The `k`-th of the live timers of poller `i` fires, if it is due. -/
def ring (s : Fleet ω) (i k : Nat) : Fleet ω :=
  match s.pollers[i]? with
  | none => s
  | some p =>
    match p.timers.live[k]? with
    | none => s
    | some t =>
      if t.deadline ≤ s.now then
        (s.modify i fun p => { p with timers := p.timers.afterFiring t s.now }).onAlarm i t.action
      else s

end Fleet

/-- A fleet, and the changes that are being reported. -/
structure Scene (ω : Type) where
  fleet : Fleet ω
  reports : List Report := []

/-- What can happen in a scene. -/
inductive Move (ω : Type)
  /-- Something is done with a handle of a poller. -/
  | operate (i : Nat) (o : Operation)
  /-- The fetch operation of a poller is called out of turn. -/
  | ask (i : Nat)
  /-- Somebody outside has a fetch of their own, and the world they ask changes. -/
  | call (f : Fetch) (source : ω)
  /-- The gate is told a signal. -/
  | signal (x : Signal)
  /-- Somebody outside makes an entry in the journal. -/
  | note (e : Entry)
  /-- The clock goes on. -/
  | pass (ms : Nat)
  /-- The gate's timer fires, if it is due. -/
  | resume
  /-- The `k`-th live timer of a poller fires, if it is due. -/
  | ring (i k : Nat)
  /-- The `k`-th fetch in flight lands. -/
  | land (k : Nat)
  /-- The callback of the `k`-th open report returns. -/
  | conclude (k : Nat)

namespace Scene

variable {ω : Type} [FetchSource ω]

/-- What a move makes of a scene. -/
def move (s : Scene ω) : Move ω → Scene ω
  | .operate i o => { s with fleet := s.fleet.operate i o }
  | .ask i => { s with fleet := s.fleet.ask i }
  | .call f source => { s with fleet := { s.fleet with source := source }.launch .direct f }
  | .signal x => { s with fleet := s.fleet.tell x }
  | .note e => { s with fleet := s.fleet.record e }
  | .pass ms => { s with fleet := { s.fleet with now := s.fleet.now + ms } }
  | .resume => { s with fleet := s.fleet.work .gate }
  | .ring i k => { s with fleet := s.fleet.ring i k }
  | .land k =>
    match s.fleet.flights[k]? with
    | none => s
    | some f =>
      let (fleet, report) := { s.fleet with flights := s.fleet.flights.eraseIdx k }.deliver f
      { fleet := fleet, reports := s.reports ++ report.toList }
  | .conclude k =>
    match s.reports[k]? with
    | none => s
    | some r => { fleet := s.fleet.conclude r, reports := s.reports.eraseIdx k }

/-- Where a list of moves leads, the newest of them first. -/
def after (s : Scene ω) : List (Move ω) → Scene ω
  | [] => s
  | m :: past => (s.after past).move m

theorem after_append (s : Scene ω) (later past : List (Move ω)) :
    s.after (later ++ past) = (s.after past).after later := by
  induction later with
  | nil => rfl
  | cons m later ih => rw [List.cons_append, after, after, ih]

end Scene

/-- A poller that has just been built. -/
def Poller.Fresh (p : Poller) : Prop :=
  ∃ name cadence callback, p = { name := name, cadence := cadence, callback := callback }

/-- A scene in which nothing has happened to the pollers yet. The gate, the clock and what
is in the journal may be anything, and others may be fetching. -/
structure Scene.Fresh {ω : Type} (s : Scene ω) : Prop where
  pollers : ∀ p ∈ s.fleet.pollers, p.Fresh
  flights : ∀ f ∈ s.fleet.flights, f.purpose = .direct
  reports : s.reports = []

/-- A scene of one poller, whose first fetch finds `up` and all others `down`. -/
def Scene.lone : Scene Scripts where
  fleet :=
    { gate := { delays := .standard }
      pollers := [{ name := "lone", callback := some [] }]
      source := ⟨[[{ answer := .ok (.str "up") }, { answer := .ok (.str "down") }]]⟩ }

theorem Scene.lone_fresh : lone.Fresh where
  pollers := by
    intro p hp
    rw [List.mem_singleton.mp hp]
    exact ⟨_, _, _, rfl⟩
  flights := nofun
  reports := rfl

end Lookout.Polling
