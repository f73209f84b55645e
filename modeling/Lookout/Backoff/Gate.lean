import Lookout.Timer.Basic
import Lookout.Watch
import Lookout.Journal.Basic
import Lookout.Backoff.Delays

set_option autoImplicit false

/-! # The pause gate

When the backend is overloaded every poller holds off together. The `Gate` is the one
place that says so: it is paused from an overload signal until its resume timer fires or
somebody lifts the pause by force.

* An overload signal (`trigger`) starts a pause, or replaces the end of the one in
  progress. Its length is the schedule's entry at the current level, and the level goes
  up by one.
* A response that is no overload (`reset`) takes the level back to zero. It never ends
  a pause.
* `forceResume` ends the pause and takes the level back to zero.
* When the resume timer fires the pause is over; the level stays (`autoResume`).

Every operation gives the new gate and the journal entries it makes, newest first. A
resume timer carries the generation it was made in, and every operation that replaces or
cancels it starts a new generation, so that a timer of an earlier one does nothing.
-/

namespace Lookout.Backoff

open Journal (Entry Line)

/-- What the gate shows to the outside. -/
structure Snapshot where
  paused : Bool := false
  level : Nat := 0
  resumeAt : Option Nat := none
  deriving Repr, DecidableEq

/-- What a response, or an operator, tells the gate. -/
inductive Signal
  | trigger | reset | forceResume
  deriving Repr, DecidableEq

/-- The highest level there is; the level stays there. -/
def maxLevel : Nat := 4294967295

/-- The pause shared by all pollers. -/
structure Gate where
  delays : Delays
  /-- Overload signals since the last success. -/
  level : Nat := 0
  /-- When the pause in progress ends. -/
  resumeAt : Option Nat := none
  /-- The handle of the timer that will end it. -/
  resumeTimer : Option Nat := none
  generation : Nat := 0
  /-- The gate's live timers, each with the generation it was made in. -/
  timers : Timers Nat := {}
  /-- What observers of the gate see. -/
  board : Watch Snapshot := { initial := {} }

namespace Gate

/-- Whether requests are to be withheld. -/
def paused (g : Gate) : Bool := g.resumeAt.isSome

/-- The gate's state as shown to the outside. -/
def snapshot (g : Gate) : Snapshot := ⟨g.paused, g.level, g.resumeAt⟩

/-- Whole seconds until the pause ends, rounded up; zero when there is none. What is left is
counted in nanoseconds, and its seconds are kept in 64 bits. -/
def remainingSeconds (g : Gate) (now : Nat) : Nat :=
  match g.resumeAt with
  | some t => ((t - now) * 1000000 + 999999999) / 1000000000 % UInt64.size
  | none => 0

/-- Publishes the state on the board and in the gauges. -/
def publish (g : Gate) : Gate := { g with board := g.board.publish g.snapshot }

/-- The gauge setting that goes with a publication. -/
def gauges (g : Gate) : Entry := .gauges g.level g.paused

/-- Drops the resume timer and starts a new generation. -/
def disarm (g : Gate) : Gate :=
  { g with
    timers := g.timers.cancel? g.resumeTimer
    resumeTimer := none
    generation := g.generation + 1 }

/-- Arms the resume timer `delay` from `now` for the current generation. -/
def arm (g : Gate) (now delay : Nat) : Gate :=
  { g with
    resumeAt := some (now + delay)
    resumeTimer := some g.timers.made
    timers := g.timers.scheduleAfter now delay g.generation }

/-- An overload signal at `now`. -/
def trigger (g : Gate) (now : Nat) : Gate × List Entry :=
  let delay := g.delays.delay g.level
  let next := ({ g.disarm.arm now delay with level := min (g.level + 1) maxLevel }).publish
  (next, [next.gauges, .bump .trigger, .line (.rateLimited delay g.level)])

/-- A response that is no overload. -/
def reset (g : Gate) : Gate × List Entry :=
  if 0 < g.level then
    let next := ({ g with level := 0 }).publish
    (next, [next.gauges, .line (.levelReset g.level)])
  else (g, [])

/-- Lifts the pause and resets the level. -/
def forceResume (g : Gate) : Gate × List Entry :=
  let next := ({ g.disarm with resumeAt := none, level := 0 }).publish
  (next, [.line .forceResumed, next.gauges])

/-- The resume timer of a generation fires. -/
def autoResume (g : Gate) (generation : Nat) : Gate × List Entry :=
  if g.generation = generation ∧ g.resumeAt.isSome then
    let next := ({ g with
      resumeAt := none
      resumeTimer := none
      timers := g.timers.cancel? g.resumeTimer }).publish
    (next, [.line (.backoffEnded g.level), next.gauges])
  else (g, [])

/-- The gate is told a signal at `now`. -/
def tell (g : Gate) (now : Nat) : Signal → Gate × List Entry
  | .trigger => g.trigger now
  | .reset => g.reset
  | .forceResume => g.forceResume

/-- When the gate's next timer is due. -/
def due? (g : Gate) : Option Nat := g.timers.due?

/-- Fires the gate's next timer at `now`, if it is due. -/
def fire? (g : Gate) (now : Nat) : Option (Gate × List Entry) :=
  (g.timers.fire? now).map fun (generation, timers) =>
    ({ g with timers := timers }).autoResume generation

/-- A new gate over the given schedule, or over the default one if that is unusable, which
is logged. -/
def make (delays : List Nat) : Gate × List Entry :=
  ({ delays := Delays.ofList delays },
    if Usable delays then [] else [.line (.invalidSchedule delays)])

/-- The text that describes a gate. A pause in progress is shown by the time on the gate's
own clock at which it ends. -/
def describe (g : Gate) : String :=
  let s := g.snapshot
  let resume := match s.resumeAt with
    | none => "None"
    | some t => "Some(" ++ Text.span t ++ ")"
  "BackoffCoordinator \x7b schedule: " ++ Text.bracketed (g.delays.toList.map Text.span)
    ++ ", state: BackoffSnapshot \x7b paused: " ++ toString s.paused
    ++ ", level: " ++ toString s.level ++ ", resume_at: " ++ resume ++ " \x7d \x7d"

end Gate

end Lookout.Backoff
