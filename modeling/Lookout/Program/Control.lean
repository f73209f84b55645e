import Lookout.Program.Arguments
import Lookout.Service.Basic

set_option autoImplicit false

/-! # The control program

A program that looks after one server: it tells its status, starts it, stops it, or follows
its status until it changes or the time is up. Following is done by a poller in its active
mode, whose window is the time there is.
-/

namespace Lookout.Program.Control

open Backend (ActionOutcome CallError Network ServerStatus Uplink)
open Polling (Fleet TickEvent)

/-- What is to be done with a server. -/
inductive Task
  | status
  | start (follow : Bool)
  | stop (follow : Bool)
  | follow
  deriving Repr, DecidableEq

/-- What the program is told. -/
structure Order where
  url : String := "http://localhost:8080"
  cookie : Option String := none
  /-- The time between two looks while following, in milliseconds. -/
  interval : Nat := 2000
  /-- How long to follow, in seconds. -/
  patience : Nat := 30
  server : String
  task : Task
  deriving Repr, DecidableEq

/-! ## The command line -/

/-- What stands before the name of a command. -/
def grammar : Grammar where
  nested := true
  rules := [
    { name := "url", letter := some 'u' },
    { name := "cookie", letter := some 'c' },
    { name := "interval-ms", accepts := fun s => (number? s).isSome },
    { name := "watch-secs", accepts := fun s => (number? s).isSome }]

/-- What follows the name of a command. -/
def taskGrammar (mayFollow : Bool) : Grammar where
  operands := 1
  rules := if mayFollow then [{ name := "watch", letter := some 'w', takesValue := false }] else []

/-- The names of the commands. -/
def commands : List String := ["status", "start", "stop", "watch", "help"]

/-- The task of a command, with the server it is for. -/
def readTask (name : String) (words : List String) : Except Stop (Task × String) := do
  let read (mayFollow : Bool) (task : Bool → Task) : Except Stop (Task × String) := do
    let r ← (taskGrammar mayFollow).read words
    return (task (r.has "watch"), r.operands.headD "")
  match name with
  | "status" => read false fun _ => .status
  | "start" => read true .start
  | "stop" => read true .stop
  | "watch" => read false fun _ => .follow
  | "help" => if words.all commands.contains then throw .help else throw .misused
  | _ => throw .misused

/-- The order a command line gives. -/
def readOrder (words : List String) : Except Stop Order := do
  let r ← grammar.read words
  let (task, server) ← readTask (r.rest.headD "") r.rest.tail
  let default : Order := { server := server, task := task }
  return { default with
    url := (r.value? "url").getD default.url
    cookie := r.value? "cookie"
    interval := ((r.value? "interval-ms").bind number?).getD default.interval
    patience := ((r.value? "watch-secs").bind number?).getD default.patience }

/-- How the program is used. -/
def usage : List String := [
  "Usage: lookout [--url URL] [--cookie COOKIE] [--interval-ms MS] [--watch-secs SECS] COMMAND",
  "Commands: status ID, start ID [--watch], stop ID [--watch], watch ID"]

/-! ## Following -/

section Following

variable {ν : Type} [Network ν]

/-- Lines on the standard output and on that for errors. -/
abbrev Lines := List String × List String

/-- The lines of an event. A change of status has none, because the poller's callback tells
of it. -/
def eventLines (server : String) (fleet : Fleet (Uplink ν)) : TickEvent → Lines
  | .skipped =>
    (["rate limited, retrying in " ++ toString (fleet.gate.remainingSeconds fleet.now) ++ "s"], [])
  | .fetched (some status) => ([server ++ ": " ++ status], [])
  | .fetched none => ([], [])
  | .statusChanged _ _ => ([], [])
  | .failed error => ([], ["Error: " ++ error])

/-- The line of a change, given as the current and the previous status. -/
def changeLine (change : String × String) : String :=
  "status changed: " ++ change.2 ++ " -> " ++ change.1

/-- The lines of what the only poller of a fleet did since it was `before`. -/
def newLines (server : String) (before after : Fleet (Uplink ν)) : Lines :=
  match before.pollers, after.pollers with
  | [p], [q] =>
    let lines := (Polling.since q.events p.events).map (eventLines server after)
    ((Polling.since q.changes p.changes).map changeLine ++ lines.flatMap Prod.fst,
      lines.flatMap Prod.snd)
  | _, _ => ([], [])

/-- Whether the only poller of a fleet is active. -/
def following (f : Fleet (Uplink ν)) : Bool :=
  (f.pollers.head?.map fun p => p.mode.isActive).getD false

/-- One piece of work by `target` while the poller is active, with the lines it gives. -/
def followStep? (server : String) (target : Nat) (s : Fleet (Uplink ν) × Lines) :
    Option (Fleet (Uplink ν) × Lines) :=
  if following s.1 then
    (s.1.step? target).map fun next =>
      let (out, err) := newLines server s.1 next
      (next, s.2.1 ++ out, s.2.2 ++ err)
  else none

/-- Follows the status of the server of the only poller until it changes or the window is
over. -/
def follow (s : Service ν) (server : String) : Service ν × Report :=
  let fleet := (s.fleet.guard 0).enterActive 0
  let window := (fleet.pollers.head?.map fun p => p.cadence.window).getD 0
  let (fleet, out, err) := exhaust (followStep? server (fleet.now + window)) (fleet.budget window)
    (fleet, newLines server s.fleet fleet)
  let last := match fleet.pollers.head?.bind Polling.Poller.lastStatus with
    | some status => [server ++ ": " ++ status ++ " (stopped watching)"]
    | none => []
  (s.onFleet fun _ => fleet.dropGuard 0, { out := out ++ last, err := err })

end Following

/-! ## The program -/

/-- The configuration of an order. -/
def Order.config (o : Order) : Config where
  polling := { idle := o.interval, active := o.interval, window := o.patience * 1000 }
  transport := { baseUrl := o.url, sessionCookie := o.cookie }
  servers := [{ name := o.server, id := o.server }]

variable {ν : Type} [Network ν]

/-- Tells the status of a server. -/
def showStatus (s : Service ν) (server : String) : Service ν × Report :=
  match s.call .status server with
  | (s, .ok (status : ServerStatus)) => (s, { out := [server ++ ": " ++ status.status] })
  | (s, .error e) => (s, .failed e.describe)

/-- Has something done to a server, and follows its status then if that is wanted. -/
def act (s : Service ν) (e : Config.Endpoint) (server : String) (wanted : Bool) :
    Service ν × Report :=
  match s.call e server with
  | (s, .error e) => (s, .failed e.describe)
  | (s, .ok (outcome : ActionOutcome)) =>
    if wanted then
      let (s, report) := follow s server
      (s, report.after [outcome.message] [])
    else (s, { out := [outcome.message] })

/-- Carries out a task. -/
def carryOut (s : Service ν) (server : String) : Task → Service ν × Report
  | .status => showStatus s server
  | .start wanted => act s .start server wanted
  | .stop wanted => act s .stop server wanted
  | .follow => follow s server

/-- Carries out an order. -/
def Order.run (o : Order) (network : ν) : ν × Report :=
  match Service.make o.config network with
  | .error e => (network, .failed e.describe)
  | .ok s =>
    let (s, report) := carryOut s o.server o.task
    (s.fleet.source.network, report)

/-- Runs the program with the words of its command line. -/
def run (words : List String) (network : ν) : ν × Report :=
  match readOrder words with
  | .error stop => (network, .stopped usage stop)
  | .ok order => order.run network

end Lookout.Program.Control
