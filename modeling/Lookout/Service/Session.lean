import Lookout.Admin.Interface

set_option autoImplicit false

/-! # A service at work

What can be done with a service from outside. All work due at the present time is done
after each command.
-/

namespace Lookout.Service

open Backend (ActionOutcome CallError Network ServerStatus Uplink)
open Backoff (Signal)
open Polling (Fleet)

/-- What can be done with a service. An operation on several pollers is done on each in
turn. -/
inductive Command
  | advance (ms : Nat)
  | signal (s : Signal)
  | start (pollers : List Nat)
  | stop (pollers : List Nat)
  | enterActive (pollers : List Nat)
  | exitActive (pollers : List Nat)
  /-- Fetches out of turn; the result of the last poller counts. -/
  | pollNow (pollers : List Nat)
  | status (id : String)
  | startServer (id : String)
  | stopServer (id : String)
  /-- Describes the client. -/
  | describe
  /-- A request to the admin interface, unless it is none. -/
  | admin (request : Option Admin.Request)
  deriving Repr, DecidableEq

/-- What a command is answered with. -/
inductive Answer
  | nothing
  | status (result : Except CallError ServerStatus)
  | outcome (result : Except CallError ActionOutcome)
  | text (s : String)
  /-- The request cannot be sent. -/
  | badRequest
  | admin (answer : Admin.Answer)

variable {ν : Type} [Network ν]

/-- All work due now is done. -/
def settle (s : Service ν) : Service ν := s.onFleet Fleet.settle

/-- Does an operation on each of some pollers. -/
def onEach (s : Service ν) (pollers : List Nat)
    (op : Fleet (Uplink ν) → Nat → Fleet (Uplink ν)) : Service ν :=
  (s.onFleet fun fleet => pollers.foldl op fleet).settle

/-- Each of some pollers fetches out of turn; one that never was does nothing. -/
def pollEach (s : Service ν) (pollers : List Nat) : Service ν × Answer :=
  (pollers.filter (· < s.fleet.pollers.length)).foldl
    (fun (s, _) i => let (s, result) := s.pollNow i; (s, .status result)) (s, .nothing)

/-- Does a command, and all work due after it. -/
def perform (s : Service ν) : Command → Service ν × Answer
  | .advance ms => (s.onFleet (·.advance ms), .nothing)
  | .signal x => ((s.onFleet (·.tell x)).settle, .nothing)
  | .start ps => (s.onEach ps Fleet.start, .nothing)
  | .stop ps => (s.onEach ps Fleet.stop, .nothing)
  | .enterActive ps => (s.onEach ps Fleet.enterActive, .nothing)
  | .exitActive ps => (s.onEach ps Fleet.exitActive, .nothing)
  | .pollNow ps => s.pollEach ps
  | .status id => let (s, r) := s.call .status id; (s, .status r)
  | .startServer id => let (s, r) := s.call .start id; (s, .outcome r)
  | .stopServer id => let (s, r) := s.call .stop id; (s, .outcome r)
  | .describe => (s, .text s.fleet.source.client.describe)
  | .admin none => (s, .badRequest)
  | .admin (some r) => let (s, a) := s.handle r; (s.settle, .admin a)

/-- The services after each command of a list, with the answers. -/
def session (s : Service ν) : List Command → List (Service ν × Answer)
  | [] => []
  | c :: rest => s.perform c :: session (s.perform c).1 rest

end Lookout.Service
