import Lookout.Admin.Route
import Lookout.Service.Basic

set_option autoImplicit false

/-! # Answers of the admin interface

What a service answers to a request: the state of its gate and of its pollers, and the
effect of what it is asked to do, which is always that of an operation of the service.
Pollers are addressed by name; of several with one name the last is meant.
-/

namespace Lookout.Admin

open Backend (CallError Network Uplink)
open Polling (Mode Poller)

/-- An answer: its status and its body, if it has one. -/
structure Answer where
  status : Nat
  body : Option Json := none

/-- The body that tells of an error. -/
def errorBody (text : String) : Json := .obj [("error", .str text)]

/-- An answer that something was done. -/
def Answer.ok (body : Json) : Answer := ⟨200, some body⟩

/-- The answer for a poller that does not exist. -/
def Answer.unknownPoller (name : String) : Answer :=
  ⟨404, some (errorBody ("unknown poller " ++ name))⟩

/-- The answer for a fetch that failed. -/
def Answer.failedPoll (e : CallError) : Answer :=
  ⟨if e = .rateLimited then 429 else 502, some (errorBody e.text)⟩

/-! ## What is shown -/

/-- What is shown of a poller. -/
structure Listing where
  name : String
  serverId : String
  mode : Mode
  lastStatus : Option String

/-- What is shown of a poller, as JSON. -/
def Listing.toJson (l : Listing) : Json :=
  .obj [("name", .str l.name), ("server_id", .str l.serverId), ("state", .str l.mode.name),
    ("polling", .bool l.mode.isPolling), ("active", .bool l.mode.isActive),
    ("last_status", .optStr l.lastStatus)]

/-- Of several entries with one name the last, the others in their order. -/
def lastOfName {α : Type} : List (String × α) → List (String × α)
  | [] => []
  | x :: rest => if rest.any fun y => y.1 = x.1 then lastOfName rest else x :: lastOfName rest

end Lookout.Admin

namespace Lookout.Service

open Admin
open Backend (Network)

variable {ν : Type}

/-- What is shown of poller `i`. -/
def listing? (s : Service ν) (i : Nat) : Option Listing := do
  let p ← s.fleet.pollers[i]?
  let server ← s.fleet.source.servers[i]?
  some { name := p.name, serverId := server.id, mode := p.mode, lastStatus := p.lastStatus }

/-- The pollers that can be addressed, each under its name. -/
def directory (s : Service ν) : List (String × Nat) :=
  lastOfName (s.fleet.pollers.zipIdx.map fun (p, i) => (p.name, i))

/-- The poller of a name. -/
def poller? (s : Service ν) (name : String) : Option Nat := s.directory.lookup name

/-- What is shown of all pollers, in the order of their names. -/
def listings (s : Service ν) : List Listing :=
  (s.directory.mergeSort fun x y => x.1 ≤ y.1).filterMap fun x => s.listing? x.2

/-- What is shown of the gate. -/
def gateBody (s : Service ν) : Json :=
  let gate := s.fleet.gate
  .obj [("paused", .bool gate.paused), ("level", .nat gate.level),
    ("remaining_seconds", .nat (gate.remainingSeconds s.fleet.now)),
    ("schedule_ms", .arr (gate.delays.toList.map .nat))]

end Lookout.Service
