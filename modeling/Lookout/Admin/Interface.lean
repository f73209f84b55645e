import Lookout.Admin.Answer

set_option autoImplicit false

/-! # The admin interface

How a service handles a request. Whether the request is admitted is asked first, before
anybody looks where it leads; then its path must be a route and its method one that the
route knows; then a poller it names must be written in valid text and exist. A request
that fails on the way changes nothing but the log.
-/

namespace Lookout.Service

open Admin
open Backend (Network)
open Journal (Line)

variable {ν : Type}

/-- Does something with the poller that a segment of a path names. -/
def onNamed (s : Service ν) (segment : List Char) (act : Nat → Service ν × Answer) :
    Service ν × Answer :=
  match Text.percentDecode? segment with
  | none => (s, ⟨400, none⟩)
  | some name =>
    match s.poller? name with
    | none => (s, .unknownPoller name)
    | some i => act i

/-- The answer that shows poller `i`. -/
def showPoller (s : Service ν) (i : Nat) : Answer := ⟨200, (s.listing? i).map Listing.toJson⟩

variable [Network ν]

/-- Poller `i` is made active and shown. -/
def activate (s : Service ν) (i : Nat) : Service ν × Answer :=
  let s := s.onFleet (·.enterActive i)
  (s, s.showPoller i)

/-- Poller `i` fetches out of turn, and the result is shown. -/
def showPoll (s : Service ν) (i : Nat) : Service ν × Answer :=
  match s.pollNow i with
  | (s, .ok status) => (s, .ok status.toJson)
  | (s, .error e) => (s, .failedPoll e)

/-- Does what a route is for. -/
def visit (s : Service ν) : Route → Service ν × Answer
  | .backoff => (s, .ok s.gateBody)
  | .resume =>
    let s := s.onFleet (·.tell .forceResume)
    (s, .ok s.gateBody)
  | .pollers => (s, .ok (.arr (s.listings.map Listing.toJson)))
  | .activate segment => s.onNamed segment s.activate
  | .poll segment => s.onNamed segment s.showPoll

/-- Handles an admitted request. The answer to a `HEAD` request goes without its body. -/
def serve (s : Service ν) (r : Request) : Service ν × Answer :=
  match Route.ofPath? r.path with
  | none => (s, ⟨404, none⟩)
  | some route =>
    if route.allows r.method then
      let (s, answer) := s.visit route
      (s, if r.method = .head then { answer with body := none } else answer)
    else (s, ⟨405, none⟩)

/-- Handles a request. -/
def handle (s : Service ν) (r : Request) : Service ν × Answer :=
  if admits s.apiKey r.authorization then s.serve r
  else (s.onFleet (·.log (.adminRejected r.path)), ⟨401, none⟩)

end Lookout.Service
