import Lookout.Backend.Exchange

set_option autoImplicit false

/-! # Scripted sites

A backend that follows a script: for each target a list of responses, one for each request
to it, the last of which repeats. It remembers the requests that reached it.
-/

namespace Lookout.Backend

/-- A scripted backend. -/
structure Site where
  host : Url.Host
  port : Nat
  /-- Whether connections to it can be made at all. -/
  reachable : Bool := true
  responses : List (String × List Response) := []
  /-- The requests that reached it, newest first. -/
  received : List Request := []

namespace Site

/-- The response to a target nothing is known about. -/
def noSuchPath : Response := .answer 404 "\x7b\"error\":\"no such path\"\x7d" none

/-- Whether a URL leads to the site. -/
def serves (s : Site) (u : Url) : Bool :=
  u.scheme = "http" && u.host = some s.host && u.portOrDefault = some s.port

/-- The responses left after the first one was used. -/
def used : List Response → List Response
  | _ :: next :: rest => next :: rest
  | rs => rs

/-- The response to a target. -/
def response (s : Site) (target : String) : Response :=
  ((s.responses.lookup target).bind List.head?).getD noSuchPath

/-- The site after a request has reached it. -/
def receive (s : Site) (r : Request) : Site :=
  { s with
    received := r :: s.received
    responses := s.responses.map fun (target, rs) =>
      (target, if target = r.url.target then used rs else rs) }

end Site

instance : Network Site where
  send s r :=
    if s.reachable && s.serves r.url then (s.response r.url.target, s.receive r) else (.broken, s)

end Lookout.Backend
