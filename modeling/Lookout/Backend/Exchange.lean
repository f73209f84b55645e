import Lookout.Net.Message
import Lookout.Url.Reader

set_option autoImplicit false

/-! # Exchanges

How a request is sent and what comes of it. A network is any world that takes a request
and responds, changing as it does so. An exchange follows redirects: a response that
points elsewhere is answered by a request to that place, as far as `maxHops` hops. Only
web addresses are sent to. The cookie goes along only as long as the host and the port
stay the same.
-/

namespace Lookout.Backend

/-- What a request asks for. -/
inductive Method
  | get | post
  deriving Repr, DecidableEq

/-- The name of a method. -/
def Method.name : Method → String
  | get => "GET"
  | post => "POST"

/-- A request. -/
structure Request where
  method : Method
  url : Url
  cookie : Option String := none
  deriving Repr, DecidableEq

/-- What comes back when one request is sent. -/
inductive Response
  | answer (status : Nat) (body : String) (location : Option String)
  /-- There is no connection, or it is closed without an answer. -/
  | broken
  /-- Nothing ever comes back. -/
  | silence
  deriving Repr, DecidableEq

/-- A response as it is received: a place that cannot stand in a header, or a code after
which the answer is still to come, breaks the connection, and some codes leave no body. -/
def Response.received : Response → Response
  | answer status body location =>
    if Net.StatusCode.isInterim status || !location.all Net.isHeaderValue then broken
    else answer status (if Net.StatusCode.hasBody status then body else "") location
  | broken => broken
  | silence => silence

/-- A world that responds to requests. -/
class Network (ν : Type) where
  /-- Sends a request. -/
  send : ν → Request → Response × ν

/-- The method to go on with after an answer that points elsewhere. -/
def redirectMethod? (status : Nat) (m : Method) : Option Method :=
  if status = 301 ∨ status = 302 ∨ status = 303 then some .get
  else if status = 307 ∨ status = 308 then some m
  else none

/-- Whether two URLs lead to one host and port. -/
def samePlace (u v : Url) : Bool := u.host = v.host && u.portOrDefault = v.portOrDefault

/-- The request to go on with after an answer, if it points elsewhere. -/
def Request.next? (r : Request) (status : Nat) (location : Option String) : Option Request := do
  let method ← redirectMethod? status r.method
  let url ← (r.url.join (← location)).toOption
  some { method := method, url := url, cookie := if samePlace r.url url then r.cookie else none }

/-- How an exchange ends. -/
inductive Ending
  | answered (status : Nat) (body : String)
  | failed
  | timedOut
  deriving Repr, DecidableEq

/-- How many redirects an exchange follows. -/
def maxHops : Nat := 10

/-- Sends a request and follows up to `hops` redirects. -/
def exchange {ν : Type} [Network ν] (hops : Nat) (r : Request) (net : ν) : Ending × ν :=
  if r.url.scheme ≠ "http" ∧ r.url.scheme ≠ "https" then (.failed, net)
  else
    let (response, net) := Network.send net r
    match response.received with
    | .broken => (.failed, net)
    | .silence => (.timedOut, net)
    | .answer status body location =>
      match r.next? status location with
      | none => (.answered status body, net)
      | some next =>
        match hops with
        | 0 => (.failed, net)
        | hops + 1 => exchange hops next net

end Lookout.Backend
