import Lookout.Backend.Exchange
import Lookout.Backend.Payload
import Lookout.Config.Check
import Lookout.Net.Message
import Lookout.Polling.Fetch

set_option autoImplicit false

/-! # The client

How the backend is asked for the status of a server, or to start or stop one. Each call
is one exchange. Every answer is reported to the gate, whatever its body: an answer of
overload as a trigger, any other as a reset. A call that ends without an answer reports
nothing.
-/

namespace Lookout.Backend

open Config (Endpoint TransportSettings)
open Polling (Effect)

/-- Why a call has no result. -/
inductive CallError
  | rateLimited
  | unauthorized
  /-- Any other answer that is no success. -/
  | refused (code : Nat) (message : String)
  /-- There was no answer, or it could not be read. -/
  | failed
  /-- There is no URL to send a request to, or no cookie to send with it. -/
  | invalidEndpoint (what : String)
  deriving Repr, DecidableEq

namespace CallError

/-- The wording of an error. -/
def text : CallError → String
  | rateLimited => "rate limited by backend"
  | unauthorized => "unauthorized"
  | refused code message => "backend returned " ++ toString code ++ ": " ++ message
  | failed => "request failed"
  | invalidEndpoint what => "invalid endpoint " ++ what

/-- The kind of an error. -/
def kind : CallError → String
  | rateLimited => "RateLimited"
  | unauthorized => "Unauthorized"
  | refused .. => "Status"
  | failed => "Request"
  | invalidEndpoint _ => "InvalidEndpoint"

/-- The text that describes an error: its kind and what it holds. -/
def describe : CallError → String
  | refused code message =>
    "Status \x7b code: " ++ toString code ++ ", message: " ++ Text.quoted message ++ " \x7d"
  | invalidEndpoint what => "InvalidEndpoint(" ++ Text.quoted what ++ ")"
  | e => e.kind

end CallError

/-! ## Judging an exchange -/

/-- What a call does when it completes, and its result. -/
structure Verdict (α : Type) where
  effects : List Effect := []
  result : Except CallError α

/-- The signal an answer is to the gate. -/
def signalOf (status : Nat) : Backoff.Signal :=
  if status = Net.StatusCode.tooManyRequests then .trigger else .reset

/-- What is said about an answer that is no success: the error its body tells, or else the
reason of its code. -/
def refusalMessage (status : Nat) (body : String) : String :=
  match (decode? body : Option Refusal) with
  | some refusal => refusal.error
  | none => (Net.StatusCode.reason? status).getD "unknown error"

/-- The result of an answer. -/
def resultOf {α : Type} [Payload α] (status : Nat) (body : String) : Except CallError α :=
  if status = Net.StatusCode.tooManyRequests then .error .rateLimited
  else if status = Net.StatusCode.unauthorized then .error .unauthorized
  else if Net.StatusCode.isSuccess status then
    match decode? body with
    | some payload => .ok payload
    | none => .error .failed
  else .error (.refused status (refusalMessage status body))

/-- The line that is logged about a result, if any. -/
def lineOf {α : Type} : Except CallError α → Option Journal.Line
  | .error (.refused code message) => some (.requestRefused code message)
  | _ => none

/-- What an exchange comes to. -/
def judge {α : Type} [Payload α] : Ending → Verdict α
  | .answered status body =>
    let result := resultOf status body
    { effects := [.report (.bump (.response status)), .signal (signalOf status)]
        ++ (lineOf result).toList.map fun l => .report (.line l)
      result := result }
  | .failed | .timedOut => { result := .error .failed }

/-! ## Calls -/

/-- A client: where the backend is, and how it is asked. -/
structure Client where
  base : Url
  settings : TransportSettings

/-- One call, its duration in milliseconds included. -/
structure Call (α : Type) extends Verdict α where
  duration : Nat := 0

/-- A path with an id put in wherever the letters `id` stand in braces. -/
def fill (id : List Char) : List Char → List Char
  | '{' :: 'i' :: 'd' :: '}' :: rest => id ++ fill id rest
  | c :: rest => c :: fill id rest
  | [] => []

/-- What a request to an endpoint asks for. -/
def methodOf : Endpoint → Method
  | .status => .get
  | .start | .stop => .post

namespace Client

/-- The client of some settings, if their URL is one and their cookie can be sent. -/
def make (settings : TransportSettings) : Except CallError Client :=
  match Url.parse settings.baseUrl with
  | .error e => .error (.invalidEndpoint (settings.baseUrl ++ ": " ++ e.text))
  | .ok base =>
    if settings.sessionCookie.all Net.isHeaderValue then .ok ⟨base, settings⟩
    else .error (.invalidEndpoint "session cookie is not a valid header")

/-- The URL of an endpoint of a server. -/
def endpoint (c : Client) (e : Endpoint) (id : String) : Except CallError Url :=
  let path := String.ofList (fill id.toList (c.settings.path e).toList)
  match c.base.join path with
  | .ok url => .ok url
  | .error error => .error (.invalidEndpoint (path ++ ": " ++ error.text))

/-- How long an exchange takes: only silence takes time, until it is given up. -/
def durationOf (c : Client) : Ending → Nat
  | .timedOut => c.settings.timeoutSecs * 1000
  | _ => 0

/-- Asks an endpoint about a server. A client that waits no time gives up before anything
is sent. -/
def call {ν α : Type} [Network ν] [Payload α] (c : Client) (e : Endpoint) (id : String)
    (net : ν) : Call α × ν :=
  match c.endpoint e id with
  | .error error => ({ result := .error error }, net)
  | .ok url =>
    if c.settings.timeoutSecs = 0 then ({ result := .error .failed }, net)
    else
      let request := { method := methodOf e, url := url, cookie := c.settings.sessionCookie }
      let (ending, net) := exchange maxHops request net
      ({ judge ending with duration := c.durationOf ending }, net)

/-- The text that describes a client. -/
def describe (c : Client) : String :=
  "StatusClient \x7b base_url: " ++ Text.quoted c.base.text ++ " \x7d"

end Client

end Lookout.Backend
