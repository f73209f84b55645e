import Lookout.Text.Basic

set_option autoImplicit false

/-! # Log lines

Everything the library logs, one constructor per kind of line with its fields, and one
function that writes a line: level, message, then the fields as `key=value`.
-/

namespace Lookout.Journal

/-- How important a line is, from the least to the most important. -/
inductive Level
  | trace | debug | info | warn | error
  deriving Repr, DecidableEq

namespace Level

/-- The level's name in a configuration. -/
def name : Level → String
  | trace => "trace"
  | debug => "debug"
  | info => "info"
  | warn => "warn"
  | error => "error"

/-- The level's name in a line. -/
def label : Level → String
  | trace => "TRACE"
  | debug => "DEBUG"
  | info => "INFO"
  | warn => "WARN"
  | error => "ERROR"

/-- The level's place in the order of importance. -/
def rank : Level → Nat
  | trace => 0
  | debug => 1
  | info => 2
  | warn => 3
  | error => 4

/-- All levels, the least important first. -/
def all : List Level := [trace, debug, info, warn, error]

/-- The level of a name. -/
def ofName? (s : String) : Option Level := all.find? fun l => l.name == s

end Level

/-- A line of the log. -/
inductive Line
  | invalidSchedule (delays : List Nat)
  | rateLimited (delay level : Nat)
  | levelReset (previous : Nat)
  | backoffEnded (level : Nat)
  | forceResumed
  | pollingStarted (poller : String) (idle : Nat)
  | pollSkipped (poller : String)
  | pollFailed (poller error : String)
  | staleResult (poller : String) (seq : Nat)
  | statusChanged (poller previous current : String)
  | windowElapsed (poller : String)
  | returnedToIdle (poller : String)
  | enteredActive (poller : String) (active window : Nat)
  | pollingStopped (poller : String)
  | serverChanged (server previous current : String)
  | requestRefused (status : Nat) (message : String)
  | adminRejected (path : String)
  deriving Repr, DecidableEq

namespace Line

/-- The level a line is logged at. -/
def level : Line → Level
  | invalidSchedule _ | rateLimited .. | pollFailed .. | adminRejected _ => .warn
  | backoffEnded _ | forceResumed | pollingStarted .. | returnedToIdle _ | enteredActive ..
  | pollingStopped _ | serverChanged .. => .info
  | levelReset _ | pollSkipped _ | staleResult .. | statusChanged .. | windowElapsed _
  | requestRefused .. => .debug

/-- What a line says. -/
def message : Line → String
  | invalidSchedule _ => "Invalid backoff schedule, using default"
  | rateLimited .. => "Rate limited, backing off globally"
  | levelReset _ => "Request succeeded, resetting backoff level"
  | backoffEnded _ => "Backoff ended, resuming requests"
  | forceResumed => "Backoff force resumed"
  | pollingStarted .. => "Polling started"
  | pollSkipped _ => "Skipping poll, rate limit backoff in progress"
  | pollFailed .. => "Poll failed"
  | staleResult .. => "Dropping stale poll result"
  | statusChanged .. => "Status changed"
  | windowElapsed _ => "Active window elapsed"
  | returnedToIdle _ => "Returned to idle polling"
  | enteredActive .. => "Entered active polling"
  | pollingStopped _ => "Polling stopped"
  | serverChanged .. => "Server status changed"
  | requestRefused .. => "Backend request failed"
  | adminRejected _ => "Rejected admin request"

/-- The fields of a line, in the order in which they are written. -/
def fields : Line → List (String × String)
  | invalidSchedule delays => [("schedule", Text.bracketed (delays.map Text.span))]
  | rateLimited delay level => [("delay_ms", toString delay), ("level", toString level)]
  | levelReset previous => [("previous_level", toString previous)]
  | backoffEnded level => [("level", toString level)]
  | forceResumed => []
  | pollingStarted p idle => [("poller", p), ("idle_interval_ms", toString idle)]
  | pollSkipped p => [("poller", p)]
  | pollFailed p error => [("poller", p), ("error", error)]
  | staleResult p seq => [("poller", p), ("seq", toString seq)]
  | statusChanged p previous current =>
    [("poller", p), ("previous", previous), ("current", current)]
  | windowElapsed p => [("poller", p)]
  | returnedToIdle p => [("poller", p)]
  | enteredActive p active window =>
    [("poller", p), ("active_interval_ms", toString active),
      ("active_duration_ms", toString window)]
  | pollingStopped p => [("poller", p)]
  | serverChanged server previous current =>
    [("server", server), ("previous", previous), ("current", current)]
  | requestRefused status message => [("status", toString status), ("message", message)]
  | adminRejected path => [("path", path)]

end Line

/-- A line as it is written: level, message and fields. -/
def written (level : Level) (message : String) (fields : List (String × String)) : String :=
  fields.foldl (fun text f => text ++ " " ++ f.1 ++ "=" ++ f.2) (level.label ++ " " ++ message)

/-- The text of a line. -/
def Line.text (l : Line) : String := written l.level l.message l.fields

example : (Line.rateLimited 2000 0).text
    = "WARN Rate limited, backing off globally delay_ms=2000 level=0" := by decide +kernel

end Lookout.Journal
