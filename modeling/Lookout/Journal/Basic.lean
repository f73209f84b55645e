import Lookout.Journal.Line

set_option autoImplicit false

/-! # The journal

What the library reports to the outside besides its answers: log lines, counter bumps and
gauge settings, in the order in which they were made. The journal is kept newest entry
first; `lines`, `count`, `gauges?` and `metrics` are the views of it.
-/

/-! ## Metrics

Counters with their labels, and the two gauges that show the pause. A counter's value is
the number of times it was bumped; a gauge shows what it was set to last, and nothing
before it was ever set.
-/

namespace Lookout.Journal

/-- How a tick ended, as counted. -/
inductive Outcome
  | fetched | skipped | failed | statusChanged
  deriving Repr, DecidableEq

/-- The name of an outcome in a label. -/
def Outcome.name : Outcome → String
  | .fetched => "fetched"
  | .skipped => "skipped"
  | .failed => "failed"
  | .statusChanged => "status_changed"

/-- Something that is counted. -/
inductive Counter
  | tick (poller : String) (outcome : Outcome)
  | statusChange (poller : String)
  | trigger
  | response (status : Nat)
  deriving Repr, DecidableEq

/-- The text of a metric: its name, then its labels in the order of their names. -/
def metricText (name : String) (labels : List (String × String)) : String :=
  if labels.isEmpty then name
  else name ++ "\x7b" ++ ",".intercalate (labels.map fun l => l.1 ++ "=" ++ l.2) ++ "\x7d"

/-- The text of a counter. -/
def Counter.text : Counter → String
  | .tick p o => metricText "poller_ticks_total" [("outcome", o.name), ("poller", p)]
  | .statusChange p => metricText "poller_status_changes_total" [("poller", p)]
  | .trigger => "poller_backoff_triggers_total"
  | .response s => metricText "poller_transport_responses_total" [("status", toString s)]

end Lookout.Journal

/-! ## Entries -/

namespace Lookout

open Journal

/-- One report. -/
inductive Journal.Entry
  | line (l : Line)
  | bump (c : Counter)
  | gauges (level : Nat) (paused : Bool)
  deriving Repr, DecidableEq

/-- All reports, newest first. -/
abbrev Journal := List Journal.Entry

namespace Journal

/-- The log line of an entry, if it is one. -/
def Entry.line? : Entry → Option Line
  | .line l => some l
  | _ => none

/-- The counter of an entry, if it bumps one. -/
def Entry.counter? : Entry → Option Counter
  | .bump c => some c
  | _ => none

/-- The gauge setting of an entry, if it is one. -/
def Entry.gauges? : Entry → Option (Nat × Bool)
  | .gauges level paused => some (level, paused)
  | _ => none

/-- The log, oldest line first. -/
def lines (j : Journal) : List Line := (j.filterMap Entry.line?).reverse

/-- How often a counter was bumped. -/
def count (j : Journal) (c : Counter) : Nat := (j.filterMap Entry.counter?).count c

/-- The level and the pause flag the gauges show, if they were ever set. -/
def gauges? (j : Journal) : Option (Nat × Bool) := (j.filterMap Entry.gauges?).head?

/-- The counters that were bumped, each once. -/
def counters (j : Journal) : List Counter := (j.filterMap Entry.counter?).eraseDups

/-- Every metric with its value. -/
def metrics (j : Journal) : List (String × Nat) :=
  let gauges := match gauges? j with
    | none => []
    | some (level, paused) =>
      [("poller_backoff_level", level), ("poller_paused", if paused then 1 else 0)]
  (counters j).map (fun c => (c.text, count j c)) ++ gauges

end Journal

end Lookout
