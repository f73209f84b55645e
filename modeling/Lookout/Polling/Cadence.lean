import Lookout.Text.Basic

set_option autoImplicit false

/-! # Cadences

How often a poller polls: its period while idle, its period while active, and how long it
stays active. All three are positive; a zero is answered with the default.
-/

namespace Lookout.Polling

/-- The given number of milliseconds, or the default if it is zero. -/
def orDefault (ms default : Nat) : Nat := if ms = 0 then default else ms

theorem orDefault_pos {ms default : Nat} (h : 0 < default) : 0 < orDefault ms default := by
  unfold orDefault
  split
  · exact h
  · omega

/-- A poller's periods, in milliseconds. -/
structure Cadence where
  /-- The time between two ticks while idle. -/
  idle : Nat := 12000
  /-- The time between two ticks while active. -/
  active : Nat := 2000
  /-- How long a poller stays active. -/
  window : Nat := 30000
  idle_pos : 0 < idle := by decide
  active_pos : 0 < active := by decide
  window_pos : 0 < window := by decide
  deriving DecidableEq

namespace Cadence

/-- The default cadence. -/
def standard : Cadence := {}

instance : Inhabited Cadence := ⟨standard⟩

/-- The cadence of three numbers of milliseconds, each zero replaced by its default. -/
def ofMillis (idle active window : Nat) : Cadence where
  idle := orDefault idle standard.idle
  active := orDefault active standard.active
  window := orDefault window standard.window
  idle_pos := orDefault_pos (by decide)
  active_pos := orDefault_pos (by decide)
  window_pos := orDefault_pos (by decide)

/-- The text that describes a cadence. -/
def describe (c : Cadence) : String :=
  "PollingConfig \x7b idle_interval: " ++ Text.span c.idle
    ++ ", active_interval: " ++ Text.span c.active
    ++ ", active_duration: " ++ Text.span c.window ++ " \x7d"

end Cadence

end Lookout.Polling
