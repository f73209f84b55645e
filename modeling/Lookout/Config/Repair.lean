import Lookout.Config.Schema
import Lookout.Journal.Line
import Lookout.Text.Basic
import Lookout.Text.Quoted

set_option autoImplicit false

/-! # Repairing a configuration

Values that are out of range but have a default are replaced by it, and servers that
cannot be watched are dropped: those whose id is blank, and those whose name an earlier
server that is kept has already. Each replacement and each server dropped is reported as
a correction.
-/

namespace Lookout.Config

/-- Something that was replaced or dropped. -/
inductive Correction
  | zeroIdle | zeroActive | zeroWindow
  | unusableDelays (given : List Nat)
  | zeroTimeout
  | unknownLevel (given : String)
  | blankId (server : String)
  | repeatedName (server : String)
  deriving Repr, DecidableEq

namespace Correction

/-- The field a correction is about. -/
def field : Correction → String
  | zeroIdle => "polling.idle_interval_ms"
  | zeroActive => "polling.active_interval_ms"
  | zeroWindow => "polling.active_duration_ms"
  | unusableDelays _ => "backoff.delays_ms"
  | zeroTimeout => "transport.timeout_secs"
  | unknownLevel _ => "observability.log_level"
  | blankId _ => "servers.id"
  | repeatedName _ => "servers.name"

/-- The reason for replacing a zero. -/
def mustBePositive (default : Nat) : String := "must be positive, using " ++ toString default

/-- The reason for a correction. -/
def reason : Correction → String
  | zeroIdle => mustBePositive ({} : PollingSettings).idle
  | zeroActive => mustBePositive ({} : PollingSettings).active
  | zeroWindow => mustBePositive ({} : PollingSettings).window
  | unusableDelays given =>
    Text.bracketed (given.map toString)
      ++ " is not a non-empty, positive, non-decreasing schedule, using default"
  | zeroTimeout => mustBePositive ({} : TransportSettings).timeoutSecs
  | unknownLevel given => "unknown level " ++ Text.quoted given ++ ", using info"
  | blankId server => "server " ++ Text.quoted server ++ " has no id, ignoring"
  | repeatedName server => "duplicate server name " ++ Text.quoted server ++ ", ignoring"

/-- A correction as text. -/
def text (c : Correction) : String := c.field ++ ": " ++ c.reason

end Correction

/-- A value, or its default with a correction if it is zero. -/
def positive (value default : Nat) (correction : Correction) : Nat × List Correction :=
  if value = 0 then (default, [correction]) else (value, [])

/-- The delays, or the default ones with a correction if they are unusable. -/
def repairDelays (delays : List Nat) : List Nat × List Correction :=
  if Backoff.Usable delays then (delays, []) else (Backoff.defaultDelays, [.unusableDelays delays])

/-- A text with its ASCII capitals made small. -/
def lowered (s : String) : String := s.map Char.toLower

/-- A known log level in small letters, or the default one with a correction. -/
def repairLevel (level : String) : String × List Correction :=
  if (Journal.Level.ofName? (lowered level)).isSome then (lowered level, [])
  else (({} : ObservabilitySettings).logLevel, [.unknownLevel level])

/-- The servers that are kept, when those of the names in `seen` are kept already. -/
def repairServers : List String → List Server → List Server × List Correction
  | _, [] => ([], [])
  | seen, s :: rest =>
    if Text.isBlankText s.id then
      let (kept, corrections) := repairServers seen rest
      (kept, .blankId s.name :: corrections)
    else if s.name ∈ seen then
      let (kept, corrections) := repairServers seen rest
      (kept, .repeatedName s.name :: corrections)
    else
      let (kept, corrections) := repairServers (s.name :: seen) rest
      (s :: kept, corrections)

/-- The repaired configuration, and what was corrected, in the order of the fields. -/
def repair (c : Config) : Config × List Correction :=
  let (idle, c₁) := positive c.polling.idle ({} : PollingSettings).idle .zeroIdle
  let (active, c₂) := positive c.polling.active ({} : PollingSettings).active .zeroActive
  let (window, c₃) := positive c.polling.window ({} : PollingSettings).window .zeroWindow
  let (delays, c₄) := repairDelays c.delays
  let (timeout, c₅) :=
    positive c.transport.timeoutSecs ({} : TransportSettings).timeoutSecs .zeroTimeout
  let (level, c₆) := repairLevel c.observability.logLevel
  let (servers, c₇) := repairServers [] c.servers
  ({ c with
      polling := { idle := idle, active := active, window := window }
      delays := delays
      transport := { c.transport with timeoutSecs := timeout }
      observability := { c.observability with logLevel := level }
      servers := servers },
    c₁ ++ c₂ ++ c₃ ++ c₄ ++ c₅ ++ c₆ ++ c₇)

end Lookout.Config
