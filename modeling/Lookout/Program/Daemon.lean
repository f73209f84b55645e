import Lookout.Config.Load
import Lookout.Net.Listening
import Lookout.Program.Arguments
import Lookout.Service.Basic

set_option autoImplicit false

/-! # The daemon

A program that watches the servers of a configuration until it is told to stop. It loads
its configuration, says what was corrected and what it will do, serves metrics and the
admin interface if they are enabled, and starts a poller for each server. Metrics that
cannot be served are no reason to stop; an admin interface that cannot is one.
-/

namespace Lookout.Program.Daemon

open Backend (CallError Network)
open Config (Correction FileError LoadError)
open Journal (Level)
open Net (BindError SocketAddress)

/-! ## What it says -/

/-- Something the daemon says. -/
inductive Notice
  | starting
  | corrected (c : Correction)
  | loaded (baseUrl : String) (servers idle active : Nat)
  | metricsNotServed (e : BindError)
  | badMetricsAddress (address : String)
  | nothingToPoll
  | signalled
  | stopped
  deriving Repr, DecidableEq

namespace Notice

/-- The level of a notice. -/
def level : Notice → Level
  | starting | loaded .. | signalled | stopped => .info
  | corrected _ | nothingToPoll => .warn
  | metricsNotServed _ | badMetricsAddress _ => .error

/-- What a notice says. -/
def message : Notice → String
  | starting => "status-poller v0.1.0 starting"
  | corrected c => "Config value replaced: " ++ c.reason
  | loaded .. => "Configuration loaded"
  | metricsNotServed _ => "Failed to install metrics exporter"
  | badMetricsAddress _ => "Failed to parse metrics address"
  | nothingToPoll => "No servers configured; nothing to poll"
  | signalled => "Shutdown signal received"
  | stopped => "Shutdown complete"

/-- The fields of a notice. -/
def fields : Notice → List (String × String)
  | corrected c => [("field", Text.quoted c.field)]
  | loaded baseUrl servers idle active =>
    [("base_url", baseUrl), ("servers", toString servers), ("idle_interval_ms", toString idle),
      ("active_interval_ms", toString active)]
  | metricsNotServed e => [("error", "failed to create HTTP listener: " ++ e.text)]
  | badMetricsAddress address => [("metrics_address", address)]
  | starting | nothingToPoll | signalled | stopped => []

/-- A notice as it is written. -/
def text (n : Notice) : String := Journal.written n.level n.message n.fields

end Notice

/-- The notices that are written at a level: those at least as important. -/
def writtenAt (level : Level) (notices : List Notice) : List Notice :=
  notices.filter fun n => level.rank ≤ n.level.rank

/-! ## What it needs -/

/-- What the daemon finds on its machine. -/
structure Machine where
  /-- The contents of the file at a path. -/
  contents : String → Except FileError ByteArray
  /-- Where other servers listen. -/
  taken : List SocketAddress := []

/-- Why the daemon ends by itself. -/
inductive Failure
  | config (e : LoadError)
  | client (e : CallError)
  | admin (e : BindError)
  deriving Repr, DecidableEq

/-- The text that describes a failure. -/
def Failure.describe : Failure → String
  | config e => e.describe
  | client e => e.describe
  | admin e => e.describe

/-! ## The command line -/

/-- The arguments of the daemon. A path is not empty. -/
def grammar : Grammar where
  rules := [{ name := "config", letter := some 'c', accepts := fun path => path ≠ "" }]

/-- The path of the configuration, if one is given. -/
def readPath (words : List String) : Except Stop (Option String) :=
  (grammar.read words).map fun r => r.value? "config"

/-- How the program is used. -/
def usage : List String := ["Usage: lookout daemon [--config CONFIG]"]

/-! ## The program -/

/-- The configuration at a path, or the default one, with what was corrected. -/
def configure (m : Machine) : Option String → Except LoadError (Config × List Correction)
  | none => .ok ({}, [])
  | some path => Config.load path (m.contents path)

/-- What is said once the configuration is loaded. -/
def greeting (c : Config) (corrections : List Correction) : List Notice :=
  .starting :: corrections.map .corrected
    ++ [.loaded c.transport.baseUrl c.servers.length c.polling.idle c.polling.active]

/-- What is said about the metrics, and where they are served then. -/
def serveMetrics (m : Machine) (c : Config) : List Notice × List SocketAddress :=
  if c.observability.metricsEnabled then
    match SocketAddress.parse? c.observability.metricsAddress with
    | none => ([.badMetricsAddress c.observability.metricsAddress], [])
    | some address =>
      match Net.bind? m.taken address with
      | some e => ([.metricsNotServed e], [])
      | none => ([], [address])
  else ([], [])

/-- Why the admin interface cannot be served at the addresses that are left, if it is
enabled. -/
def adminFailure? (taken : List SocketAddress) (c : Config) : Option Failure :=
  if c.admin.enabled then
    ((SocketAddress.parse? c.admin.bindAddress).bind (Net.bind? taken)).map .admin
  else none

/-- A daemon that was started: what it said, and the service that runs unless it failed. -/
structure Started (ν : Type) where
  level : Level := .info
  notices : List Notice := []
  outcome : Except Failure (Service ν)

variable {ν : Type} [Network ν]

/-- Starts the service of a configuration. -/
def startService (m : Machine) (c : Config) (corrections : List Correction) (network : ν) :
    Started ν :=
  let (metrics, served) := serveMetrics m c
  let notices := greeting c corrections ++ metrics
  let level := (Level.ofName? c.observability.logLevel).getD .info
  match Service.make c network with
  | .error e => { level := level, notices := notices, outcome := .error (.client e) }
  | .ok s =>
    let notices := notices ++ if c.servers.isEmpty then [.nothingToPoll] else []
    let s := s.onFleet fun fleet => (List.range c.servers.length).foldl Polling.Fleet.start fleet
    match adminFailure? (served ++ m.taken) c with
    | some failure => { level := level, notices := notices, outcome := .error failure }
    | none => { level := level, notices := notices, outcome := .ok s }

/-- Starts the daemon. -/
def start (m : Machine) (path : Option String) (network : ν) : Started ν :=
  match configure m path with
  | .error e => { outcome := .error (.config e) }
  | .ok (c, corrections) => startService m c corrections network

/-- The lines a daemon has written to its log. -/
def Started.log (d : Started ν) : List String := (writtenAt d.level d.notices).map Notice.text

/-- The report of a daemon that ends by itself, or else is told to stop. -/
def Started.report (d : Started ν) : Report :=
  match d.outcome with
  | .error failure => (Report.failed failure.describe).after d.log []
  | .ok _ => { out := d.log ++ (writtenAt d.level [.signalled, .stopped]).map Notice.text }

/-- Runs the program with the words of its command line, until it is told to stop. -/
def run (words : List String) (m : Machine) (network : ν) : Report :=
  match readPath words with
  | .error stop => .stopped usage stop
  | .ok path => (start m path network).report

end Lookout.Program.Daemon
