import Lookout.Backoff.Delays
import Lookout.Config.Node
import Lookout.Polling.Cadence

set_option autoImplicit false

/-! # The configuration

What can be configured, with the default of everything, and how it is read from a tree.
A missing field or section takes its default; the name and the id of a server have none.
-/

namespace Lookout.Config

/-- How often servers are polled, in milliseconds. -/
structure PollingSettings where
  idle : Nat := 12000
  active : Nat := 2000
  window : Nat := 30000
  deriving Repr, DecidableEq

/-- How the backend is reached. -/
structure TransportSettings where
  baseUrl : String := "http://localhost:8080"
  timeoutSecs : Nat := 10
  statusPath : String := "/api/servers/\x7bid\x7d/status"
  startPath : String := "/api/servers/\x7bid\x7d/start"
  stopPath : String := "/api/servers/\x7bid\x7d/stop"
  sessionCookie : Option String := none
  deriving Repr, DecidableEq

/-- A server to watch. -/
structure Server where
  name : String
  id : String
  deriving Repr, DecidableEq

/-- Logging and metrics. -/
structure ObservabilitySettings where
  logLevel : String := "info"
  metricsEnabled : Bool := false
  metricsAddress : String := "127.0.0.1:9090"
  deriving Repr, DecidableEq

/-- The admin interface. -/
structure AdminSettings where
  enabled : Bool := false
  bindAddress : String := "127.0.0.1:8081"
  apiKey : Option String := none
  deriving Repr, DecidableEq

end Config

/-- A whole configuration. -/
structure Config where
  polling : Config.PollingSettings := {}
  /-- The delay after each of several overload signals in a row, in milliseconds. -/
  delays : List Nat := Backoff.defaultDelays
  transport : Config.TransportSettings := {}
  servers : List Config.Server := []
  observability : Config.ObservabilitySettings := {}
  admin : Config.AdminSettings := {}
  deriving Repr, DecidableEq

namespace Config

/-- The cadence of polling settings. -/
def PollingSettings.cadence (p : PollingSettings) : Polling.Cadence :=
  .ofMillis p.idle p.active p.window

/-! ## Reading -/

open Node

/-- Polling settings from a tree. -/
def PollingSettings.ofNode? (n : Node) : Option PollingSettings := do
  let default : PollingSettings := {}
  match ← n.fields? ["idle_interval_ms", "active_interval_ms", "active_duration_ms"] with
  | [idle, active, window] =>
    some {
      idle := ← or? default.idle nat? idle
      active := ← or? default.active nat? active
      window := ← or? default.window nat? window }
  | _ => none

/-- A delay schedule from a tree. -/
def delaysOfNode? (n : Node) : Option (List Nat) := do
  match ← n.fields? ["delays_ms"] with
  | [delays] => or? Backoff.defaultDelays (listOf? nat?) delays
  | _ => none

/-- Transport settings from a tree. -/
def TransportSettings.ofNode? (n : Node) : Option TransportSettings := do
  let default : TransportSettings := {}
  match ← n.fields? ["base_url", "timeout_secs", "status_path", "start_path", "stop_path",
      "session_cookie"] with
  | [url, timeout, status, start, stop, cookie] =>
    some {
      baseUrl := ← or? default.baseUrl text? url
      timeoutSecs := ← or? default.timeoutSecs nat? timeout
      statusPath := ← or? default.statusPath text? status
      startPath := ← or? default.startPath text? start
      stopPath := ← or? default.stopPath text? stop
      sessionCookie := ← or? default.sessionCookie optional? cookie }
  | _ => none

/-- A server from a tree. -/
def Server.ofNode? (n : Node) : Option Server := do
  match ← n.fields? ["name", "id"] with
  | [some name, some id] => some { name := ← text? name, id := ← text? id }
  | _ => none

/-- Logging and metrics settings from a tree. -/
def ObservabilitySettings.ofNode? (n : Node) : Option ObservabilitySettings := do
  let default : ObservabilitySettings := {}
  match ← n.fields? ["log_level", "metrics_enabled", "metrics_address"] with
  | [level, enabled, address] =>
    some {
      logLevel := ← or? default.logLevel text? level
      metricsEnabled := ← or? default.metricsEnabled boolean? enabled
      metricsAddress := ← or? default.metricsAddress text? address }
  | _ => none

/-- Admin settings from a tree. -/
def AdminSettings.ofNode? (n : Node) : Option AdminSettings := do
  let default : AdminSettings := {}
  match ← n.fields? ["enabled", "bind_address", "api_key"] with
  | [enabled, address, key] =>
    some {
      enabled := ← or? default.enabled boolean? enabled
      bindAddress := ← or? default.bindAddress text? address
      apiKey := ← or? default.apiKey optional? key }
  | _ => none

/-- A configuration from a tree, or `none` if the tree does not have its shape. -/
def ofNode? (n : Node) : Option Config := do
  match ← n.fields? ["polling", "backoff", "transport", "servers", "observability", "admin"] with
  | [polling, backoff, transport, servers, observability, admin] =>
    some {
      polling := ← or? {} PollingSettings.ofNode? polling
      delays := ← or? Backoff.defaultDelays delaysOfNode? backoff
      transport := ← or? {} TransportSettings.ofNode? transport
      servers := ← or? [] (listOf? Server.ofNode?) servers
      observability := ← or? {} ObservabilitySettings.ofNode? observability
      admin := ← or? {} AdminSettings.ofNode? admin }
  | _ => none

/-! ## Writing -/

/-- A configuration as JSON. -/
def toJson (c : Config) : Json :=
  .obj [
    ("polling", .obj [("idle_interval_ms", .nat c.polling.idle),
      ("active_interval_ms", .nat c.polling.active),
      ("active_duration_ms", .nat c.polling.window)]),
    ("backoff", .obj [("delays_ms", .arr (c.delays.map .nat))]),
    ("transport", .obj [("base_url", .str c.transport.baseUrl),
      ("timeout_secs", .nat c.transport.timeoutSecs),
      ("status_path", .str c.transport.statusPath),
      ("start_path", .str c.transport.startPath),
      ("stop_path", .str c.transport.stopPath),
      ("session_cookie", .optStr c.transport.sessionCookie)]),
    ("servers", .arr (c.servers.map fun s => .obj [("name", .str s.name), ("id", .str s.id)])),
    ("observability", .obj [("log_level", .str c.observability.logLevel),
      ("metrics_enabled", .bool c.observability.metricsEnabled),
      ("metrics_address", .str c.observability.metricsAddress)]),
    ("admin", .obj [("enabled", .bool c.admin.enabled),
      ("bind_address", .str c.admin.bindAddress),
      ("api_key", .optStr c.admin.apiKey)])]

end Config

end Lookout
