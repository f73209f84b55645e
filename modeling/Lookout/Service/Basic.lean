import Lookout.Backend.Uplink
import Lookout.Polling.Fleet

set_option autoImplicit false

/-! # The service

Everything a configuration asks for, wired up: one gate, one client that reports to it, and
a poller for each server that asks through the client and withholds its ticks while the
gate is paused. A change of a server's status is logged under the server's name.
-/

namespace Lookout

open Backend (CallError Client Network Payload ServerStatus Uplink)
open Polling (Fleet Poller)

/-- A service: its pollers, with the gate, the clock and the uplink they share. -/
structure Service (ν : Type) where
  fleet : Fleet (Uplink ν)
  /-- What the admin interface has to be shown, if anything. -/
  apiKey : Option String := none

namespace Service

variable {ν : Type}

/-- The poller of a server. -/
def pollerOf (cadence : Polling.Cadence) (server : Config.Server) : Poller where
  name := server.name
  cadence := cadence
  callback := some [.announce server.name]

/-- The service of a configuration, if the backend can be addressed. -/
def make (c : Config) (network : ν) : Except CallError (Service ν) := do
  let client ← Client.make c.transport
  let (gate, entries) := Backoff.Gate.make c.delays
  return {
    fleet := {
      gate := gate
      pollers := c.servers.map (pollerOf c.polling.cadence)
      source := { client := client, servers := c.servers, network := network }
      journal := entries }
    apiKey := c.admin.apiKey }

/-- Changes the fleet. -/
def onFleet (s : Service ν) (f : Fleet (Uplink ν) → Fleet (Uplink ν)) : Service ν :=
  { s with fleet := f s.fleet }

variable [Network ν]

/-- Poller `i` fetches out of turn, whether or not the gate is paused, and the result is
waited for. The poller itself takes no notice of it. -/
def pollNow (s : Service ν) (i : Nat) : Service ν × Except CallError ServerStatus :=
  let (f, fleet) := s.fleet.callFetch i
  ({ s with fleet := fleet.await f }, (s.fleet.source.status i).1.result)

/-- An endpoint is asked about a server, and the result is waited for. -/
def call {α : Type} [Payload α] (s : Service ν) (e : Config.Endpoint) (id : String) :
    Service ν × Except CallError α :=
  let (call, source) := s.fleet.source.call e id
  let f := { duration := call.duration, effects := call.effects, result := .ok none }
  ({ s with fleet := ({ s.fleet with source := source }).await f }, call.result)

end Service

end Lookout
