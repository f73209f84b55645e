import Lookout.Backend.Client

set_option autoImplicit false

/-! # The uplink

Where the pollers of a service get their fetches from: poller `i` asks the backend, through
the one client they share, for the status of the `i`-th server.
-/

namespace Lookout.Backend

open Polling (Fetch FetchSource status)

/-- The fetch that a call for a status is. -/
def Call.fetch (c : Call ServerStatus) : Fetch where
  duration := c.duration
  effects := c.effects
  result := (c.result.map status).mapError CallError.text

/-- A client with a network, and the servers it is asked about. -/
structure Uplink (ν : Type) where
  client : Client
  servers : List Config.Server
  network : ν

namespace Uplink

variable {ν : Type} [Network ν]

/-- Asks an endpoint about a server. -/
def call {α : Type} [Payload α] (u : Uplink ν) (e : Config.Endpoint) (id : String) :
    Call α × Uplink ν :=
  let (call, network) := u.client.call e id u.network
  (call, { u with network := network })

/-- Asks for the status of the server of poller `i`. -/
def status (u : Uplink ν) (i : Nat) : Call ServerStatus × Uplink ν :=
  u.call .status ((u.servers[i]?.map Config.Server.id).getD "")

instance : FetchSource (Uplink ν) where
  fetch u i := ((u.status i).1.fetch, (u.status i).2)

end Uplink

end Lookout.Backend
