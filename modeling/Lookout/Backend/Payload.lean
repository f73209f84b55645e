import Lookout.Config.Node
import Lookout.Json.Record
import Lookout.Polling.Fetch

set_option autoImplicit false

/-! # Payloads

What the backend sends in the bodies of its answers: the status of a server, the outcome
of an action, or an error. A body is JSON of the payload's shape; fields it does not know
are ignored, but one that it knows must not come twice.
-/

namespace Lookout.Backend

open Config (Node)

/-- The status of a server. -/
structure ServerStatus where
  status : String
  deriving Repr, DecidableEq

instance : Polling.HasStatus ServerStatus := ⟨fun s => Polling.nonEmpty s.status⟩

/-- The outcome of an action on a server. -/
structure ActionOutcome where
  message : String
  serverId : Option String := none
  deriving Repr, DecidableEq

/-- An error the backend tells. -/
structure Refusal where
  error : String
  deriving Repr, DecidableEq

/-- Payloads that can be read from a tree. -/
class Payload (α : Type) where
  /-- The fields a payload knows. -/
  fields : List String
  /-- The payload of a tree. -/
  ofNode? : Node → Option α

instance : Payload ServerStatus where
  fields := ["status"]
  ofNode? n := do
    match ← n.fields? ["status"] with
    | [some s] => some { status := ← s.text? }
    | _ => none

instance : Payload ActionOutcome where
  fields := ["message", "server_id"]
  ofNode? n := do
    match ← n.fields? ["message", "server_id"] with
    | [some m, id] =>
      some { message := ← m.text?, serverId := ← Node.or? none Node.optional? id }
    | _ => none

instance : Payload Refusal where
  fields := ["error"]
  ofNode? n := do
    match ← n.fields? ["error"] with
    | [some e] => some { error := ← e.text? }
    | _ => none

/-- Whether one of some names is the name of two fields of an object. -/
def repeats (names : List String) : Json → Bool
  | .obj fields => names.any fun name => 1 < fields.countP fun f => f.1 = name
  | _ => false

/-- The payload of a body. -/
def decode? {α : Type} [Payload α] (body : String) : Option α :=
  match Json.readRecord? (Payload.fields α) body with
  | none => none
  | some j =>
    if repeats (Payload.fields α) j then none else Payload.ofNode? (Node.ofJson j.normal)

/-- The status of a server as JSON. -/
def ServerStatus.toJson (s : ServerStatus) : Json := .obj [("status", .str s.status)]

/-- The outcome of an action as JSON. -/
def ActionOutcome.toJson (a : ActionOutcome) : Json :=
  .obj [("message", .str a.message), ("server_id", .optStr a.serverId)]

end Lookout.Backend
