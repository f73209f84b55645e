import Lookout.Backoff.Gate
import Lookout.Json.Basic

set_option autoImplicit false

/-! # Fetches

What one call of a fetch operation comes to: how long it takes, what it does to the gate
and the journal when it completes, and its result. Where fetches come from is left open:
a `FetchSource` is any world that answers the calls of numbered pollers, and changes by
answering them.
-/

namespace Lookout.Polling

open Backoff (Signal)
open Journal (Entry)

/-- Something a fetch does when it completes, before its result is handed over. -/
inductive Effect
  | signal (s : Signal)
  | report (e : Entry)
  deriving Repr, DecidableEq

/-- One call of a fetch operation. -/
structure Fetch where
  /-- Milliseconds until it completes. -/
  duration : Nat := 0
  effects : List Effect := []
  /-- The text of its error, or the status its result carries, if any. -/
  result : Except String (Option String)

/-- A world that answers fetches. -/
class FetchSource (ω : Type) where
  /-- The poller of this number calls its fetch operation. -/
  fetch : ω → Nat → Fetch × ω

/-! ## Statuses

The status that the result of a fetch carries. A text is its own status, and an object
shows it in its `status` field; a status that is no text is written as JSON, in which the
order of fields does not matter. There is no empty status.
-/

/-- A text as a status, unless it is empty. -/
def nonEmpty (s : String) : Option String := if s = "" then none else some s

/-- Results that may carry a status. -/
class HasStatus (α : Type) where
  /-- The status a result carries. -/
  status : α → Option String

export HasStatus (status)

instance : HasStatus String := ⟨nonEmpty⟩

/-- The status of a JSON value. -/
def jsonStatus : Json → Option String
  | .str s => nonEmpty s
  | .obj fields =>
    match Json.lastField? "status" fields with
    | none => none
    | some .null => none
    | some (.str s) => nonEmpty s
    | some other => some other.normal.compact
  | _ => none

instance : HasStatus Json := ⟨jsonStatus⟩

instance {α : Type} [HasStatus α] : HasStatus (Option α) := ⟨fun x => x.bind status⟩

/-! ## Scripted fetches

A source of fetches that follows a script: each poller has a list of replies, one for
each call of its fetch operation, the last of which repeats. A reply says what the call
comes to, how long it takes, and what it tells the gate just before it completes.
-/

/-- What one call of a scripted fetch operation comes to. -/
structure Reply where
  answer : Except String Json := .ok .null
  delay : Nat := 0
  signal : Option Signal := none

/-- The fetch of a reply. -/
def Reply.fetch (r : Reply) : Fetch where
  duration := r.delay
  effects := (r.signal.map Effect.signal).toList
  result := r.answer.map status

/-- The next reply of a list and the list after it. -/
def nextReply : List Reply → Reply × List Reply
  | [] => ({}, [])
  | [r] => (r, [r])
  | r :: rest => (r, rest)

/-- The replies each poller has left. -/
structure Scripts where
  replies : List (List Reply)

/-- The reply poller `i` gets next. -/
def Scripts.reply (s : Scripts) (i : Nat) : Reply := (nextReply (s.replies.getD i [])).1

instance : FetchSource Scripts where
  fetch s i := ((s.reply i).fetch, ⟨s.replies.modify i fun rs => (nextReply rs).2⟩)

end Lookout.Polling
