import Lookout.Journal.Basic

set_option autoImplicit false

/-! # Modes and tick events

The three modes of a poller, and what its listeners hear of each tick. A listener has
room for `capacity` unread events; what does not fit is lost, the oldest first, and the
listener is told how much. Records of what happened are kept newest first; `since` gives
what is new in one.
-/

namespace Lookout.Polling

/-- What a poller is doing. -/
inductive Mode
  | stopped | idle | active
  deriving Repr, DecidableEq, Inhabited

namespace Mode

/-- Whether ticks happen. -/
def isPolling : Mode → Bool
  | stopped => false
  | idle => true
  | active => true

/-- Whether ticks happen at the active period. -/
def isActive : Mode → Bool
  | stopped => false
  | idle => false
  | active => true

/-- The mode's name. -/
def name : Mode → String
  | stopped => "stopped"
  | idle => "idle"
  | active => "active"

/-- The mode's name in a description. -/
def title : Mode → String
  | stopped => "Stopped"
  | idle => "Idle"
  | active => "Active"

end Mode

/-- What listeners hear of a tick. -/
inductive TickEvent
  /-- The gate was paused; nothing was fetched. -/
  | skipped
  /-- A fetch succeeded, with this status. -/
  | fetched (status : Option String)
  /-- The status differs from the one before. -/
  | statusChanged (current previous : String)
  /-- A fetch failed. -/
  | failed (error : String)
  deriving Repr, DecidableEq

/-- What an event is counted as. -/
def TickEvent.outcome : TickEvent → Journal.Outcome
  | skipped => .skipped
  | fetched _ => .fetched
  | statusChanged .. => .statusChanged
  | failed _ => .failed

/-- What was put in front of a list since an earlier, shorter one, in order of time. -/
def since {α : Type} (list earlier : List α) : List α :=
  (list.take (list.length - earlier.length)).reverse

/-- How many unread events a listener has room for. -/
def capacity : Nat := 64

/-- What a listener reads: how many events it lost, and those it still has. -/
structure Heard where
  lost : Nat
  events : List TickEvent
  deriving Repr, DecidableEq

/-- What a listener reads of unread events, oldest first. -/
def Heard.ofUnread (unread : List TickEvent) : Heard :=
  let lost := unread.length - capacity
  ⟨lost, unread.drop lost⟩

end Lookout.Polling
