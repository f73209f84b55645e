import Lookout.Watch

set_option autoImplicit false

/-! # Shutdown

A shutdown is announced once and heard by every listener, also by one that begins to
listen afterwards. The announcement is a watched value, and each listener remembers the
publication it saw last. A wait begins with a look at the value: it is over if the shutdown
has been announced, or if nobody can announce it any more because its owner is gone.
Otherwise the listener sleeps. It looks again when there is a publication it has not seen,
or when the owner is gone, and not before.

Listeners are kept under names; a new one takes the place of the listener of its name.
-/

namespace Lookout

/-- Someone who listens for a shutdown. -/
structure Listener where
  name : String
  /-- The version of the announcement it saw last. -/
  seen : Nat
  /-- Whether it sleeps on a wait that was not over when it looked last. -/
  asleep : Bool := false
  deriving Repr, DecidableEq

/-- The announcement of a shutdown and those who listen for it. -/
structure Shutdown where
  announcement : Watch Bool := { initial := false }
  /-- Whether the one who can announce it is still there. -/
  owned : Bool := true
  /-- The listeners, each of a name of its own. -/
  listeners : List Listener := []
  deriving Repr, DecidableEq

namespace Shutdown

/-- What can happen to a shutdown. -/
inductive Command
  | subscribe (name : String)
  | clone (name source : String)
  | drop (name : String)
  /-- A listener begins a wait. -/
  | wait (name : String)
  /-- The wait that a listener sleeps on is asked whether it is over. -/
  | poll (name : String)
  | trigger
  | disown
  deriving Repr, DecidableEq

/-- Whether the shutdown has been announced. -/
def triggered (s : Shutdown) : Bool := s.announcement.value

/-- The listener of a name. -/
def listener? (s : Shutdown) (name : String) : Option Listener :=
  s.listeners.find? fun l => l.name == name

/-- Adds a listener, in the place of the one of its name. -/
def keep (s : Shutdown) (l : Listener) : Shutdown :=
  { s with listeners := l :: s.listeners.filter fun x => x.name != l.name }

/-- Whether a wait is over for a listener that looks now. -/
def resolved (s : Shutdown) : Bool := s.triggered || !s.owned

/-- A listener looks, and sleeps if its wait is not over. -/
def look (s : Shutdown) (l : Listener) : Shutdown × Option Bool :=
  (s.keep { l with seen := s.announcement.version, asleep := !s.resolved }, some s.resolved)

/-- Whether something has happened that wakes a listener. -/
def wakes (s : Shutdown) (l : Listener) : Bool :=
  l.seen != s.announcement.version || !s.owned

/-- Does a command; a wait is answered with whether it is over. What concerns a listener
that is not there, a wait that is not under way, or an owner that is gone, does nothing. -/
def perform (s : Shutdown) : Command → Shutdown × Option Bool
  | .subscribe name =>
    (if s.owned then s.keep { name := name, seen := s.announcement.version } else s, none)
  | .clone name source =>
    match s.listener? source with
    | none => (s, none)
    | some l => (s.keep { name := name, seen := l.seen }, none)
  | .drop name => ({ s with listeners := s.listeners.filter fun l => l.name != name }, none)
  | .wait name =>
    match s.listener? name with
    | none => (s, none)
    | some l => s.look l
  | .poll name =>
    match s.listener? name with
    | none => (s, none)
    | some l => if l.asleep then if s.wakes l then s.look l else (s, some false) else (s, none)
  | .trigger =>
    (if s.owned then { s with announcement := s.announcement.publish true } else s, none)
  | .disown => ({ s with owned := false }, none)

/-- The states after each command of a list, with the answers. -/
def session (s : Shutdown) : List Command → List (Shutdown × Option Bool)
  | [] => []
  | c :: rest => s.perform c :: session (s.perform c).1 rest

end Shutdown

end Lookout
