import Lookout.Admin.Request
import Lookout.Text.Percent

set_option autoImplicit false

/-! # Routes

The places of the admin interface, and the methods each of them knows. A path is cut at its
slashes. The name of a poller is one segment, possibly empty, and is percent-decoded only
after the path was cut, so that a name may hold a slash.
-/

namespace Lookout.Admin

/-- A place of the admin interface. -/
inductive Route
  | backoff
  | resume
  | pollers
  | activate (segment : List Char)
  | poll (segment : List Char)
  deriving Repr, DecidableEq

/-- The parts of a text between its slashes. -/
def segments : List Char → List (List Char)
  | [] => [[]]
  | c :: rest =>
    if c = '/' then [] :: segments rest
    else
      match segments rest with
      | [] => [[c]]
      | s :: more => (c :: s) :: more

namespace Route

/-- The route of the segments of a path. -/
def ofSegments? : List (List Char) → Option Route
  | [root, area, place] =>
    if root ≠ [] ∨ area ≠ "admin".toList then none
    else if place = "backoff".toList then some .backoff
    else if place = "pollers".toList then some .pollers
    else none
  | [root, area, place, action] =>
    if root ≠ [] ∨ area ≠ "admin".toList ∨ place ≠ "backoff".toList then none
    else if action = "resume".toList then some .resume
    else none
  | [root, area, place, name, action] =>
    if root ≠ [] ∨ area ≠ "admin".toList ∨ place ≠ "pollers".toList then none
    else if action = "active".toList then some (.activate name)
    else if action = "poll".toList then some (.poll name)
    else none
  | _ => none

/-- The route of a path. -/
def ofPath? (path : String) : Option Route := ofSegments? (segments path.toList)

example : ofPath? "/admin/pollers/a%2Fb/poll" = some (.poll "a%2Fb".toList) := by decide +kernel

example : ofPath? "/admin/pollers//active" = some (.activate []) := by decide +kernel

example : ofPath? "/admin/pollers/" = none := by decide +kernel

/-- Whether a method is known at a route. Where something can be read, its head can be read
too. -/
def allows : Route → Method → Bool
  | backoff, .get | backoff, .head | pollers, .get | pollers, .head => true
  | resume, .post | activate _, .post | poll _, .post => true
  | _, _ => false

end Route

end Lookout.Admin
