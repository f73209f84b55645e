import Mathlib.Logic.Function.Basic
import Lookout.Backoff.Gate
import Lookout.Polling.Event
import Lookout.Proofs.Polling.Entries

set_option autoImplicit false

/-! # Reading the log

A `Record` is what a reader of the log knows: the modes of the pollers, by name, and whether
and at what level the gate holds off. It begins with every poller stopped and the gate open,
and `Record.read` says what one line adds to it. The reader asks nothing but the log.

`Record.Fits` says when a line may stand in the log: an end of a window where one is open, a
level where that is the level read so far. A line that fits tells the reader something new,
except for a few that `Record.same_iff` names. `Record.Reads` is reading a log in which every
line fits.
-/

namespace Lookout

open Journal (Entry Line)

/-! ## The log -/

namespace Journal

/-- The log of newer entries comes after that of older ones. -/
theorem lines_append (newer older : List Entry) :
    lines (newer ++ older) = lines older ++ lines newer := by
  rw [lines, List.filterMap_append, List.reverse_append]
  rfl

/-- A line that is written by neither a poller nor a gate at work: it is about something else,
or complains about the schedule a gate was made with. -/
def Line.Aside (l : Line) : Prop := l.subject = .other ∨ ∃ delays, l = .invalidSchedule delays

end Journal

namespace Polling

open Backoff (maxLevel)

/-! ## Reading the log -/

/-- What a reader of the log knows. -/
structure Record where
  /-- What the poller of a name has shown. -/
  modes : String → Watch Mode := fun _ => { initial := .stopped }
  /-- What the gate has shown: whether it is paused, and the level. -/
  pause : Watch (Bool × Nat) := { initial := (false, 0) }

namespace Record

variable (r : Record)

/-- The mode of the poller of a name. -/
def mode (name : String) : Mode := (r.modes name).value

/-- Whether the gate is paused. -/
def paused : Bool := r.pause.value.1

/-- The level of the gate. -/
def level : Nat := r.pause.value.2

/-- The record with another history of the poller of a name. -/
def put (name : String) (board : Watch Mode) : Record :=
  { r with modes := Function.update r.modes name board }

/-- A poller has come into a mode. -/
def enter (name : String) (m : Mode) : Record := r.put name ((r.modes name).publishChange m)

/-- The gate has come to a pause flag and a level. -/
def hold (paused : Bool) (level : Nat) : Record :=
  { r with pause := r.pause.publish (paused, level) }

/-- What one line adds. -/
def read : Line → Record
  | .pollingStarted name _ | .returnedToIdle name => r.enter name .idle
  | .enteredActive name .. => r.enter name .active
  | .pollingStopped name => r.enter name .stopped
  | .rateLimited _ level => r.hold true (min (level + 1) maxLevel)
  | .levelReset _ => r.hold r.paused 0
  | .backoffEnded _ => r.hold false r.level
  | .forceResumed => r.hold false 0
  | .invalidSchedule _ | .pollSkipped _ | .pollFailed .. | .staleResult .. | .statusChanged ..
  | .windowElapsed _ | .serverChanged .. | .requestRefused .. | .adminRejected _ => r

/-- When a line may stand in the log. -/
def Fits : Line → Prop
  | .pollingStarted name _ => r.mode name = .stopped
  | .enteredActive name .. | .pollingStopped name => r.mode name ≠ .stopped
  | .windowElapsed name | .returnedToIdle name => r.mode name = .active
  | .pollSkipped name => r.mode name ≠ .stopped ∧ r.paused = true
  | .rateLimited _ level => level = r.level
  | .levelReset level => level = r.level ∧ 0 < level
  | .backoffEnded level => level = r.level ∧ r.paused = true
  | .invalidSchedule _ | .forceResumed | .pollFailed .. | .staleResult .. | .statusChanged ..
  | .serverChanged .. | .requestRefused .. | .adminRejected _ => True

/-- What is so according to the record. -/
def shown : (String → Mode) × Bool × Nat := (r.mode, r.paused, r.level)

/-- The lines that say nothing new: a window is opened anew, a pause is lifted where there is
none and no level, an overload signal comes during a pause at the highest level; and all lines
that say nothing of modes or the pause. -/
def Stays : Line → Prop
  | .enteredActive name .. => r.mode name = .active
  | .forceResumed => r.paused = false ∧ r.level = 0
  | .rateLimited .. => r.paused = true ∧ r.level = maxLevel
  | .pollingStarted .. | .returnedToIdle _ | .pollingStopped _ | .levelReset _
  | .backoffEnded _ => False
  | .invalidSchedule _ | .pollSkipped _ | .pollFailed .. | .staleResult .. | .statusChanged ..
  | .windowElapsed _ | .serverChanged .. | .requestRefused .. | .adminRejected _ => True

/-- The record that a log makes, its oldest line first. -/
def ofLog (log : List Line) : Record := log.foldl read {}

theorem mode_put (name other : String) (board : Watch Mode) :
    (r.put name board).mode other = if other = name then board.value else r.mode other := by
  by_cases h : other = name
  · subst h
    simp [mode, put]
  · simp [mode, put, h]

theorem modes_put_self (name : String) (board : Watch Mode) :
    (r.put name board).modes name = board := by
  simp [put]

theorem modes_put_of_ne {name other : String} (h : other ≠ name) (board : Watch Mode) :
    (r.put name board).modes other = r.modes other := by
  simp [put, h]

theorem put_put (name : String) (board board' : Watch Mode) :
    (r.put name board).put name board' = r.put name board' := by
  simp [put]

variable {r}

theorem put_self {name : String} {board : Watch Mode} (h : r.modes name = board) :
    r.put name board = r := by
  subst h
  simp [put]

/-- A poller that comes into a mode is in another mode than before, or in the same. -/
theorem shown_enter_iff (name : String) (m : Mode) :
    (r.enter name m).shown = r.shown ↔ r.mode name = m := by
  have hModes : (r.enter name m).mode = r.mode ↔ r.mode name = m := by
    constructor
    · intro h
      rw [← h, enter, mode_put, if_pos rfl, Watch.value_publishChange]
    · intro h
      funext other
      rw [enter, mode_put]
      split
      next hSame => rw [hSame, Watch.value_publishChange, h]
      next => rfl
  rw [← hModes]
  exact ⟨fun h => congrArg Prod.fst h, fun h => Prod.ext h rfl⟩

theorem shown_hold_iff (paused : Bool) (level : Nat) :
    (r.hold paused level).shown = r.shown ↔ paused = r.paused ∧ level = r.level := by
  constructor
  · intro h
    have hPause : (paused, level) = (r.paused, r.level) := congrArg Prod.snd h
    exact Prod.mk.inj hPause
  · rintro ⟨rfl, rfl⟩
    rfl

/-- **The lines without a change** among those that fit are the ones that say nothing new. -/
theorem same_iff {l : Line} (h : r.Fits l) : (r.read l).shown = r.shown ↔ r.Stays l := by
  cases l with
  | pollingStarted name idle =>
      rw [read, shown_enter_iff, show r.mode name = .stopped from h]
      simp [Stays]
  | returnedToIdle name =>
      rw [read, shown_enter_iff, show r.mode name = .active from h]
      simp [Stays]
  | enteredActive name active window => exact shown_enter_iff name .active
  | pollingStopped name =>
      rw [read, shown_enter_iff]
      exact iff_of_false h id
  | rateLimited delay level =>
      obtain rfl : level = r.level := h
      rw [read, shown_hold_iff, Stays, maxLevel]
      grind
  | levelReset level =>
      obtain ⟨rfl, hPos⟩ : level = r.level ∧ 0 < level := h
      rw [read, shown_hold_iff]
      exact iff_of_false (fun hSame => by omega) id
  | backoffEnded level =>
      rw [read, shown_hold_iff, show r.paused = true from h.2]
      simp [Stays]
  | forceResumed =>
      rw [read, shown_hold_iff, Stays, eq_comm (a := false), eq_comm (a := 0)]
  | invalidSchedule delays => exact iff_of_true rfl trivial
  | pollSkipped name => exact iff_of_true rfl trivial
  | pollFailed name error => exact iff_of_true rfl trivial
  | staleResult name seq => exact iff_of_true rfl trivial
  | statusChanged name previous current => exact iff_of_true rfl trivial
  | windowElapsed name => exact iff_of_true rfl trivial
  | serverChanged server previous current => exact iff_of_true rfl trivial
  | requestRefused status message => exact iff_of_true rfl trivial
  | adminRejected path => exact iff_of_true rfl trivial

/-! ### Lines that fit -/

/-- Reading lines, the oldest first, each of which fits, leads from one record to another. -/
inductive Reads : Record → List Line → Record → Prop
  | nil (r : Record) : Reads r [] r
  | cons {r r' : Record} {l : Line} {rest : List Line} (fits : r.Fits l)
      (reads : Reads (r.read l) rest r') : Reads r (l :: rest) r'

theorem Reads.append {r₁ r₂ r₃ : Record} {l l' : List Line} (h : Reads r₁ l r₂)
    (h' : Reads r₂ l' r₃) : Reads r₁ (l ++ l') r₃ := by
  induction h with
  | nil => exact h'
  | cons hFits _ ih => exact .cons hFits (ih h')

theorem Reads.one {l : Line} (h : r.Fits l) : Reads r [l] (r.read l) := .cons h (.nil _)

theorem Reads.eq {r' : Record} {log : List Line} (h : Reads r log r') :
    log.foldl read r = r' := by
  induction h with
  | nil => rfl
  | cons _ _ ih => exact ih

/-- Each line fits where it stands. -/
theorem Reads.fits {r' : Record} {before after : List Line} {l : Line}
    (h : Reads r (before ++ l :: after) r') : (before.foldl read r).Fits l := by
  induction before generalizing r with
  | nil =>
      cases h with
      | cons hFits _ => exact hFits
  | cons x before ih =>
      cases h with
      | cons _ hRest => exact ih hRest

/-- What others write says nothing. -/
theorem Reads.aside {log : List Line} (h : ∀ l ∈ log, l.Aside) : Reads r log r := by
  induction log with
  | nil => exact .nil r
  | cons l rest ih =>
      have hRest := ih fun x hx => h x (List.mem_cons_of_mem l hx)
      have hNothing : r.Fits l ∧ r.read l = r := by
        rcases h l List.mem_cons_self with hOther | ⟨delays, rfl⟩
        · cases l <;> first | exact ⟨trivial, rfl⟩ | cases hOther
        · exact ⟨trivial, rfl⟩
      exact .cons hNothing.1 (hNothing.2.symm ▸ hRest)

end Record

end Polling

end Lookout
