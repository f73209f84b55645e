import Lookout.Proofs.Polling.Machine

set_option autoImplicit false

/-! # A poller with a past

A poller that was stopped differs from one that has just been built in its counters and in
what it did before. `Past.join` says how: it takes a new poller and gives what the old one
would be in its place, with all numbers going on from those of the old one and all records
put on top of the old ones. The numbers are private. What is seen of a poller is its mode,
its status and what it adds to its records, and these are the same.

Every small change of a poller commutes with `join` (`Past.Natural`), so a poller with a past
does what a new one does.
-/

namespace Lookout

namespace Timers

variable {α : Type}

/-- A timer whose handle comes `made` later, for an action that is renamed. -/
def shiftOne (made : Nat) (f : α → α) (t : Timer α) : Timer α :=
  { t with handle := made + t.handle, action := f t.action }

/-- The table in which `made` timers were made before. -/
def shift (made : Nat) (f : α → α) (t : Timers α) : Timers α :=
  { live := t.live.map (shiftOne made f), made := made + t.made }

variable (made : Nat) (f : α → α)

theorem shift_cancel? (t : Timers α) (h : Option Nat) :
    (t.shift made f).cancel? (h.map (made + ·)) = (t.cancel? h).shift made f := by
  cases h with
  | none => rfl
  | some n =>
      -- All handles are shifted alike, so the same timers are kept.
      have hKept : ((fun y : Timer α => y.handle != made + n) ∘ shiftOne made f)
          = fun y => y.handle != n := by
        funext y
        show (made + y.handle != made + n) = (y.handle != n)
        rw [Bool.eq_iff_iff, bne_iff_ne, bne_iff_ne, ne_eq, Nat.add_left_cancel_iff]
      simp only [Option.map_some, cancel?, cancel, shift, List.filter_map, hKept]

theorem shift_scheduleEvery (t : Timers α) (now period : Nat) (action : α) :
    (t.shift made f).scheduleEvery now period (f action)
      = (t.scheduleEvery now period action).shift made f := by
  simp [scheduleEvery, add, shift, shiftOne, Nat.add_assoc]

theorem shift_scheduleAfter (t : Timers α) (now delay : Nat) (action : α) :
    (t.shift made f).scheduleAfter now delay (f action)
      = (t.scheduleAfter now delay action).shift made f := by
  simp [scheduleAfter, add, shift, shiftOne, Nat.add_assoc]

theorem shift_afterFiring (t : Timers α) (x : Timer α) (now : Nat) :
    (t.shift made f).afterFiring (shiftOne made f x) now = (t.afterFiring x now).shift made f := by
  simp only [afterFiring, shift, List.filterMap_map, List.map_filterMap, Timers.mk.injEq, and_true]
  refine congrArg (fun g => t.live.filterMap g) (funext fun y => ?_)
  by_cases hSame : y.handle = x.handle
  · cases hPeriod : y.period <;> simp [shiftOne, hSame, Timer.rearmed, hPeriod]
  · simp [shiftOne, hSame]

end Timers

namespace Polling

/-- What a poller has behind it: the poller it was when its run was over, and the number from
which the new poller that takes its place counts its runs. -/
structure Past where
  /-- Which poller it is. -/
  poller : Nat
  old : Poller
  first : Nat
  first_le : first ≤ old.run
  applied_le : old.applied ≤ old.issued
  shown : old.board.value = .stopped

namespace Past

variable (c : Past)

/-- How far the counts of runs are apart. -/
def gap : Nat := c.old.run - c.first

/-- What an alarm of the new poller is in the old one. -/
def alarm : Alarm → Alarm
  | .tick generation => .tick (c.old.tickGeneration + generation)
  | .expiry generation => .expiry (c.old.expiryGeneration + generation)

/-- The old poller, as it is when a new one in its place is `q`. -/
def join (q : Poller) : Poller where
  name := q.name
  cadence := q.cadence
  callback := q.callback
  mode := q.mode
  lastStatus := q.lastStatus
  tickTimer := q.tickTimer.map (c.old.timers.made + ·)
  expiryTimer := q.expiryTimer.map (c.old.timers.made + ·)
  run := c.gap + q.run
  issued := c.old.issued + q.issued
  -- 0 says that nothing was applied yet, and then the old number stands.
  applied := if q.applied = 0 then c.old.applied else c.old.issued + q.applied
  tickGeneration := c.old.tickGeneration + q.tickGeneration
  expiryGeneration := c.old.expiryGeneration + q.expiryGeneration
  timers := q.timers.shift c.old.timers.made c.alarm
  board := { initial := c.old.board.initial, sent := q.board.sent ++ c.old.board.sent }
  events := q.events ++ c.old.events
  fetches := q.fetches ++ c.old.fetches
  changes := q.changes ++ c.old.changes
  owners := q.owners

/-- A poller that has not been around for longer than it is said to be. -/
structure Young (q : Poller) : Prop where
  first_le : c.first ≤ q.run
  initial : q.board.initial = .stopped

/-- A change that is the same for a poller with a past. -/
structure Natural (f : Poller → Poller) : Prop where
  join : ∀ q, c.Young q → f (c.join q) = c.join (f q)
  young : ∀ q, c.Young q → c.Young (f q)

variable {c}

theorem Natural.comp {f g : Poller → Poller} (hg : c.Natural g) (hf : c.Natural f) :
    c.Natural (g ∘ f) where
  join q hq := (congrArg g (hf.join q hq)).trans (hg.join _ (hf.young q hq))
  young q hq := hg.young _ (hf.young q hq)

/-- The board of a poller with a past shows what that of the new one shows. -/
theorem value_join {q : Poller} (hq : c.Young q) : (c.join q).board.value = q.board.value := by
  have hShown := c.shown
  -- As long as the new board has shown nothing, both show that the poller is stopped.
  cases hSent : q.board.sent with
  | nil =>
      simp only [Watch.value, join, hSent, List.nil_append, List.headD_nil, hq.initial]
      exact hShown
  | cons x rest => simp [Watch.value, join, hSent]

theorem board_publishChange {q : Poller} (hq : c.Young q) (m : Mode) :
    (c.join q).board.publishChange m
      = { initial := c.old.board.initial,
          sent := (q.board.publishChange m).sent ++ c.old.board.sent } := by
  unfold Watch.publishChange
  rw [value_join hq]
  split <;> rfl

variable (c)

theorem natural_setMode (m : Mode) : c.Natural (·.setMode m) where
  join q hq := by
    simp only [Poller.setMode, board_publishChange hq]
    rfl
  young q hq := by
    refine ⟨hq.first_le, ?_⟩
    simp only [Poller.setMode, Watch.publishChange]
    split <;> exact hq.initial

/-- A change that the mode's board and the count of runs have no part in. -/
theorem natural_of_rfl {f : Poller → Poller} (hJoin : ∀ q, f (c.join q) = c.join (f q))
    (hRun : ∀ q, (f q).run = q.run) (hBoard : ∀ q, (f q).board = q.board) : c.Natural f where
  join q _ := hJoin q
  young q hq := ⟨by rw [hRun]; exact hq.first_le, by rw [hBoard]; exact hq.initial⟩

theorem natural_publish (e : TickEvent) : c.Natural (·.publish e) :=
  c.natural_of_rfl (fun _ => rfl) (fun _ => rfl) fun _ => rfl

theorem natural_issue : c.Natural Poller.issue :=
  c.natural_of_rfl (fun _ => rfl) (fun _ => rfl) fun _ => rfl

theorem natural_noteFetch (now : Nat) : c.Natural (·.noteFetch now) :=
  c.natural_of_rfl (fun _ => rfl) (fun _ => rfl) fun _ => rfl

theorem natural_own (f : Owners → Owners) : c.Natural fun p => { p with owners := f p.owners } :=
  c.natural_of_rfl (fun _ => rfl) (fun _ => rfl) fun _ => rfl

theorem natural_beginReport (current previous : String) :
    c.Natural (·.beginReport current previous) :=
  c.natural_of_rfl (fun _ => rfl) (fun _ => rfl) fun _ => rfl

theorem natural_endReport : c.Natural Poller.endReport :=
  c.natural_of_rfl (fun _ => rfl) (fun _ => rfl) fun _ => rfl

theorem natural_release : c.Natural Poller.release := by
  refine c.natural_of_rfl (fun q => ?_) (fun q => ?_) fun q => ?_
  · have hAlive : (c.join q).alive = q.alive := rfl
    unfold Poller.release
    rw [hAlive]
    split <;> rfl
  · unfold Poller.release
    split <;> rfl
  · unfold Poller.release
    split <;> rfl

theorem natural_armTicks (now : Nat) (period : Cadence → Nat) :
    c.Natural fun p => p.armTicks now (period p.cadence) := by
  refine c.natural_of_rfl (fun q => ?_) (fun _ => rfl) fun _ => rfl
  -- The old timer is cancelled and the new one made behind the same number of handles.
  have hCancel := Timers.shift_cancel? c.old.timers.made c.alarm q.timers q.tickTimer
  have hAdd := Timers.shift_scheduleEvery c.old.timers.made c.alarm (q.timers.cancel? q.tickTimer)
    now (period q.cadence) (.tick (q.tickGeneration + 1))
  simp only [Poller.armTicks, join, hCancel, ← hAdd]
  rfl

theorem natural_armExpiry (now : Nat) : c.Natural (·.armExpiry now) := by
  refine c.natural_of_rfl (fun q => ?_) (fun _ => rfl) fun _ => rfl
  have hCancel := Timers.shift_cancel? c.old.timers.made c.alarm q.timers q.expiryTimer
  have hAdd := Timers.shift_scheduleAfter c.old.timers.made c.alarm
    (q.timers.cancel? q.expiryTimer) now q.cadence.window (.expiry (q.expiryGeneration + 1))
  simp only [Poller.armExpiry, join, hCancel, ← hAdd]
  rfl

theorem natural_disarmTicks : c.Natural Poller.disarmTicks := by
  refine c.natural_of_rfl (fun q => ?_) (fun _ => rfl) fun _ => rfl
  have hCancel := Timers.shift_cancel? c.old.timers.made c.alarm q.timers q.tickTimer
  simp only [Poller.disarmTicks, join, hCancel]
  rfl

theorem natural_disarmExpiry : c.Natural Poller.disarmExpiry := by
  refine c.natural_of_rfl (fun q => ?_) (fun _ => rfl) fun _ => rfl
  have hCancel := Timers.shift_cancel? c.old.timers.made c.alarm q.timers q.expiryTimer
  simp only [Poller.disarmExpiry, join, hCancel]
  rfl

/-- The count of runs goes on from the old one. -/
theorem natural_nextRun : c.Natural fun p => { p with run := p.run + 1 } where
  join _ _ := rfl
  young _ hq := ⟨Nat.le_succ_of_le hq.first_le, hq.initial⟩

theorem natural_forget : c.Natural fun p => { p with lastStatus := none } :=
  c.natural_of_rfl (fun _ => rfl) (fun _ => rfl) fun _ => rfl

theorem natural_beginRun : c.Natural Poller.beginRun :=
  (c.natural_setMode .idle).comp c.natural_nextRun

theorem natural_endRun : c.Natural Poller.endRun :=
  (c.natural_setMode .stopped).comp (c.natural_forget.comp (c.natural_nextRun.comp
    (c.natural_disarmExpiry.comp c.natural_disarmTicks)))

theorem natural_openWindow (now : Nat) : c.Natural (·.openWindow now) :=
  (c.natural_armExpiry now).comp ((c.natural_armTicks now Cadence.active).comp
    (c.natural_setMode .active))

theorem natural_closeWindow (now : Nat) : c.Natural (·.closeWindow now) :=
  (c.natural_armTicks now Cadence.idle).comp ((c.natural_setMode .idle).comp
    c.natural_disarmExpiry)

/-- A result that the new poller applies has a number above those of the old one. -/
theorem join_apply (q : Poller) {seq : Nat} (hPos : 0 < seq) (status : Option String) :
    (c.join q).apply (c.old.issued + seq) status = c.join (q.apply seq status) := by
  have hApplied : (c.join (q.apply seq status)).applied = c.old.issued + seq :=
    if_neg (Nat.ne_of_gt hPos)
  simp only [Poller.apply, join] at hApplied ⊢
  rw [hApplied]

/-- The new poller fires the timer that the old one fires in its place. -/
theorem join_afterFiring (q : Poller) (x : Timer Alarm) (now : Nat) :
    { c.join q with
      timers := (c.join q).timers.afterFiring
        (Timers.shiftOne c.old.timers.made c.alarm x) now }
      = c.join { q with timers := q.timers.afterFiring x now } := by
  have hFired := Timers.shift_afterFiring c.old.timers.made c.alarm q.timers x now
  simp only [join, hFired]

end Past

end Polling

end Lookout
