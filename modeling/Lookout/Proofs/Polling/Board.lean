import Lookout.Proofs.Polling.Handles
import Mathlib.Data.List.Chain

set_option autoImplicit false

/-! # The modes that are shown

Observers of a poller see each of its modes once, in the order in which it went through
them: a mode is published when it is entered and at no other time. `Poller.Goes` says which
modes one thing that happens leads through, and each of the small changes a poller is made
of has one lemma of this kind. What is shown begins with `stopped` and is a path of
`Mode.Leads`, the graph of the modes.

What cannot be done in a mode changes nothing at all, neither the poller nor anything else:
a start while a run is going on, the end of a window that is not open, a stop without a run,
a timer of an old generation.
-/

namespace Lookout.Polling

/-! ## The graph of the modes -/

namespace Mode

/-- The mode that may come next. -/
inductive Leads : Mode → Mode → Prop
  | start : Leads .stopped .idle
  | enter : Leads .idle .active
  | leave : Leads .active .idle
  | stopIdle : Leads .idle .stopped
  | stopActive : Leads .active .stopped

/-- The modes between `a`, which is left out, and `b`, newest first. A poller that was
stopped becomes idle before it becomes active. -/
def route (a b : Mode) : List Mode :=
  if a = b then [] else if a = .stopped ∧ b = .active then [.active, .idle] else [b]

theorem route_eq_nil_iff {a b : Mode} : a.route b = [] ↔ a = b := by
  cases a <;> cases b <;> decide

theorem isChain_route (a b : Mode) : (a.route b ++ [a]).IsChain (flip Leads) := by
  cases a <;> cases b <;> simp [route, flip, Leads.start, Leads.enter, Leads.leave,
    Leads.stopIdle, Leads.stopActive]

end Mode

/-! ## What one poller shows -/

namespace Poller

variable {p q r : Poller}

/-- `q` is `p` after it went through the modes of `ms`, newest first, and showed each. -/
structure Goes (ms : List Mode) (p q : Poller) : Prop where
  mode : q.mode = ms.headD p.mode
  initial : q.board.initial = p.board.initial
  sent : q.board.sent = ms ++ p.board.sent

theorem Goes.trans {ms ns : List Mode} (h : p.Goes ms q) (h' : q.Goes ns r) :
    p.Goes (ns ++ ms) r where
  mode := by
    rw [h'.mode, h.mode]
    cases ns <;> rfl
  initial := h'.initial.trans h.initial
  sent := by rw [h'.sent, h.sent, List.append_assoc]

/-- Observers of a poller that goes on showing what they see see its mode. -/
theorem Goes.value {ms : List Mode} (h : p.Goes ms q) (hShown : p.board.value = p.mode) :
    q.board.value = q.mode := by
  rw [h.mode, Watch.value, h.sent, h.initial]
  cases ms with
  | nil => exact hShown
  | cons m ms => rfl

/-- What leaves the mode and the board alone goes nowhere. -/
theorem goes_of_eq (hMode : q.mode = p.mode) (hBoard : q.board = p.board) : p.Goes [] q :=
  ⟨hMode, by rw [hBoard], by rw [hBoard, List.nil_append]⟩

theorem goes_refl (p : Poller) : p.Goes [] p := goes_of_eq rfl rfl

/-- A mode is published exactly if it is a new one. -/
theorem goes_setMode (hShown : p.board.value = p.mode) (m : Mode) :
    p.Goes (if p.mode = m then [] else [m]) (p.setMode m) where
  mode := by
    split
    next hSame => exact hSame.symm
    next => rfl
  initial := by
    show (p.board.publishChange m).initial = _
    unfold Watch.publishChange
    split <;> rfl
  sent := by
    show (p.board.publishChange m).sent = _
    rw [Watch.publishChange, hShown]
    split <;> rfl

/-- `q` is `p` after it went through the modes on the way, and showed each. -/
def Shows (p q : Poller) : Prop := p.Goes (p.mode.route q.mode) q

theorem Goes.shows {ms : List Mode} (h : p.Goes ms q)
    (hRoute : p.mode.route (ms.headD p.mode) = ms) : p.Shows q := by
  rw [Shows, h.mode, hRoute]
  exact h

theorem shows_of_eq (hMode : q.mode = p.mode) (hBoard : q.board = p.board) : p.Shows q :=
  (goes_of_eq hMode hBoard).shows (by simp [Mode.route])

/-- Only the mode and the board matter of where it began. -/
theorem Shows.since (h : p.Shows q) (hMode : p.mode = r.mode) (hBoard : p.board = r.board) :
    r.Shows q := by
  have hSame : r.Goes [] p := goes_of_eq hMode hBoard
  rw [Shows, ← hMode, ← List.append_nil (p.mode.route q.mode)]
  exact hSame.trans h

theorem Shows.own (h : p.Shows q) (o : Owners) : p.Shows { q with owners := o } :=
  ⟨h.mode, h.initial, h.sent⟩

theorem Shows.release (h : p.Shows q) : p.Shows q.release := by
  unfold Poller.release
  split
  next => exact h
  next => exact ⟨h.mode, h.initial, h.sent⟩

variable (paused : Bool) (now : Nat)

theorem goes_start (hShown : p.board.value = p.mode) :
    p.Goes (if p.mode.isPolling then [] else [.idle]) (p.start paused now) := by
  unfold start
  split
  next => exact goes_refl p
  next hNot =>
    have hStopped : p.mode = .stopped := Mode.eq_stopped (Bool.eq_false_iff.mpr hNot)
    have hBegun : p.Goes [.idle] p.beginRun := by
      have hSet := goes_setMode (p := { p with run := p.run + 1 }) hShown .idle
      rw [if_neg (by rw [hStopped]; decide)] at hSet
      exact ⟨hSet.mode, hSet.initial, hSet.sent⟩
    have hTicked : p.beginRun.Goes [] ((p.beginRun.tick paused now).armTicks now p.cadence.idle) :=
      goes_of_eq (still_tick p.beginRun paused now).mode (still_tick p.beginRun paused now).board
    exact hBegun.trans hTicked

theorem shows_start (hShown : p.board.value = p.mode) : p.Shows (p.start paused now) := by
  refine (goes_start paused now hShown).shows ?_
  cases p.mode <;> rfl

theorem goes_openWindow (hShown : p.board.value = p.mode) :
    p.Goes (if p.mode = .active then [] else [.active]) (p.openWindow now) := by
  have hSet := goes_setMode hShown .active
  exact ⟨hSet.mode, hSet.initial, hSet.sent⟩

/-- Opening a window leads a poller that is stopped through `idle`. -/
theorem shows_enterActive (hShown : p.board.value = p.mode) :
    p.Shows ((p.start paused now).openWindow now) := by
  have hStart := goes_start paused now hShown
  have hOpen := goes_openWindow now (hStart.value hShown)
  refine (hStart.trans hOpen).shows ?_
  rw [hStart.mode]
  cases p.mode <;> decide

theorem shows_closeWindow (hShown : p.board.value = p.mode) (hActive : p.mode = .active) :
    p.Shows (p.closeWindow now) := by
  have hSet := goes_setMode (p := p.disarmExpiry) hShown .idle
  have hGoes : p.Goes (if p.mode = .idle then [] else [.idle]) (p.closeWindow now) :=
    ⟨hSet.mode, hSet.initial, hSet.sent⟩
  refine hGoes.shows ?_
  rw [hActive]
  decide

theorem shows_exitActive (hShown : p.board.value = p.mode) : p.Shows (p.exitActive now) := by
  unfold exitActive
  split
  next hActive => exact shows_closeWindow now hShown hActive
  next => exact shows_of_eq rfl rfl

theorem shows_stop (hShown : p.board.value = p.mode) : p.Shows p.stop := by
  unfold stop
  split
  next hPolling =>
    have hSet := goes_setMode
      (p := { p.disarmTicks.disarmExpiry with run := p.run + 1, lastStatus := none }) hShown .stopped
    have hGoes : p.Goes (if p.mode = .stopped then [] else [.stopped]) p.endRun :=
      ⟨hSet.mode, hSet.initial, hSet.sent⟩
    refine hGoes.shows ?_
    cases p.mode <;> decide
  next => exact shows_of_eq rfl rfl

theorem shows_operate (hShown : p.board.value = p.mode) (o : Operation) :
    p.Shows (p.operate paused now o) := by
  cases o with
  | start => exact shows_start paused now hShown
  | stop => exact shows_stop hShown
  | enterActive => exact shows_enterActive paused now hShown
  | exitActive => exact shows_exitActive now hShown
  | clone => exact shows_of_eq rfl rfl
  | guard => exact (shows_start paused now hShown).own _
  | dropMain => exact Shows.release (Shows.own (shows_of_eq rfl rfl) _)
  | dropClone => exact Shows.release (Shows.own (shows_of_eq rfl rfl) _)
  | dropGuard => exact ((shows_stop hShown).own _).release

theorem shows_onAlarm (hShown : p.board.value = p.mode) (a : Alarm) :
    p.Shows (p.onAlarm paused now a) := by
  cases a with
  | tick generation =>
      rw [onAlarm]
      split
      next => exact shows_of_eq (still_tick p paused now).mode (still_tick p paused now).board
      next => exact shows_of_eq rfl rfl
  | expiry generation =>
      rw [onAlarm]
      split
      next hMeant => exact shows_closeWindow now hShown hMeant.2
      next => exact shows_of_eq rfl rfl

theorem shows_ring (hShown : p.board.value = p.mode) (k : Nat) :
    p.Shows (p.ring paused now k) := by
  unfold ring
  split
  next => exact shows_of_eq rfl rfl
  next t _ =>
    split
    next =>
      -- The table of the timers is nothing to the mode or the board.
      exact Shows.since (shows_onAlarm (p := { p with timers := p.timers.afterFiring t now })
        paused now hShown t.action) rfl rfl
    next => exact shows_of_eq rfl rfl

theorem shows_conclude (hShown : p.board.value = p.mode) (run : Nat) (current previous : String) :
    p.Shows (p.conclude now run current previous) := by
  unfold conclude
  refine Shows.release (Shows.own ?_ _)
  split
  next hMeant =>
    exact Shows.since (p := p.publish (.statusChanged current previous))
      (shows_closeWindow now hShown hMeant.2) rfl rfl
  next => exact shows_of_eq rfl rfl

/-- **Every deed** of a poller that shows its mode leads it on in the graph, and it shows
each mode on the way. -/
theorem shows_perform (hShown : p.board.value = p.mode) (d : Deed) :
    p.Shows (p.perform paused now d) := by
  cases d with
  | operate o =>
      rw [perform]
      split
      next => exact shows_operate paused now hShown o
      next => exact shows_of_eq rfl rfl
  | ask =>
      rw [perform]
      split <;> exact shows_of_eq rfl rfl
  | ring k => exact shows_ring paused now hShown k
  | accept run seq status =>
      rw [perform, accept]
      split
      next => exact shows_of_eq rfl rfl
      next =>
        split
        next => exact shows_of_eq rfl rfl
        next =>
          dsimp only
          split <;> exact shows_of_eq rfl rfl
  | fail run error =>
      rw [perform, fail]
      split <;> exact shows_of_eq rfl rfl
  | conclude run current previous => exact shows_conclude now hShown run current previous

/-- **The board of a poller**: it shows the mode, and what it has shown, newest first, came
from `stopped` on a path in the graph. -/
structure OnBoard (p : Poller) : Prop where
  initial : p.board.initial = .stopped
  value : p.board.value = p.mode
  path : (p.board.sent ++ [Mode.stopped]).IsChain (flip Mode.Leads)

theorem Shows.onBoard (h : p.Shows q) (hp : p.OnBoard) : q.OnBoard where
  initial := h.initial.trans hp.initial
  value := h.value hp.value
  path := by
    -- The way on begins with what observers saw last.
    obtain ⟨rest, hRest⟩ : ∃ rest, p.board.sent ++ [Mode.stopped] = [p.mode] ++ rest := by
      have hValue := hp.value
      rw [Watch.value, hp.initial] at hValue
      cases hSent : p.board.sent with
      | nil =>
          rw [hSent] at hValue
          exact ⟨[], by rw [← hValue]; rfl⟩
      | cons m ms =>
          rw [hSent] at hValue
          exact ⟨ms ++ [.stopped], by rw [← hValue]; rfl⟩
    have hBefore := hp.path
    rw [hRest] at hBefore
    rw [h.sent, List.append_assoc, hRest, ← List.append_assoc]
    exact (Mode.isChain_route p.mode q.mode).append_overlap hBefore (by simp)

theorem Fresh.onBoard (h : p.Fresh) : p.OnBoard := by
  obtain ⟨name, cadence, callback, rfl⟩ := h
  exact ⟨rfl, rfl, List.isChain_singleton _⟩

/-! ## Generations -/

/-- No timer of an old generation is live. -/
def Current (p : Poller) : Prop :=
  ∀ t ∈ p.timers.live, t.action = .tick p.tickGeneration ∨ t.action = .expiry p.expiryGeneration

theorem Sound.current {entered : Option Nat} (h : p.Sound entered) : p.Current := by
  intro t ht
  cases h.armed with
  | stopped _ live => simp [live] at ht
  | idle _ _ _ live =>
      rw [live, List.mem_singleton] at ht
      exact .inl (by rw [ht])
  | active _ _ _ _ _ _ live =>
      rw [live, List.mem_cons, List.mem_singleton] at ht
      rcases ht with rfl | rfl
      · exact .inl rfl
      · exact .inr rfl

end Poller

/-! ## What changes nothing -/

namespace Fleet

variable {ω : Type} [FetchSource ω] {s : Fleet ω} {i : Nat} {p : Poller}

theorem start_of_polling (hp : s.pollers[i]? = some p) (hPolling : p.mode.isPolling = true) :
    s.start i = s := by
  rw [start, hp]
  exact if_pos hPolling

theorem operate_start_of_polling (hp : s.pollers[i]? = some p)
    (hPolling : p.mode.isPolling = true) : s.operate i .start = s := by
  rw [operate, carryOut, start_of_polling hp hPolling, ite_self]

theorem operate_guard_of_polling (hp : s.pollers[i]? = some p)
    (hPolling : p.mode.isPolling = true) :
    s.operate i .guard = if s.allows i .guard then s.modify i fun p =>
      { p with owners := { p.owners with guards := p.owners.guards + 1 } } else s := by
  rw [operate, carryOut, guard, start_of_polling hp hPolling]

theorem operate_exitActive_of_not_active (hp : s.pollers[i]? = some p)
    (hMode : p.mode ≠ .active) : s.operate i .exitActive = s := by
  have hSame : s.exitActive i = s := by
    rw [exitActive, hp]
    exact if_neg hMode
  rw [operate, carryOut, hSame, ite_self]

theorem operate_stop_of_stopped (hp : s.pollers[i]? = some p) (hMode : p.mode = .stopped) :
    s.operate i .stop = s := by
  have hSame : s.stop i = s := by
    rw [stop, hp]
    exact if_neg (by rw [hMode]; decide)
  rw [operate, carryOut, hSame, ite_self]

theorem onAlarm_tick_of_old (hp : s.pollers[i]? = some p) {generation : Nat}
    (hOld : generation ≠ p.tickGeneration) : s.onAlarm i (.tick generation) = s := by
  rw [onAlarm, onTick, hp]
  exact if_neg fun hMeant => hOld hMeant.1.symm

theorem onAlarm_expiry_of_old (hp : s.pollers[i]? = some p) {generation : Nat}
    (hOld : generation ≠ p.expiryGeneration) : s.onAlarm i (.expiry generation) = s := by
  rw [onAlarm, onExpiry, hp]
  exact if_neg fun hMeant => hOld hMeant.1.symm

end Fleet

/-! ## Every run -/

namespace Scene

variable {ω : Type}

theorem shows_turn (s : Scene ω) (m : Move ω) (i : Nat) {p : Poller}
    (hShown : p.board.value = p.mode) : p.Shows (s.turn m i p) := by
  rcases turn_cases s m i p with hSame | ⟨d, -, hTurn⟩
  · rw [hSame]
    exact Poller.shows_of_eq rfl rfl
  · rw [hTurn]
    exact Poller.shows_perform _ _ hShown d

variable [FetchSource ω]

theorem Fresh.onBoard {s₀ : Scene ω} (h : s₀.Fresh) (past : List (Move ω)) {i : Nat} {p : Poller}
    (hp : (s₀.after past).fleet.pollers[i]? = some p) : p.OnBoard := by
  induction past generalizing p with
  | nil => exact (h.pollers p (List.mem_of_getElem? hp)).onBoard
  | cons m past ih =>
      obtain ⟨q, hq, rfl⟩ := exists_of_move hp
      have hBefore := ih hq
      exact (shows_turn _ m i hBefore.value).onBoard hBefore

/-- A poller that is gone has no timers, and one that is not has those of its mode. -/
theorem Fresh.current {s₀ : Scene ω} (h : s₀.Fresh) (past : List (Move ω)) {i : Nat} {p : Poller}
    (hp : (s₀.after past).fleet.pollers[i]? = some p) : p.Current := by
  cases hAlive : p.alive with
  | true => exact (h.sound past hp hAlive).current
  | false =>
      intro t ht
      rw [(h.tended past hp).timers hAlive] at ht
      cases ht

/-- What there is nothing to do about in the mode of poller `i`, which is `p`, leaves
everything as it is, except that a guard is taken all the same. -/
structure Rests (s : Fleet ω) (i : Nat) (p : Poller) : Prop where
  start : p.mode.isPolling = true → s.operate i .start = s
  guard : p.mode.isPolling = true → s.operate i .guard =
    if s.allows i .guard then s.modify i fun p =>
      { p with owners := { p.owners with guards := p.owners.guards + 1 } } else s
  exitActive : p.mode ≠ .active → s.operate i .exitActive = s
  stop : p.mode = .stopped → s.operate i .stop = s
  /-- A timer of an old generation does nothing when it fires, and none is live. -/
  tick : ∀ generation, generation ≠ p.tickGeneration → s.onAlarm i (.tick generation) = s
  expiry : ∀ generation, generation ≠ p.expiryGeneration → s.onAlarm i (.expiry generation) = s
  current : p.Current

/-- **Observers see the modes of a poller, each once and in order.** Whatever has happened,
also while a callback is at work: what has been published since the first `stopped` is a path
in the graph of the modes, its end is the mode the poller is in, and whatever happens next
publishes the modes that it leads through, none if the mode stays the same. What there is
nothing to do about in that mode changes nothing, in the poller or elsewhere. -/
theorem modes_on_board {s₀ : Scene ω} (hFresh : s₀.Fresh) (past : List (Move ω)) {i : Nat}
    {p : Poller} (hp : (s₀.after past).fleet.pollers[i]? = some p) :
    (p.board.initial = .stopped ∧
        (p.board.initial :: p.board.sent.reverse).IsChain Mode.Leads) ∧
      p.board.value = p.mode ∧
      (∀ (m : Move ω) (q : Poller), (s₀.after (m :: past)).fleet.pollers[i]? = some q →
        q.board.sent = p.mode.route q.mode ++ p.board.sent ∧
          (q.board.sent = p.board.sent ↔ q.mode = p.mode)) ∧
      Rests (s₀.after past).fleet i p := by
  have hBoard := hFresh.onBoard past hp
  refine ⟨⟨hBoard.initial, ?_⟩, hBoard.value, fun m q hq => ?_, ?_⟩
  · have hPath := List.isChain_reverse.mpr hBoard.path
    rwa [List.reverse_append, List.reverse_singleton, List.singleton_append,
      ← hBoard.initial] at hPath
  · obtain ⟨p', hp', rfl⟩ := exists_of_move hq
    obtain rfl := Option.some.inj (hp.symm.trans hp')
    have hSent := (shows_turn (s₀.after past) m i hBoard.value).sent
    refine ⟨hSent, ?_⟩
    rw [hSent, List.append_left_eq_self, Mode.route_eq_nil_iff, eq_comm]
  · exact {
      start := Fleet.operate_start_of_polling hp
      guard := Fleet.operate_guard_of_polling hp
      exitActive := Fleet.operate_exitActive_of_not_active hp
      stop := Fleet.operate_stop_of_stopped hp
      tick := fun _ => Fleet.onAlarm_tick_of_old hp
      expiry := fun _ => Fleet.onAlarm_expiry_of_old hp
      current := hFresh.current past hp }

/-- While a change is being reported, the callback has made the poller active. -/
theorem modes_on_board_reentrant :
    ∃ p, (lone.after reentrant).fleet.pollers[0]? = some p ∧
      p.board.sent = [.active, .idle] ∧ p.board.value = p.mode ∧
      (lone.after reentrant).fleet.operate 0 .start = (lone.after reentrant).fleet ∧
      ∀ m q, (lone.after (m :: reentrant)).fleet.pollers[0]? = some q →
        (q.board.sent = p.board.sent ↔ q.mode = p.mode) := by
  obtain ⟨p, hp, hSent, hPolling⟩ : ∃ p, (lone.after reentrant).fleet.pollers[0]? = some p ∧
      p.board.sent = [.active, .idle] ∧ p.mode.isPolling = true := ⟨_, rfl, rfl, rfl⟩
  obtain ⟨-, hValue, hNext, hRests⟩ := modes_on_board lone_fresh reentrant hp
  exact ⟨p, hp, hSent, hValue, hRests.start hPolling, fun m q hq => (hNext m q hq).2⟩

end Scene

end Lookout.Polling
