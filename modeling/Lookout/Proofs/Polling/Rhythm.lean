import Lookout.Proofs.Polling.Ticks

set_option autoImplicit false

/-! # Ticks keep their rhythm

While a poller polls, its ticks come at one period, counted from the moment at which its
timer was armed last. An `Era` is a stretch of a run in which this is so, and `Scene.eras`
reads the eras of a poller off its modes: one begins when the poller is started, made active
or brought back to idle, and it is over at the next such moment or when the poller stops.

`Scene.attempts` lists when the poller attempted a fetch, and `Era.ticks` when it should have
in an era. `Poller.Beat` says what one deed does to the rhythm, and `Keeps` is the invariant
that ties eras, attempts and the tick timer together, as long as no timer is ever overdue.
-/

namespace Lookout.Polling

/-- The time between two ticks in a mode. -/
def Cadence.period (c : Cadence) : Mode → Nat
  | .active => c.active
  | .idle | .stopped => c.idle

namespace Poller

/-- The time between two ticks of the poller as it is now. -/
def period (p : Poller) : Nat := p.cadence.period p.mode

/-- The tick timer is due at a time. -/
def DueAt (p : Poller) (deadline : Nat) : Prop :=
  ∃ t ∈ p.timers.live, p.tickTimer = some t.handle ∧ t.deadline = deadline

/-- Whether a deed opens an active window. -/
def opens (p : Poller) : Deed → Bool
  | .operate .enterActive => Operation.enterActive.allowed p.owners
  | _ => false

variable {p q : Poller} {entered : Option Nat}

/-! ## The tick timer -/

theorem dueAt_armTicks (p : Poller) (now period : Nat) :
    (p.armTicks now period).DueAt (now + period) :=
  ⟨_, List.mem_append_right _ List.mem_cons_self, rfl, rfl⟩

/-- The tick timer that has just been made is not the expiry timer of before. -/
theorem Tidy.dueAt_openWindow (h : p.Tidy) (now : Nat) :
    (p.openWindow now).DueAt (now + p.cadence.active) := by
  obtain ⟨t, ht, hHandle, hDeadline⟩ := (p.setMode .active).dueAt_armTicks now p.cadence.active
  refine ⟨t, ?_, hHandle, hDeadline⟩
  have hMade : t.handle = p.timers.made := by
    have hNew : some ((p.timers.cancel? p.tickTimer).made) = some t.handle := hHandle
    rw [Timers.made_cancel?] at hNew
    exact (Option.some.inj hNew).symm
  refine List.mem_append_left _ (Timers.mem_cancel?.mpr ⟨ht, fun hSame => ?_⟩)
  have hOlder := h.made _ hSame
  omega

theorem dueAt_closeWindow (p : Poller) (now : Nat) :
    (p.closeWindow now).DueAt (now + p.cadence.idle) :=
  dueAt_armTicks _ now p.cadence.idle

/-- A sound poller that polls has a tick timer, and it is due at one time only. -/
theorem Sound.eq_of_dueAt (h : p.Sound entered) {t : Timer Alarm} (ht : t ∈ p.timers.live)
    (hTick : p.tickTimer = some t.handle) {deadline : Nat} (hDue : p.DueAt deadline) :
    t.deadline = deadline := by
  obtain ⟨t', ht', hTick', rfl⟩ := hDue
  have hHandle : t'.handle = t.handle := Option.some.inj (hTick'.symm.trans hTick)
  cases h.armed with
  | stopped _ live => simp [live] at ht
  | idle handle deadline mode live tick expiry =>
      rw [live, List.mem_singleton] at ht ht'
      rw [ht, ht']
  | active opened handle deadline handle' mode entered live tick expiry apart =>
      rw [live, List.mem_cons, List.mem_singleton] at ht ht'
      rcases ht with rfl | rfl <;> rcases ht' with rfl | rfl
      · rfl
      · exact absurd hHandle.symm apart
      · exact absurd hHandle apart
      · rfl

/-- The tick timer has the period of the poller's mode. -/
theorem Sound.period_of_tick (h : p.Sound entered) {t : Timer Alarm} (ht : t ∈ p.timers.live)
    (hTick : p.tickTimer = some t.handle) : t.period = some p.period := by
  cases h.armed with
  | stopped _ live => simp [live] at ht
  | idle handle deadline mode live tick expiry =>
      rw [live, List.mem_singleton] at ht
      rw [ht, period, mode, Cadence.period]
  | active opened handle deadline handle' mode entered live tick expiry apart =>
      rw [live, List.mem_cons, List.mem_singleton] at ht
      rcases ht with rfl | rfl
      · rw [period, mode, Cadence.period]
      · exact absurd (Option.some.inj (tick.symm.trans hTick)) apart

/-- The tick timer that fires is armed again. -/
theorem Sound.dueAt_fired (h : p.Sound entered) {t : Timer Alarm} (ht : t ∈ p.timers.live)
    (hTick : p.tickTimer = some t.handle) (now : Nat) :
    DueAt { p with timers := p.timers.afterFiring t now }
      (Timer.following p.period t.deadline now) := by
  refine ⟨{ t with deadline := Timer.following p.period t.deadline now }, ?_, hTick, rfl⟩
  refine List.mem_filterMap.mpr ⟨t, ht, ?_⟩
  rw [if_pos rfl, Timer.rearmed, h.period_of_tick ht hTick, Option.map_some]

/-! ## What a deed is to the rhythm -/

/-- `q` is `p` as far as the rhythm of its ticks goes. -/
structure InStep (p q : Poller) : Prop where
  mode : q.mode = p.mode
  timers : q.timers = p.timers
  tickTimer : q.tickTimer = p.tickTimer

/-- **What a deed does to the rhythm** of a poller that is `p` before and `q` after it. -/
inductive Beat (now : Nat) (p q : Poller) (ticks opens : Bool) : Prop
  | rests (same : p.InStep q) (ticks : ticks = false) (opens : opens = false)
  | ticks (deadline : Nat) (mode : q.mode = p.mode) (polling : p.mode.isPolling = true)
      (due : p.DueAt deadline) (late : deadline ≤ now)
      (next : q.DueAt (Timer.following p.period deadline now)) (ticks : ticks = true)
      (opens : opens = false)
  | begins (before : p.mode.isPolling = false) (polling : q.mode.isPolling = true)
      (next : q.DueAt (now + p.cadence.period q.mode)) (ticks : ticks = true)
  | rearms (before : p.mode.isPolling = true) (polling : q.mode.isPolling = true)
      (cause : opens = true ∨ p.mode = .active ∧ q.mode = .idle)
      (next : q.DueAt (now + p.cadence.period q.mode)) (ticks : ticks = false)
  | ends (before : p.mode.isPolling = true) (polling : q.mode.isPolling = false)
      (ticks : ticks = false)

variable (paused : Bool) (now : Nat)

theorem InStep.refl (p : Poller) : p.InStep p := ⟨rfl, rfl, rfl⟩

theorem InStep.dueAt (h : p.InStep q) {deadline : Nat} (hDue : p.DueAt deadline) :
    q.DueAt deadline := by
  rw [DueAt, h.timers, h.tickTimer]
  exact hDue

/-- A deed that goes on in step with one before keeps its beat. -/
theorem Beat.inStep {r : Poller} {ticks opens : Bool} (h : Beat now p q ticks opens)
    (hStep : q.InStep r) : Beat now p r ticks opens := by
  have hPolling : r.mode.isPolling = q.mode.isPolling := congrArg Mode.isPolling hStep.mode
  cases h with
  | rests same ticks opens =>
      exact .rests ⟨hStep.mode.trans same.mode, hStep.timers.trans same.timers,
        hStep.tickTimer.trans same.tickTimer⟩ ticks opens
  | ticks deadline mode polling due late next ticks opens =>
      exact .ticks deadline (hStep.mode.trans mode) polling due late (hStep.dueAt next) ticks opens
  | begins before polling next ticks =>
      refine .begins before (hPolling.trans polling) ?_ ticks
      rw [hStep.mode]
      exact hStep.dueAt next
  | rearms before polling cause next ticks =>
      refine .rearms before (hPolling.trans polling) ?_ ?_ ticks
      · rw [hStep.mode]
        exact cause
      · rw [hStep.mode]
        exact hStep.dueAt next
  | ends before polling ticks => exact .ends before (hPolling.trans polling) ticks

theorem inStep_tick (p : Poller) : p.InStep (p.tick paused now) := by
  unfold tick
  split <;> exact ⟨rfl, rfl, rfl⟩

theorem inStep_own (p : Poller) (o : Owners) : p.InStep { p with owners := o } :=
  ⟨rfl, rfl, rfl⟩

/-- The window is closed while the poller is active. -/
theorem beat_closeWindow (hActive : p.mode = .active) {opens : Bool} :
    Beat now p (p.closeWindow now) false opens :=
  .rearms (by rw [hActive]; rfl) rfl (.inr ⟨hActive, rfl⟩) (p.dueAt_closeWindow now) rfl

theorem beat_exitActive (p : Poller) : Beat now p (p.exitActive now) false false := by
  unfold exitActive
  split
  next hActive => exact beat_closeWindow now hActive
  next => exact .rests (.refl p) rfl rfl

theorem beat_stop (p : Poller) : Beat now p p.stop false false := by
  unfold stop
  split
  next hPolling => exact .ends hPolling rfl rfl
  next => exact .rests (.refl p) rfl rfl

/-- A start has a tick in it if it begins a run. -/
theorem beat_start (p : Poller) :
    Beat now p (p.start paused now) (!p.mode.isPolling) false := by
  cases hPolling : p.mode.isPolling with
  | true =>
      rw [start, if_pos hPolling]
      exact .rests (.refl p) rfl rfl
  | false =>
      rw [start_of_stopped paused now hPolling]
      have hBegun : Beat now p (p.beginRun.armTicks now p.cadence.idle) true false :=
        .begins hPolling rfl (dueAt_armTicks _ now p.cadence.idle) rfl
      exact hBegun.inStep now (inStep_tick paused now _)

theorem Sound.beat_enterActive (h : p.Sound entered) :
    Beat now p ((p.start paused now).openWindow now) (!p.mode.isPolling) true := by
  have hDue := (h.start paused now).tidy.dueAt_openWindow now
  rw [(p.alike_start paused now).cadence] at hDue
  cases hPolling : p.mode.isPolling with
  | true => exact .rearms hPolling rfl (.inl rfl) hDue rfl
  | false => exact .begins hPolling rfl hDue rfl

/-- What a timer that fires does to the rhythm. -/
theorem Sound.beat_ring (h : p.Sound entered) (k : Nat) :
    Beat now p (p.ring paused now k) (p.ticks now (.ring k)) false := by
  cases hTicks : p.ticks now (.ring k) with
  | true =>
      obtain ⟨t, hLive, hHandle, hDue, hRing⟩ := h.ring_of_ticks paused now hTicks
      rw [hRing]
      have hFired : Beat now p { p with timers := p.timers.afterFiring t now } true false :=
        .ticks t.deadline rfl (h.tick_fired hLive hHandle now).2.1 ⟨t, hLive, hHandle, rfl⟩ hDue
          (h.dueAt_fired hLive hHandle now) rfl rfl
      exact hFired.inStep now (inStep_tick paused now _)
  | false =>
      rcases h.ring_of_not_ticks paused now hTicks with hSame | ⟨hActive, -, timers, -, hRing⟩
      · rw [hSame]
        exact .rests (.refl p) rfl rfl
      · rw [hRing]
        exact .rearms (by rw [hActive]; rfl) rfl (.inr ⟨hActive, rfl⟩)
          (dueAt_closeWindow _ now) rfl

/-- What is done with a handle is a beat of a poller that exists afterwards. -/
theorem Sound.beat_operate (h : p.Sound entered) (o : Operation)
    (hAlive : (p.operate paused now o).alive = true) :
    Beat now p (p.operate paused now o) (o.starts && !p.mode.isPolling) (o = .enterActive) := by
  -- Who owns the poller is nothing to the rhythm, as long as it is not gone.
  have hKept : ∀ {r : Poller}, r.release.alive = true → r.InStep r.release := by
    intro r hr
    rw [alive_release] at hr
    rw [release_of_alive hr]
    exact .refl r
  have hOwned : ∀ owners, Beat now p { p with owners := owners } false false :=
    fun owners => .rests (p.inStep_own owners) rfl rfl
  cases o with
  | start => exact p.beat_start paused now
  | guard => exact (p.beat_start paused now).inStep now (inStep_own _ _)
  | enterActive => exact h.beat_enterActive paused now
  | exitActive => exact p.beat_exitActive now
  | stop => exact p.beat_stop now
  | clone => exact hOwned _
  | dropMain => exact (hOwned _).inStep now (hKept hAlive)
  | dropClone => exact (hOwned _).inStep now (hKept hAlive)
  | dropGuard => exact ((p.beat_stop now).inStep now (inStep_own _ _)).inStep now (hKept hAlive)

/-- A success that arrives is nothing to the rhythm. -/
theorem inStep_accept (p : Poller) (run seq : Nat) (status : Option String) :
    p.InStep (p.accept run seq status) := by
  unfold Poller.accept
  split
  next => exact .refl p
  next =>
    split
    next => exact .refl p
    next =>
      dsimp only
      split <;> exact ⟨rfl, rfl, rfl⟩

/-- The end of a report closes the window of its run. -/
theorem beat_conclude (p : Poller) (run : Nat) (current previous : String)
    (hAlive : (p.conclude now run current previous).alive = true) :
    Beat now p (p.conclude now run current previous) false false := by
  unfold Poller.conclude at hAlive ⊢
  rw [alive_release] at hAlive
  rw [release_of_alive hAlive]
  split
  next hMeant =>
    have hClosed : Beat now p ((p.publish (.statusChanged current previous)).closeWindow now)
        false false :=
      .rearms (by rw [show p.mode = .active from hMeant.2]; rfl) rfl (.inr ⟨hMeant.2, rfl⟩)
        (dueAt_closeWindow _ now) rfl
    exact hClosed.inStep now ⟨rfl, rfl, rfl⟩
  next => exact .rests ⟨rfl, rfl, rfl⟩ rfl rfl

/-- **Every deed is a beat** of a sound poller that exists afterwards. -/
theorem Sound.beat (h : p.Sound entered) {d : Deed}
    (hAlive : (p.perform paused now d).alive = true) :
    Beat now p (p.perform paused now d) (p.ticks now d) (p.opens d) := by
  cases d with
  | operate o =>
      rw [Poller.perform] at hAlive ⊢
      by_cases hAllowed : o.allowed p.owners = true
      · rw [if_pos hAllowed] at hAlive ⊢
        have hTicks : p.ticks now (.operate o) = (o.starts && !p.mode.isPolling) := by
          rw [ticks, hAllowed, Bool.true_and]
        have hOpens : p.opens (.operate o) = decide (o = .enterActive) := by
          cases o with
          | enterActive => exact hAllowed
          | _ => rfl
        rw [hTicks, hOpens]
        exact h.beat_operate paused now o hAlive
      · rw [if_neg hAllowed]
        have hTicks : p.ticks now (.operate o) = false := by simp [ticks, hAllowed]
        have hOpens : p.opens (.operate o) = false := by
          cases o with
          | enterActive => exact Bool.eq_false_iff.mpr hAllowed
          | _ => rfl
        exact .rests (.refl p) hTicks hOpens
  | ask =>
      rw [Poller.perform]
      split <;> exact .rests ⟨rfl, rfl, rfl⟩ rfl rfl
  | ring k => exact h.beat_ring paused now k
  | accept run seq status => exact .rests (p.inStep_accept run seq status) rfl rfl
  | fail run error =>
      rw [Poller.perform, Poller.fail]
      split <;> exact .rests ⟨rfl, rfl, rfl⟩ rfl rfl
  | conclude run current previous => exact p.beat_conclude now run current previous hAlive

end Poller

/-! ## Eras -/

/-- A stretch of a run in which ticks keep one rhythm. -/
structure Era where
  /-- When the timer was armed. -/
  since : Nat
  /-- The time between two ticks. -/
  period : Nat
  /-- Whether a run begins with it, and so a tick at once. -/
  first : Bool
  /-- When it was over, if it is. -/
  ended : Option Nat := none
  deriving Repr, DecidableEq

namespace Era

/-- The ticks of an era up to the `n`-th after its beginning, newest first. -/
def ticks (e : Era) : Nat → List Nat
  | 0 => if e.first then [e.since] else []
  | n + 1 => (e.since + (n + 1) * e.period) :: e.ticks n

/-- The `n`-th tick after the beginning of an era is the last one so far: it has come, and the
next lies ahead. Of a tick that is due at the very end of an era nothing is said, nor of one
that is due now, unless all that is due is done. -/
def LastTick (e : Era) (now : Nat) (settled : Prop) (n : Nat) : Prop :=
  match e.ended with
  | some t => e.since + n * e.period ≤ t ∧ t ≤ e.since + (n + 1) * e.period
  | none => e.since + n * e.period ≤ now ∧ now ≤ e.since + (n + 1) * e.period ∧
      (settled → now < e.since + (n + 1) * e.period)

/-- The end of an era. -/
def finish (e : Era) (now : Nat) : Era := { e with ended := some now }

theorem ticks_finish (e : Era) (now n : Nat) : (e.finish now).ticks n = e.ticks n := by
  induction n with
  | zero => rfl
  | succ n ih => rw [ticks, ticks, ih]; rfl

end Era

/-- **Ticks keep time**: they are those of the eras, all of them and no others. -/
inductive KeepTime (now : Nat) (settled : Prop) : List Era → List Nat → Prop
  | nil : KeepTime now settled [] []
  | cons (e : Era) (n : Nat) {eras : List Era} {times : List Nat} (last : e.LastTick now settled n)
      (earlier : KeepTime now settled eras times) :
      KeepTime now settled (e :: eras) (e.ticks n ++ times)

namespace Scene

variable {ω : Type}

/-- The time between two ticks of poller `i`. -/
def period (s : Scene ω) (i : Nat) : Nat := (s.fleet.pollers[i]?.map Poller.period).getD 0

/-- The live timers of poller `i`. -/
def timers (s : Scene ω) (i : Nat) : List (Timer Alarm) :=
  (s.fleet.pollers[i]?.map fun p => p.timers.live).getD []

/-- Whether a move opens an active window of poller `i`. -/
def opens (s : Scene ω) (i : Nat) : Move ω → Bool
  | .operate j .enterActive => j == i && s.fleet.allows i .enterActive
  | _ => false

variable [FetchSource ω]

/-- The eras of poller `i` after a move, newest first. One begins with a start, whenever an
active window is opened, and when the poller goes from active to idle; the one before is over
then, or when the poller stops. -/
def markEra (s : Scene ω) (i : Nat) (m : Move ω) (eras : List Era) : List Era :=
  let now := s.fleet.now
  let before := s.mode i
  let after := (s.move m).mode i
  let period := (s.move m).period i
  if before.isPolling then
    if after.isPolling then
      if s.opens i m || (before = .active && after = .idle) then
        ⟨now, period, false, none⟩ :: eras.modifyHead (·.finish now)
      else eras
    else eras.modifyHead (·.finish now)
  else if after.isPolling then ⟨now, period, true, none⟩ :: eras
  else eras

/-- The eras of poller `i` in a run of moves. -/
def eras (s₀ : Scene ω) (i : Nat) : List (Move ω) → List Era
  | [] => []
  | m :: past => (s₀.after past).markEra i m (s₀.eras i past)

/-- When poller `i` attempted a fetch in a run of moves, newest first: each time at which a
tick of it started a fetch or was skipped. -/
def attempts (s₀ : Scene ω) (i : Nat) : List (Move ω) → List Nat
  | [] => []
  | m :: past =>
    List.replicate ((s₀.after past).attemptsBy i m) (s₀.after past).fleet.now
      ++ s₀.attempts i past

/-- Time passes continuously for poller `i` in a run of moves: the clock never runs past the
deadline of a timer that has yet to fire. -/
def Continuous (s₀ : Scene ω) (i : Nat) : List (Move ω) → Prop
  | [] => True
  | m :: past => s₀.Continuous i past ∧
      ∀ t ∈ (s₀.after (m :: past)).timers i, (s₀.after (m :: past)).fleet.now ≤ t.deadline

end Scene

/-! ## The invariant -/

/-- Eras that are over, with their ticks. -/
def Over (eras : List Era) (times : List Nat) : Prop :=
  ∀ now settled, KeepTime now settled eras times

/-- **What a poller keeps**: the ticks were those of its eras; while it polls, the newest era
is not over, and the next tick of it is the one the tick timer is due for. -/
inductive Poller.Keeps (now : Nat) (p : Poller) : List Era → List Nat → Prop
  | stopped {eras : List Era} {times : List Nat} (mode : p.mode.isPolling = false)
      (closed : Over eras times) : Poller.Keeps now p eras times
  | polling (e : Era) (n : Nat) {eras : List Era} {times : List Nat}
      (mode : p.mode.isPolling = true) (goesOn : e.ended = none) (period : e.period = p.period)
      (come : e.since + n * e.period ≤ now) (due : p.DueAt (e.since + (n + 1) * e.period))
      (closed : Over eras times) : Poller.Keeps now p (e :: eras) (e.ticks n ++ times)

/-- An era that ends before its next tick is over. -/
theorem Over.finish {e : Era} {n now : Nat} {eras : List Era} {times : List Nat}
    (h : Over eras times) (hCome : e.since + n * e.period ≤ now)
    (hNext : now ≤ e.since + (n + 1) * e.period) :
    Over (e.finish now :: eras) (e.ticks n ++ times) := by
  intro now' settled
  rw [← e.ticks_finish now n]
  exact .cons (e.finish now) n ⟨hCome, hNext⟩ (h now' settled)

namespace Poller

variable {p q : Poller} {entered : Option Nat} {now now' : Nat} {eras : List Era}
  {times : List Nat}

/-- Nothing happens to the rhythm, and time passes. -/
theorem Keeps.rests (h : p.Keeps now eras times) (hStep : p.InStep q)
    (hPeriod : q.period = p.period) (hNow : now ≤ now') : q.Keeps now' eras times := by
  cases h with
  | stopped mode closed => exact .stopped (by rw [hStep.mode]; exact mode) closed
  | polling e n mode goesOn period come due closed =>
      exact .polling e n (by rw [hStep.mode]; exact mode) goesOn (period.trans hPeriod.symm)
        (Nat.le_trans come hNow) (hStep.dueAt due) closed

/-- The tick timer fires at its time, and the next tick is due one period later. -/
theorem Keeps.ticks (h : p.Keeps now eras times) (hSound : p.Sound entered)
    (hMode : q.mode = p.mode) (hPeriod : q.period = p.period) (hPolling : p.mode.isPolling = true)
    (hDue : p.DueAt now) (hNext : q.DueAt (now + p.period)) :
    q.Keeps now eras (now :: times) := by
  cases h with
  | stopped mode => rw [hPolling] at mode; cases mode
  | polling e n mode goesOn period come due closed =>
      have hNow : e.since + (n + 1) * e.period = now := by
        obtain ⟨t, ht, hHandle, hDeadline⟩ := hDue
        exact (hSound.eq_of_dueAt ht hHandle due).symm.trans hDeadline
      have hLater : e.since + (n + 1 + 1) * e.period = now + p.period := by
        calc e.since + (n + 1 + 1) * e.period
            = e.since + (n + 1) * e.period + e.period := by rw [Nat.add_one_mul, Nat.add_assoc]
          _ = now + p.period := by rw [hNow, period]
      -- The tick is the next one of the era.
      rw [← List.cons_append, show now :: e.ticks n = e.ticks (n + 1) by rw [Era.ticks, hNow]]
      exact .polling e (n + 1) (by rw [hMode]; exact mode) goesOn (period.trans hPeriod.symm)
        (Nat.le_of_eq hNow) (hLater ▸ hNext) closed

/-- An era begins now. -/
theorem keeps_of_new (hPolling : q.mode.isPolling = true) (hNext : q.DueAt (now + q.period))
    (first : Bool) (hOver : Over eras times) :
    q.Keeps now (⟨now, q.period, first, none⟩ :: eras) ((if first then [now] else []) ++ times) :=
  .polling ⟨now, q.period, first, none⟩ 0 hPolling rfl rfl (by simp) (by simpa using hNext) hOver

/-- The eras of a poller that is stopped are over. -/
theorem Keeps.over_of_stopped (h : p.Keeps now eras times) (hStopped : p.mode.isPolling = false) :
    Over eras times := by
  cases h with
  | stopped mode closed => exact closed
  | polling e n mode => rw [hStopped] at mode; cases mode

/-- The newest era of a poller that polls is over as soon as something ends it. -/
theorem Keeps.over_of_polling (h : p.Keeps now eras times) (hPolling : p.mode.isPolling = true)
    (hDue : ∀ deadline, p.DueAt deadline → now ≤ deadline) :
    Over (eras.modifyHead (·.finish now)) times := by
  cases h with
  | stopped mode => rw [hPolling] at mode; cases mode
  | polling e n mode goesOn period come due closed => exact closed.finish come (hDue _ due)

/-- What a poller keeps, as long as its timers are not overdue. -/
theorem Keeps.keepTime (h : p.Keeps now eras times)
    (hOnTime : ∀ t ∈ p.timers.live, now ≤ t.deadline) :
    KeepTime now (∀ t ∈ p.timers.live, now < t.deadline) eras times := by
  cases h with
  | stopped mode closed => exact closed _ _
  | polling e n mode goesOn period come due closed =>
      refine .cons e n ?_ (closed _ _)
      obtain ⟨t, ht, -, hDeadline⟩ := due
      rw [Era.LastTick, goesOn, ← hDeadline]
      exact ⟨come, hOnTime t ht, fun hSettled => hSettled t ht⟩

end Poller

namespace Scene

variable {ω : Type} {s : Scene ω} {i : Nat} {m : Move ω} {p : Poller} {entered : Option Nat}

/-- Whatever move comes next, it is a beat. -/
theorem beat_turn (hp : s.fleet.pollers[i]? = some p) (hSound : p.Sound entered)
    (hAlive : (s.turn m i p).alive = true) :
    p.Beat s.fleet.now (s.turn m i p) (s.ticks i m) (s.opens i m) := by
  cases hDeed : s.deed? m with
  | none =>
      rw [turn_of_none hDeed]
      have hTicks : s.ticks i m = false := by rw [ticks, hDeed]; rfl
      have hOpens : s.opens i m = false := by
        cases m with
        | operate => cases hDeed
        | _ => rfl
      exact .rests (.refl p) hTicks hOpens
  | some x =>
      obtain ⟨j, d⟩ := x
      by_cases hj : j = i
      · subst hj
        have hOpens : s.opens j m = p.opens d := by
          cases meets_of_deed hDeed with
          | operate o => cases o <;> simp [opens, Poller.opens, Fleet.allows_eq hp]
          | _ => rfl
        rw [turn_of_deed hDeed] at hAlive ⊢
        rw [ticks_of_deed hp hDeed, hOpens]
        exact hSound.beat _ _ hAlive
      · rw [turn_of_other hDeed hj]
        have hTicks : s.ticks i m = false := by simp [ticks, hDeed, hj]
        have hOpens : s.opens i m = false := by
          cases m with
          | operate j' o =>
              obtain ⟨rfl, -⟩ := Prod.mk.inj (Option.some.inj hDeed)
              cases o <;> simp [opens, hj]
          | _ => rfl
        exact .rests (.refl p) hTicks hOpens

variable [FetchSource ω]

theorem markEra_of_same (eras : List Era) (hSame : (s.move m).mode i = s.mode i)
    (hOpens : s.opens i m = false) : s.markEra i m eras = eras := by
  rw [markEra, hSame]
  cases s.mode i <;> simp [Mode.isPolling, hOpens]

theorem markEra_of_begins (eras : List Era) (hBefore : (s.mode i).isPolling = false)
    (hAfter : ((s.move m).mode i).isPolling = true) :
    s.markEra i m eras = ⟨s.fleet.now, (s.move m).period i, true, none⟩ :: eras := by
  simp [markEra, hBefore, hAfter]

theorem markEra_of_rearms (eras : List Era) (hBefore : (s.mode i).isPolling = true)
    (hAfter : ((s.move m).mode i).isPolling = true)
    (hCause : s.opens i m = true ∨ s.mode i = .active ∧ (s.move m).mode i = .idle) :
    s.markEra i m eras = ⟨s.fleet.now, (s.move m).period i, false, none⟩
      :: eras.modifyHead (·.finish s.fleet.now) := by
  simp [markEra, hBefore, hAfter, hCause]

theorem markEra_of_ends (eras : List Era) (hBefore : (s.mode i).isPolling = true)
    (hAfter : ((s.move m).mode i).isPolling = false) :
    s.markEra i m eras = eras.modifyHead (·.finish s.fleet.now) := by
  simp [markEra, hBefore, hAfter]

/-- **What a move is to the eras of a poller** that is `p` before it and `q` after it, and when it
attempts a fetch. -/
inductive Turns (now : Nat) (p q : Poller) (eras : List Era) : List Era → List Nat → Prop
  | rests (same : p.InStep q) (period : q.period = p.period) : Turns now p q eras eras []
  | ticks (deadline : Nat) (mode : q.mode = p.mode) (period : q.period = p.period)
      (polling : p.mode.isPolling = true) (due : p.DueAt deadline) (late : deadline ≤ now)
      (next : q.DueAt (Timer.following p.period deadline now)) : Turns now p q eras eras [now]
  | begins (before : p.mode.isPolling = false) (polling : q.mode.isPolling = true)
      (next : q.DueAt (now + q.period)) :
      Turns now p q eras (⟨now, q.period, true, none⟩ :: eras) [now]
  | rearms (before : p.mode.isPolling = true) (polling : q.mode.isPolling = true)
      (next : q.DueAt (now + q.period)) :
      Turns now p q eras (⟨now, q.period, false, none⟩ :: eras.modifyHead (·.finish now)) []
  | ends (before : p.mode.isPolling = true) (polling : q.mode.isPolling = false) :
      Turns now p q eras (eras.modifyHead (·.finish now)) []

theorem turns_move (eras : List Era) (hp : s.fleet.pollers[i]? = some p)
    (hSound : p.Sound entered) (hAlive : (s.turn m i p).alive = true) :
    Turns s.fleet.now p (s.turn m i p) eras (s.markEra i m eras)
      (List.replicate (s.attemptsBy i m) s.fleet.now) := by
  have hBefore : s.mode i = p.mode := mode_of_getElem? hp
  have hAfter : (s.move m).mode i = (s.turn m i p).mode :=
    mode_of_getElem? (by rw [getElem?_move, hp]; rfl)
  have hPeriod : (s.move m).period i = (s.turn m i p).period := by
    rw [period, getElem?_move, hp]; rfl
  have hCadence : (s.turn m i p).cadence = p.cadence := (s.alike_turn m i p).cadence
  have hKept : (s.turn m i p).mode = p.mode → (s.turn m i p).period = p.period := by
    intro hMode
    rw [Poller.period, hCadence, hMode, Poller.period]
  rw [attemptsBy_eq hp hSound]
  cases beat_turn hp hSound hAlive with
  | rests same hTicks hOpens =>
      rw [markEra_of_same eras (by rw [hBefore, hAfter, same.mode]) hOpens, hTicks]
      exact .rests same (hKept same.mode)
  | ticks deadline hMode hPolling due late next hTicks hOpens =>
      rw [markEra_of_same eras (by rw [hBefore, hAfter, hMode]) hOpens, hTicks]
      exact .ticks deadline hMode (hKept hMode) hPolling due late next
  | begins before hPolling next hTicks =>
      rw [markEra_of_begins eras (by rw [hBefore, before]) (by rw [hAfter, hPolling]), hPeriod,
        hTicks]
      rw [← hCadence] at next
      exact .begins before hPolling next
  | rearms before hPolling cause next hTicks =>
      rw [markEra_of_rearms eras (by rw [hBefore, before]) (by rw [hAfter, hPolling])
        (by rw [hBefore, hAfter]; exact cause), hPeriod, hTicks]
      rw [← hCadence] at next
      exact .rearms before hPolling next
  | ends before hPolling hTicks =>
      rw [markEra_of_ends eras (by rw [hBefore, before]) (by rw [hAfter, hPolling]), hTicks]
      exact .ends before hPolling

/-- **Every move** of a run in which no timer is overdue keeps time. -/
theorem keeps_move {eras : List Era} {times : List Nat} (h : p.Keeps s.fleet.now eras times)
    (hp : s.fleet.pollers[i]? = some p) (hSound : p.Sound entered)
    (hAlive : (s.turn m i p).alive = true)
    (hOnTime : ∀ t ∈ p.timers.live, s.fleet.now ≤ t.deadline) :
    (s.turn m i p).Keeps (s.move m).fleet.now (s.markEra i m eras)
      (List.replicate (s.attemptsBy i m) s.fleet.now ++ times) := by
  have hNow : s.fleet.now ≤ (s.move m).fleet.now := by
    rw [now_move]
    omega
  have hDue : ∀ deadline, p.DueAt deadline → s.fleet.now ≤ deadline := by
    rintro deadline ⟨t, ht, -, rfl⟩
    exact hOnTime t ht
  have hTurns := turns_move eras hp hSound hAlive
  -- What the beat makes of the poller; afterwards time passes, if that is what the move is.
  suffices hDone : (s.turn m i p).Keeps s.fleet.now (s.markEra i m eras)
      (List.replicate (s.attemptsBy i m) s.fleet.now ++ times) from
    hDone.rests (.refl _) rfl hNow
  generalize s.markEra i m eras = eras', List.replicate (s.attemptsBy i m) s.fleet.now = new
    at hTurns ⊢
  cases hTurns with
  | rests same hPeriod => exact h.rests same hPeriod (Nat.le_refl _)
  | ticks deadline hMode hPeriod hPolling due late next =>
      -- The timer is neither early nor late, so it fires at its time and keeps its rhythm.
      obtain rfl : deadline = s.fleet.now := Nat.le_antisymm late (hDue _ due)
      rw [Timer.following, if_neg (by omega)] at next
      exact h.ticks hSound hMode hPeriod hPolling due next
  | begins before hPolling next =>
      exact Poller.keeps_of_new hPolling next true (h.over_of_stopped before)
  | rearms before hPolling next =>
      exact Poller.keeps_of_new hPolling next false (h.over_of_polling before hDue)
  | ends before hPolling => exact .stopped hPolling (h.over_of_polling before hDue)

/-- No timer is overdue at the end of a run in which time passes continuously. -/
theorem Fresh.onTime {s₀ : Scene ω} (h : s₀.Fresh) {past : List (Move ω)}
    (hContinuous : s₀.Continuous i past) (hp : (s₀.after past).fleet.pollers[i]? = some p) :
    ∀ t ∈ p.timers.live, (s₀.after past).fleet.now ≤ t.deadline := by
  cases past with
  | nil =>
      obtain ⟨name, cadence, callback, rfl⟩ := h.pollers p (List.mem_of_getElem? hp)
      exact nofun
  | cons m past =>
      have hTimers : (s₀.after (m :: past)).timers i = p.timers.live := by
        rw [timers, hp]
        rfl
      rw [← hTimers]
      exact hContinuous.2

/-- A poller keeps time in every run in which time passes continuously. -/
theorem Fresh.keepsTime {s₀ : Scene ω} (h : s₀.Fresh) {past : List (Move ω)}
    (hContinuous : s₀.Continuous i past) (hp : (s₀.after past).fleet.pollers[i]? = some p)
    (hAlive : p.alive = true) :
    p.Keeps (s₀.after past).fleet.now (s₀.eras i past) (s₀.attempts i past) := by
  induction past generalizing p with
  | nil =>
      obtain ⟨name, cadence, callback, rfl⟩ := h.pollers p (List.mem_of_getElem? hp)
      exact .stopped rfl fun _ _ => .nil
  | cons m past ih =>
      obtain ⟨q, hq, rfl⟩ := exists_of_move hp
      have hBefore := alive_of_turn hAlive
      exact keeps_move (ih hContinuous.1 hq hBefore) hq (h.sound past hq hBefore) hAlive
        (h.onTime hContinuous.1 hq)

/-- **Ticks come at their times.** Let time pass continuously in a run, whatever else
happens. The attempts of a poller, each a fetch that a tick has started or a skip, are then
exactly the ticks of its eras: in each era one at once, if a run begins with it, and one for
each period that has gone by since it began, up to its end. What is due at the very instant
of an end may have come or not; and what is due now has come if no timer is left to fire. -/
theorem ticks_keep_time {s₀ : Scene ω} (hFresh : s₀.Fresh) {past : List (Move ω)}
    (hContinuous : s₀.Continuous i past) (hp : (s₀.after past).fleet.pollers[i]? = some p)
    (hAlive : p.alive = true) :
    KeepTime (s₀.after past).fleet.now
      (∀ t ∈ p.timers.live, (s₀.after past).fleet.now < t.deadline)
      (s₀.eras i past) (s₀.attempts i past) := by
  exact (hFresh.keepsTime hContinuous hp hAlive).keepTime (hFresh.onTime hContinuous hp)

/-- A run that begins with a skip, and in which the poller is made active between two ticks. -/
theorem ticks_keep_time_quickened :
    let past : List (Move Scripts) :=
      [.ring 0 0, .pass 2000, .operate 0 .enterActive, .pass 500, .ring 0 0, .pass 10000, .resume,
        .pass 2000, .operate 0 .start, .signal .trigger]
    lone.eras 0 past = [⟨12500, 2000, false, none⟩, ⟨0, 12000, true, some 12500⟩] ∧
      lone.attempts 0 past = [14500, 12000, 0] ∧ ∃ settled, settled ∧
        KeepTime 14500 settled (lone.eras 0 past) (lone.attempts 0 past) := by
  intro past
  have hContinuous : lone.Continuous 0 past := by
    simp only [past, Continuous, true_and]
    decide
  obtain ⟨p, hp, hAlive, hSettled⟩ : ∃ p, (lone.after past).fleet.pollers[0]? = some p ∧
      p.alive = true ∧ ∀ t ∈ p.timers.live, (lone.after past).fleet.now < t.deadline :=
    ⟨_, rfl, rfl, by decide⟩
  exact ⟨by decide, by decide, _, hSettled, ticks_keep_time lone_fresh hContinuous hp hAlive⟩

end Scene

end Lookout.Polling
