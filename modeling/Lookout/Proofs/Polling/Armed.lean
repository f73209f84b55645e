import Lookout.Proofs.Polling.Flights

set_option autoImplicit false

/-! # A poller has the timers of its mode

`Poller.Armed` lists the timers a poller has: none while it is stopped, its tick timer while
it is idle, its tick timer and the one that ends its window while it is active. They are all
there are, so a timer that was replaced or cancelled can never fire again. `Poller.Sound`
adds what goes with it, and is the invariant of everything that can happen to a poller that
still exists (`Sound.perform`).

Opening a window, closing one and ending a run each replace both timers. All they need is
that no other timer is live (`Poller.Tidy`), which is also true in between, when a timer has
fired and not yet done what it is for.
-/

namespace Lookout

namespace Timers

variable {α : Type}

@[simp] theorem made_cancel? (t : Timers α) (h : Option Nat) : (t.cancel? h).made = t.made := by
  cases h <;> rfl

theorem mem_cancel? {t : Timers α} {h : Option Nat} {x : Timer α} :
    x ∈ (t.cancel? h).live ↔ x ∈ t.live ∧ h ≠ some x.handle := by
  cases h with
  | none => simp [cancel?]
  | some n =>
      show x ∈ t.live.filter (fun y => y.handle != n) ↔ _
      rw [List.mem_filter, bne_iff_ne, ne_eq, ne_eq, Option.some.injEq, eq_comm (b := n)]

/-- A timer that has just been made is not cancelled by an older handle. -/
theorem cancel?_add {t : Timers α} {h : Option Nat} (hOld : h ≠ some t.made) (deadline : Nat)
    (period : Option Nat) (action : α) :
    (t.add deadline period action).cancel? h = (t.cancel? h).add deadline period action := by
  cases h with
  | none => rfl
  | some n =>
      have hApart : t.made ≠ n := fun hSame => hOld (congrArg some hSame.symm)
      simp [cancel?, cancel, add, hApart]

/-- If two handles are those of all live timers, none is live once both are cancelled. -/
theorem live_cancel_both {t : Timers α} {a b : Option Nat}
    (h : ∀ x ∈ t.live, a = some x.handle ∨ b = some x.handle) :
    ((t.cancel? a).cancel? b).live = [] := by
  rw [List.eq_nil_iff_forall_not_mem]
  intro x hx
  rw [mem_cancel?, mem_cancel?] at hx
  obtain ⟨⟨hLive, hNotA⟩, hNotB⟩ := hx
  cases h x hLive with
  | inl hA => exact hNotA hA
  | inr hB => exact hNotB hB

end Timers

namespace Polling

namespace Poller

/-- The timers a poller has in its mode; `entered` is when it was last made active. -/
inductive Armed (entered : Option Nat) (p : Poller) : Prop
  | stopped (mode : p.mode = .stopped) (live : p.timers.live = [])
      (tick : p.tickTimer = none) (expiry : p.expiryTimer = none)
  | idle (handle deadline : Nat) (mode : p.mode = .idle)
      (live : p.timers.live = [⟨handle, deadline, some p.cadence.idle, .tick p.tickGeneration⟩])
      (tick : p.tickTimer = some handle) (expiry : p.expiryTimer = none)
  | active (opened handle deadline handle' : Nat) (mode : p.mode = .active)
      (entered : entered = some opened)
      (live : p.timers.live =
        [⟨handle, deadline, some p.cadence.active, .tick p.tickGeneration⟩,
          ⟨handle', opened + p.cadence.window, none, .expiry p.expiryGeneration⟩])
      (tick : p.tickTimer = some handle) (expiry : p.expiryTimer = some handle')
      (apart : handle ≠ handle')

/-- No timer is live but those the poller has the handles of. -/
structure Tidy (p : Poller) : Prop where
  owned : ∀ t ∈ p.timers.live, p.tickTimer = some t.handle ∨ p.expiryTimer = some t.handle
  made : ∀ h, p.expiryTimer = some h → h < p.timers.made

/-- **The invariant of a poller that exists**: it has the timers of its mode, shows its mode,
has forgotten its status if it is stopped, and has applied no result it did not ask for. -/
structure Sound (entered : Option Nat) (p : Poller) : Prop where
  armed : p.Armed entered
  made : ∀ h, p.expiryTimer = some h → h < p.timers.made
  forgotten : p.mode = .stopped → p.lastStatus = none
  applied_le : p.applied ≤ p.issued
  shown : p.board.value = p.mode

variable {entered : Option Nat} {p q : Poller}

theorem Sound.tidy (h : p.Sound entered) : p.Tidy where
  owned := by
    intro t ht
    cases h.armed with
    | stopped _ live => simp [live] at ht
    | idle handle deadline _ live tick _ =>
        rw [live, List.mem_singleton] at ht
        exact .inl (ht ▸ tick)
    | active opened handle deadline handle' _ _ live tick expiry _ =>
        rw [live, List.mem_cons, List.mem_singleton] at ht
        rcases ht with rfl | rfl
        · exact .inl tick
        · exact .inr expiry
  made := h.made

/-! ## What does not touch the timers -/

/-- `q` is `p` as far as its timers, its mode and its results go; it may have asked for more
fetches. -/
structure Still (p q : Poller) : Prop where
  mode : q.mode = p.mode
  cadence : q.cadence = p.cadence
  timers : q.timers = p.timers
  tickTimer : q.tickTimer = p.tickTimer
  expiryTimer : q.expiryTimer = p.expiryTimer
  tickGeneration : q.tickGeneration = p.tickGeneration
  expiryGeneration : q.expiryGeneration = p.expiryGeneration
  lastStatus : q.lastStatus = p.lastStatus
  applied : q.applied = p.applied
  issued : p.issued ≤ q.issued
  board : q.board = p.board

theorem Armed.still (h : p.Armed entered) (hStill : p.Still q) : q.Armed entered := by
  obtain ⟨hMode, hCadence, hTimers, hTick, hExpiry, hTickGen, hExpiryGen, -, -, -, -⟩ := hStill
  cases h with
  | stopped mode live tick expiry =>
      exact .stopped (hMode.trans mode) (hTimers ▸ live) (hTick.trans tick) (hExpiry.trans expiry)
  | idle handle deadline mode live tick expiry =>
      refine .idle handle deadline (hMode.trans mode) ?_ (hTick.trans tick) (hExpiry.trans expiry)
      rw [hTimers, hCadence, hTickGen, live]
  | active opened handle deadline handle' mode entered live tick expiry apart =>
      refine .active opened handle deadline handle' (hMode.trans mode) entered ?_
        (hTick.trans tick) (hExpiry.trans expiry) apart
      rw [hTimers, hCadence, hTickGen, hExpiryGen, live]

theorem Sound.still (h : p.Sound entered) (hStill : p.Still q) : q.Sound entered where
  armed := h.armed.still hStill
  made := by
    rw [hStill.expiryTimer, hStill.timers]
    exact h.made
  forgotten := by
    rw [hStill.mode, hStill.lastStatus]
    exact h.forgotten
  applied_le := by
    rw [hStill.applied]
    exact Nat.le_trans h.applied_le hStill.issued
  shown := by
    rw [hStill.board, hStill.mode]
    exact h.shown

theorem still_tick (p : Poller) (paused : Bool) (now : Nat) : p.Still (p.tick paused now) := by
  unfold tick
  split
  next => exact ⟨rfl, rfl, rfl, rfl, rfl, rfl, rfl, rfl, rfl, Nat.le_refl _, rfl⟩
  next => exact ⟨rfl, rfl, rfl, rfl, rfl, rfl, rfl, rfl, rfl, Nat.le_succ _, rfl⟩

theorem still_own (p : Poller) (o : Owners) : p.Still { p with owners := o } :=
  ⟨rfl, rfl, rfl, rfl, rfl, rfl, rfl, rfl, rfl, Nat.le_refl _, rfl⟩

theorem still_publish (p : Poller) (e : TickEvent) : p.Still (p.publish e) :=
  ⟨rfl, rfl, rfl, rfl, rfl, rfl, rfl, rfl, rfl, Nat.le_refl _, rfl⟩

theorem still_noteFetch (p : Poller) (now : Nat) : p.Still (p.noteFetch now) :=
  ⟨rfl, rfl, rfl, rfl, rfl, rfl, rfl, rfl, rfl, Nat.le_refl _, rfl⟩

theorem still_beginReport (p : Poller) (current previous : String) :
    p.Still (p.beginReport current previous) :=
  ⟨rfl, rfl, rfl, rfl, rfl, rfl, rfl, rfl, rfl, Nat.le_refl _, rfl⟩

theorem Sound.release (h : p.Sound entered) (hAlive : p.release.alive = true) :
    p.release.Sound entered := by
  rw [alive_release] at hAlive
  rw [release_of_alive hAlive]
  exact h

/-! ## What replaces the timers -/

/-- A run that ends leaves no timer. -/
theorem Tidy.endRun (h : p.Tidy) (hApplied : p.applied ≤ p.issued) :
    p.endRun.Sound entered where
  armed := .stopped rfl (Timers.live_cancel_both h.owned) rfl rfl
  made := nofun
  forgotten _ := rfl
  applied_le := hApplied
  shown := Watch.value_publishChange _ _

/-- Closing a window leaves the tick timer of the idle period. -/
theorem Tidy.closeWindow (h : p.Tidy) (hApplied : p.applied ≤ p.issued) (now : Nat) :
    (p.closeWindow now).Sound entered where
  armed := by
    refine .idle (p.closeWindow now).timers.made.pred (now + p.cadence.idle) rfl ?_ rfl rfl
    show ((p.timers.cancel? p.expiryTimer).cancel? p.tickTimer).live ++ _ = _
    rw [Timers.live_cancel_both fun t ht => (h.owned t ht).symm]
    rfl
  made := nofun
  forgotten := nofun
  applied_le := hApplied
  shown := Watch.value_publishChange _ _

/-- Opening a window leaves the tick timer of the active period and the timer that ends the
window. -/
theorem Tidy.openWindow (h : p.Tidy) (hApplied : p.applied ≤ p.issued) (now : Nat) :
    (p.openWindow now).Sound (some now) := by
  -- The tick timer is replaced before the expiry timer is cancelled. The handle to cancel is
  -- an older one, so the order does not matter, and both go before the new ones are made.
  have hOld : p.expiryTimer ≠ some (p.timers.cancel? p.tickTimer).made := by
    intro hSame
    have hMade := h.made _ hSame
    simp at hMade
  have hTimers : (p.openWindow now).timers
      = (((p.timers.cancel? p.tickTimer).cancel? p.expiryTimer).scheduleEvery now
          p.cadence.active (.tick (p.tickGeneration + 1))).scheduleAfter now p.cadence.window
            (.expiry (p.expiryGeneration + 1)) := by
    show (((p.timers.cancel? p.tickTimer).scheduleEvery now p.cadence.active
      (.tick (p.tickGeneration + 1))).cancel? p.expiryTimer).scheduleAfter now p.cadence.window
        (.expiry (p.expiryGeneration + 1)) = _
    rw [Timers.scheduleEvery, Timers.cancel?_add hOld]
    rfl
  have hTick : (p.openWindow now).tickTimer = some p.timers.made :=
    congrArg some (Timers.made_cancel? _ _)
  have hExpiry : (p.openWindow now).expiryTimer = some (p.timers.made + 1) := by
    show some (((p.timers.cancel? p.tickTimer).add _ _ _).cancel? p.expiryTimer).made = _
    rw [Timers.made_cancel?, Timers.add, Timers.made_cancel?]
  refine ⟨.active now p.timers.made (now + p.cadence.active) (p.timers.made + 1) rfl rfl ?_ hTick
    hExpiry (by omega), ?_, nofun, hApplied, Watch.value_publishChange _ _⟩
  · rw [hTimers]
    simp only [Timers.scheduleAfter, Timers.scheduleEvery, Timers.add,
      Timers.live_cancel_both h.owned, Timers.made_cancel?, List.nil_append]
    rfl
  · intro n hn
    obtain rfl := Option.some.inj (hExpiry.symm.trans hn)
    rw [hTimers]
    simp [Timers.scheduleAfter, Timers.scheduleEvery, Timers.add]

/-- A run begins with the tick timer of the idle period. -/
theorem Sound.start (h : p.Sound entered) (paused : Bool) (now : Nat) :
    (p.start paused now).Sound entered := by
  unfold Poller.start
  split
  next => exact h
  next hStopped =>
    cases h.armed with
    | stopped mode live tick expiry =>
        have hBegun : p.beginRun.Still (p.beginRun.tick paused now) := still_tick _ paused now
        have hLive : (p.beginRun.tick paused now).timers.live = [] :=
          (congrArg Timers.live hBegun.timers).trans live
        have hTick : (p.beginRun.tick paused now).tickTimer = none := hBegun.tickTimer.trans tick
        refine ⟨.idle (p.beginRun.tick paused now).timers.made (now + p.cadence.idle)
          hBegun.mode ?_ ?_ (hBegun.expiryTimer.trans expiry), ?_, ?_, ?_, ?_⟩
        · simp only [armTicks, hTick, Timers.cancel?, Timers.scheduleEvery, Timers.add, hLive,
            List.nil_append, hBegun.cadence]
          rfl
        · simp only [armTicks, hTick, Timers.cancel?]
        · intro n hn
          exact absurd (hn.symm.trans (hBegun.expiryTimer.trans expiry)) nofun
        · intro hMode
          exact absurd (hMode.symm.trans hBegun.mode) nofun
        · calc (p.beginRun.tick paused now).applied
              = p.applied := hBegun.applied
            _ ≤ p.issued := h.applied_le
            _ ≤ (p.beginRun.tick paused now).issued := hBegun.issued
        · calc (p.beginRun.tick paused now).board.value
              = p.beginRun.board.value := congrArg Watch.value hBegun.board
            _ = .idle := Watch.value_publishChange _ _
            _ = (p.beginRun.tick paused now).mode := hBegun.mode.symm
    | idle handle deadline mode => simp [mode, Mode.isPolling] at hStopped
    | active opened handle deadline handle' mode => simp [mode, Mode.isPolling] at hStopped

theorem Sound.stop (h : p.Sound entered) : p.stop.Sound entered := by
  unfold Poller.stop
  split
  next => exact h.tidy.endRun h.applied_le
  next => exact h

theorem Sound.exitActive (h : p.Sound entered) (now : Nat) :
    (p.exitActive now).Sound entered := by
  unfold Poller.exitActive
  split
  next => exact h.tidy.closeWindow h.applied_le now
  next => exact h

/-- When the tick timer fires it is armed again, and the tick is one of this run. -/
theorem Sound.tick_fired (h : p.Sound entered) {t : Timer Alarm} (ht : t ∈ p.timers.live)
    (hTick : p.tickTimer = some t.handle) (now : Nat) :
    t.action = .tick p.tickGeneration ∧ p.mode.isPolling = true ∧
      Sound entered { p with timers := p.timers.afterFiring t now } := by
  cases h.armed with
  | stopped _ live => simp [live] at ht
  | idle handle deadline mode live tick expiry =>
      rw [live, List.mem_singleton] at ht
      subst ht
      refine ⟨rfl, by rw [mode]; rfl, ?_, h.made, h.forgotten, h.applied_le, h.shown⟩
      refine .idle handle (Timer.following p.cadence.idle deadline now) mode ?_ tick expiry
      simp [Timers.afterFiring, live, Timer.rearmed]
  | active opened handle deadline handle' mode entered live tick expiry apart =>
      rw [live, List.mem_cons, List.mem_singleton] at ht
      rcases ht with rfl | rfl
      · refine ⟨rfl, by rw [mode]; rfl, ?_, h.made, h.forgotten, h.applied_le, h.shown⟩
        refine .active opened handle (Timer.following p.cadence.active deadline now) handle' mode
          entered ?_ tick expiry apart
        simp [Timers.afterFiring, live, Timer.rearmed, apart.symm]
      · exact absurd (Option.some.inj (tick.symm.trans hTick)) apart

/-- When the timer at the end of a window fires it is gone, and the window is that of now. -/
theorem Sound.expiry_fired (h : p.Sound entered) {t : Timer Alarm} (ht : t ∈ p.timers.live)
    (hExpiry : p.expiryTimer = some t.handle) (now : Nat) :
    t.action = .expiry p.expiryGeneration ∧ p.mode = .active ∧
      Tidy { p with timers := p.timers.afterFiring t now } := by
  cases h.armed with
  | stopped _ live => simp [live] at ht
  | idle handle deadline mode live tick expiry => cases expiry.symm.trans hExpiry
  | active opened handle deadline handle' mode entered live tick expiry apart =>
      rw [live, List.mem_cons, List.mem_singleton] at ht
      rcases ht with rfl | rfl
      · exact absurd (Option.some.inj (expiry.symm.trans hExpiry)) apart.symm
      · refine ⟨rfl, mode, ?_, h.made⟩
        simp [Timers.afterFiring, live, Timer.rearmed, apart, tick]

/-- What a timer that fires does, it does for the run going on: a tick starts a fetch, and
the end of the window brings back the idle period. -/
theorem Sound.ring (h : p.Sound entered) (paused : Bool) (now k : Nat) :
    (p.ring paused now k).Sound entered := by
  unfold Poller.ring
  split
  next => exact h
  next t ht =>
    have hMem : t ∈ p.timers.live := List.mem_of_getElem? ht
    split
    next hDue =>
      -- The timer is one the poller has the handle of, so it is of the present generation.
      cases h.tidy.owned t hMem with
      | inl hTick =>
          obtain ⟨hAction, hPolling, hFired⟩ := h.tick_fired hMem hTick now
          rw [hAction, onAlarm, if_pos ⟨rfl, hPolling⟩]
          exact hFired.still (still_tick _ paused now)
      | inr hExpiry =>
          obtain ⟨hAction, hActive, hFired⟩ := h.expiry_fired hMem hExpiry now
          rw [hAction, onAlarm, if_pos ⟨rfl, hActive⟩]
          exact hFired.closeWindow h.applied_le now
    next => exact h

/-! ## Every deed -/

/-- A success that counts for a sound poller leaves it sound. -/
theorem Sound.accept (h : p.Sound entered) {run seq : Nat} (hIssued : seq ≤ p.issued)
    (status : Option String) : (p.accept run seq status).Sound entered := by
  by_cases hCounts : p.Counts run seq
  · -- It counts only while the poller polls, so no stopped poller gets a status from it.
    have hPolling := hCounts.2.2.1
    have hApplied : (p.apply seq status).Sound entered := by
      refine ⟨?_, h.made, fun hMode => ?_, hIssued, h.shown⟩
      · cases h.armed with
        | stopped mode => rw [mode] at hPolling; cases hPolling
        | idle handle deadline mode live tick expiry =>
            exact .idle handle deadline mode live tick expiry
        | active opened handle deadline handle' mode entered live tick expiry apart =>
            exact .active opened handle deadline handle' mode entered live tick expiry apart
      · rw [show p.mode = .stopped from hMode] at hPolling
        cases hPolling
    obtain ⟨hAlive, hRun, -, hNew⟩ := hCounts
    unfold Poller.accept
    rw [if_neg (by simp [hAlive, hRun, hPolling]), if_neg (by omega)]
    dsimp only
    have hFetched := hApplied.still (still_publish _ (.fetched status))
    split
    next => exact hFetched
    next => exact hFetched.still (still_beginReport _ _ _)
  · rw [accept_of_not_counts hCounts]
    exact h

/-- The end of a report closes the window of the run it is of, and no other. -/
theorem Sound.conclude (h : p.Sound entered) (now run : Nat) (current previous : String)
    (hAlive : (p.conclude now run current previous).alive = true) :
    (p.conclude now run current previous).Sound entered := by
  have hTold := h.still (still_publish p (.statusChanged current previous))
  unfold Poller.conclude at hAlive ⊢
  refine Sound.release (Sound.still ?_ (still_own _ _)) hAlive
  split
  next => exact hTold.tidy.closeWindow hTold.applied_le now
  next => exact hTold

/-- When a deed made the poller active for the last time. -/
def entering (p : Poller) (now : Nat) (entered : Option Nat) : Deed → Option Nat
  | .operate .enterActive =>
    if Operation.enterActive.allowed p.owners then some now else entered
  | _ => entered

/-- What is done with a handle leaves a poller that still exists sound. -/
theorem Sound.operate (h : p.Sound entered) (paused : Bool) (now : Nat) (o : Operation)
    (hAlive : (p.operate paused now o).alive = true) :
    (p.operate paused now o).Sound (if o = .enterActive then some now else entered) := by
  cases o with
  | start => exact h.start paused now
  | guard => exact (h.start paused now).still (still_own _ _)
  | enterActive =>
      have hStarted := h.start paused now
      exact hStarted.tidy.openWindow hStarted.applied_le now
  | exitActive => exact h.exitActive now
  | stop => exact h.stop
  | clone => exact h.still (still_own _ _)
  | dropMain => exact (h.still (still_own _ _)).release hAlive
  | dropClone => exact (h.still (still_own _ _)).release hAlive
  | dropGuard => exact (h.stop.still (still_own _ _)).release hAlive

/-- **Every deed keeps a poller sound**, as long as it exists afterwards, provided that no
result arrives that was not asked for. -/
theorem Sound.perform (h : p.Sound entered) (paused : Bool) (now : Nat) {d : Deed}
    (hIssued : ∀ run seq status, d = .accept run seq status → seq ≤ p.issued)
    (hAlive : (p.perform paused now d).alive = true) :
    (p.perform paused now d).Sound (p.entering now entered d) := by
  cases d with
  | operate o =>
      rw [Poller.perform] at hAlive ⊢
      by_cases hAllowed : o.allowed p.owners = true
      · rw [if_pos hAllowed] at hAlive ⊢
        have hDone := h.operate paused now o hAlive
        cases o with
        | enterActive =>
            rw [entering, if_pos hAllowed]
            exact hDone
        | _ => exact hDone
      · rw [if_neg hAllowed]
        cases o with
        | enterActive =>
            rw [entering, if_neg hAllowed]
            exact h
        | _ => exact h
  | ask =>
      rw [Poller.perform]
      split
      next => exact h.still (still_noteFetch p now)
      next => exact h
  | ring k => exact h.ring paused now k
  | accept run seq status => exact h.accept (hIssued run seq status rfl) status
  | fail run error =>
      rw [Poller.perform, Poller.fail]
      split
      next => exact h.still (still_publish p _)
      next => exact h
  | conclude run current previous => exact h.conclude now run current previous hAlive

theorem Fresh.sound (h : p.Fresh) : p.Sound none := by
  obtain ⟨name, cadence, callback, rfl⟩ := h
  exact ⟨.stopped rfl rfl rfl rfl, nofun, fun _ => rfl, Nat.le_refl 0, rfl⟩

end Poller

/-! ## Every run -/

namespace Scene

variable {ω : Type} [FetchSource ω]

/-- When poller `i` was last made active in a run of moves. -/
def entered (s₀ : Scene ω) (i : Nat) : List (Move ω) → Option Nat
  | [] => none
  | .operate j .enterActive :: past =>
    if j = i ∧ (s₀.after past).fleet.allows i .enterActive then some (s₀.after past).fleet.now
    else s₀.entered i past
  | _ :: past => s₀.entered i past

/-- What a move that leaves poller `i` alone, or is a deed of it, is to `entered`. -/
theorem entered_cons (s₀ : Scene ω) (m : Move ω) (past : List (Move ω)) {i : Nat} {p : Poller}
    (hp : (s₀.after past).fleet.pollers[i]? = some p) :
    s₀.entered i (m :: past) = match (s₀.after past).deed? m with
      | none => s₀.entered i past
      | some (j, d) =>
        if j = i then p.entering (s₀.after past).fleet.now (s₀.entered i past) d
        else s₀.entered i past := by
  cases m with
  | operate j o =>
      cases o with
      | enterActive =>
          simp only [entered, deed?, Poller.entering, Fleet.allows_eq hp]
          split <;> split <;> simp_all
      | _ => simp [entered, deed?, Poller.entering]
  | land k =>
      simp only [entered, deed?]
      cases hf : (s₀.after past).fleet.flights[k]? with
      | none => rfl
      | some f =>
          obtain ⟨due, purpose, effects, result⟩ := f
          cases purpose <;> cases result <;> simp [Flight.deed?, Poller.entering]
  | conclude k =>
      simp only [entered, deed?]
      cases hr : (s₀.after past).reports[k]? with
      | none => rfl
      | some r => simp [Poller.entering]
  | _ => simp [entered, deed?, Poller.entering]

/-- A poller that exists is sound, whatever has happened. -/
theorem Fresh.sound {s₀ : Scene ω} (h : s₀.Fresh) (past : List (Move ω)) {i : Nat} {p : Poller}
    (hp : (s₀.after past).fleet.pollers[i]? = some p) (hAlive : p.alive = true) :
    p.Sound (s₀.entered i past) := by
  induction past generalizing p with
  | nil => exact (h.pollers p (List.mem_of_getElem? hp)).sound
  | cons m past ih =>
      obtain ⟨q, hq, rfl⟩ := exists_of_move hp
      have hSound := ih hq (alive_of_turn hAlive)
      rw [entered_cons s₀ m past hq]
      cases hDeed : (s₀.after past).deed? m with
      | none =>
          rw [turn_of_none hDeed]
          exact hSound
      | some x =>
          obtain ⟨j, d⟩ := x
          by_cases hj : j = i
          · subst hj
            rw [turn_of_deed hDeed] at hAlive ⊢
            simp only [if_true]
            -- A fetch that lands bears a number that was given out.
            refine hSound.perform _ _ (fun run seq status hAccept => ?_) hAlive
            subst hAccept
            cases meets_of_deed hDeed with
            | accept k f run seq status flight purpose result =>
                have hMem := List.mem_of_getElem? (getElem?_purposes flight)
                rw [purpose] at hMem
                exact ((h.marked past hq).flights run seq hMem).issued
          · rw [turn_of_other hDeed hj]
            simp only [if_neg hj]
            exact hSound

/-- **A poller always has the timers of its mode, and no others.** Whatever has happened to
it, in whatever order, and whatever its callback has done in the middle of it: while it is
stopped, no timer is live and its status is forgotten; while it is idle, one recurring timer
is live, with the idle period and the generation that counts; while it is active, one with
the active period and one that fires once, at the end of a window that began when it was
last made active. It has applied no result that it did not ask for, and what observers see
is its mode. -/
theorem timers_of_mode {s₀ : Scene ω} (hFresh : s₀.Fresh) (past : List (Move ω)) {i : Nat}
    {p : Poller} (hp : (s₀.after past).fleet.pollers[i]? = some p) (hAlive : p.alive = true) :
    (match p.mode with
      | .stopped =>
        p.timers.live = [] ∧ p.tickTimer = none ∧ p.expiryTimer = none ∧ p.lastStatus = none
      | .idle => ∃ handle deadline,
        p.timers.live = [⟨handle, deadline, some p.cadence.idle, .tick p.tickGeneration⟩] ∧
          p.tickTimer = some handle ∧ p.expiryTimer = none
      | .active => ∃ opened handle deadline handle',
        s₀.entered i past = some opened ∧
          p.timers.live =
            [⟨handle, deadline, some p.cadence.active, .tick p.tickGeneration⟩,
              ⟨handle', opened + p.cadence.window, none, .expiry p.expiryGeneration⟩] ∧
          p.tickTimer = some handle ∧ p.expiryTimer = some handle' ∧ handle ≠ handle') ∧
      p.applied ≤ p.issued ∧ p.board.value = p.mode := by
  have hSound := hFresh.sound past hp hAlive
  refine ⟨?_, hSound.applied_le, hSound.shown⟩
  cases hSound.armed with
  | stopped mode live tick expiry =>
      rw [mode]
      exact ⟨live, tick, expiry, hSound.forgotten mode⟩
  | idle handle deadline mode live tick expiry =>
      rw [mode]
      exact ⟨handle, deadline, live, tick, expiry⟩
  | active opened handle deadline handle' mode entered live tick expiry apart =>
      rw [mode]
      exact ⟨opened, handle, deadline, handle', entered, live, tick, expiry, apart⟩

/-- A run whose second result is a change; its callback makes the poller active. -/
def reentrant : List (Move Scripts) :=
  [.pass 500, .operate 0 .enterActive, .land 0, .land 0, .ring 0 0, .pass 12000,
    .operate 0 .start]

theorem timers_of_mode_reentrant :
    ∃ p, (lone.after reentrant).fleet.pollers[0]? = some p ∧ p.mode = .active ∧
      lone.entered 0 reentrant = some 12000 ∧ ∃ handle deadline handle', p.timers.live =
        [⟨handle, deadline, some p.cadence.active, .tick p.tickGeneration⟩,
          ⟨handle', 12000 + p.cadence.window, none, .expiry p.expiryGeneration⟩] := by
  obtain ⟨p, hp, hAlive, hMode⟩ : ∃ p, (lone.after reentrant).fleet.pollers[0]? = some p ∧
      p.alive = true ∧ p.mode = .active := ⟨_, rfl, rfl, rfl⟩
  have hTimers := (timers_of_mode lone_fresh reentrant hp hAlive).1
  rw [hMode] at hTimers
  obtain ⟨opened, handle, deadline, handle', hOpened, hLive, -⟩ := hTimers
  have hEntered : lone.entered 0 reentrant = some 12000 := by decide
  obtain rfl := Option.some.inj (hEntered.symm.trans hOpened)
  exact ⟨p, hp, hMode, hEntered, handle, deadline, handle', hLive⟩

end Scene

end Polling

end Lookout
