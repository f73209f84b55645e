import Lookout.Proofs.Polling.Turn

set_option autoImplicit false

/-! # Runs, and the fetches that belong to them

A run of a poller goes from a start to the next stop. What a deed can be to a run is little:
it begins one (`Poller.Begins`), ends one (`Poller.Ends`), applies a result
(`Poller.accept`), or leaves it alone (`Poller.Quiet`); `Poller.perform_cases` says so, and
further on nobody asks which operation it was.

A tick marks its fetch with the poller's run and with the number of the fetch. The fetch
that takes off with a deed has the newest number there is (`Poller.takesOff`). Hence every
fetch in flight is one its poller still knows (`Poller.Awaits`): its number was given out,
and its run is over or is the one going on. The same is true of the reports that are open.
-/

namespace Lookout.Polling

theorem Mode.eq_stopped {m : Mode} (h : m.isPolling = false) : m = .stopped := by
  cases m with
  | stopped => rfl
  | idle => cases h
  | active => cases h

/-- The status of a success that was published. -/
def TickEvent.fetched? : TickEvent → Option (Option String)
  | .fetched status => some status
  | .skipped | .statusChanged .. | .failed _ => none

namespace Poller

/-- The statuses of the successes that were published, newest first. -/
def fetched (p : Poller) : List (Option String) := p.events.filterMap TickEvent.fetched?

/-! ## What a deed is to a run -/

/-- `q` is `p` as far as the run and its results go. -/
structure Quiet (p q : Poller) : Prop where
  run : q.run = p.run
  polling : q.mode.isPolling = p.mode.isPolling
  applied : q.applied = p.applied
  lastStatus : q.lastStatus = p.lastStatus
  fetched : q.fetched = p.fetched

/-- `q` is `p` in a new run. -/
structure Begins (p q : Poller) : Prop where
  run : q.run = p.run + 1
  before : p.mode.isPolling = false
  polling : q.mode.isPolling = true
  applied : q.applied = p.applied
  lastStatus : q.lastStatus = p.lastStatus
  fetched : q.fetched = p.fetched

/-- `q` is `p` after its run. -/
structure Ends (p q : Poller) : Prop where
  run : q.run = p.run + 1
  before : p.mode.isPolling = true
  polling : q.mode.isPolling = false
  applied : q.applied = p.applied
  lastStatus : q.lastStatus = none
  fetched : q.fetched = p.fetched

theorem Quiet.refl (p : Poller) : p.Quiet p := ⟨rfl, rfl, rfl, rfl, rfl⟩

theorem Quiet.trans {p q r : Poller} (h : p.Quiet q) (h' : q.Quiet r) : p.Quiet r where
  run := h'.run.trans h.run
  polling := h'.polling.trans h.polling
  applied := h'.applied.trans h.applied
  lastStatus := h'.lastStatus.trans h.lastStatus
  fetched := h'.fetched.trans h.fetched

theorem Begins.trans {p q r : Poller} (h : p.Begins q) (h' : q.Quiet r) : p.Begins r where
  run := h'.run.trans h.run
  before := h.before
  polling := h'.polling.trans h.polling
  applied := h'.applied.trans h.applied
  lastStatus := h'.lastStatus.trans h.lastStatus
  fetched := h'.fetched.trans h.fetched

theorem Ends.trans {p q r : Poller} (h : p.Ends q) (h' : q.Quiet r) : p.Ends r where
  run := h'.run.trans h.run
  before := h.before
  polling := h'.polling.trans h.polling
  applied := h'.applied.trans h.applied
  lastStatus := h'.lastStatus.trans h.lastStatus
  fetched := h'.fetched.trans h.fetched

variable (p : Poller) (paused : Bool) (now : Nat)

theorem quiet_own (o : Owners) : p.Quiet { p with owners := o } := ⟨rfl, rfl, rfl, rfl, rfl⟩

theorem quiet_release : p.Quiet p.release := by
  unfold release
  split <;> exact ⟨rfl, rfl, rfl, rfl, rfl⟩

theorem quiet_tick : p.Quiet (p.tick paused now) := by
  unfold tick
  split <;> exact ⟨rfl, rfl, rfl, rfl, rfl⟩

variable {p} in
theorem quiet_closeWindow (hActive : p.mode = .active) : p.Quiet (p.closeWindow now) :=
  ⟨rfl, by rw [hActive]; rfl, rfl, rfl, rfl⟩

theorem quiet_exitActive : p.Quiet (p.exitActive now) := by
  unfold exitActive
  split
  next hActive => exact quiet_closeWindow now hActive
  next => exact .refl p

theorem quiet_onAlarm (a : Alarm) : p.Quiet (p.onAlarm paused now a) := by
  cases a with
  | tick generation =>
      rw [onAlarm]
      split
      next => exact p.quiet_tick paused now
      next => exact .refl p
  | expiry generation =>
      rw [onAlarm]
      split
      next hMeant => exact quiet_closeWindow now hMeant.2
      next => exact .refl p

theorem quiet_ring (k : Nat) : p.Quiet (p.ring paused now k) := by
  unfold ring
  split
  next => exact .refl p
  next t _ =>
    split
    next =>
      have hFired : p.Quiet { p with timers := p.timers.afterFiring t now } :=
        ⟨rfl, rfl, rfl, rfl, rfl⟩
      exact hFired.trans (quiet_onAlarm _ paused now t.action)
    next => exact .refl p

theorem quiet_conclude (run : Nat) (current previous : String) :
    p.Quiet (p.conclude now run current previous) := by
  have hTold : p.Quiet (p.publish (.statusChanged current previous)) := ⟨rfl, rfl, rfl, rfl, rfl⟩
  have hDone : ∀ q : Poller, q.Quiet q.endReport.release := fun q =>
    (q.quiet_own _).trans (quiet_release _)
  unfold conclude
  dsimp only
  split
  next hMeant => exact (hTold.trans (quiet_closeWindow now hMeant.2)).trans (hDone _)
  next => exact hTold.trans (hDone _)

theorem quiet_or_begins_start :
    p.Quiet (p.start paused now) ∨ p.Begins (p.start paused now) := by
  unfold start
  split
  next => exact .inl (.refl p)
  next hStopped =>
    have hBefore : p.mode.isPolling = false := Bool.eq_false_iff.mpr hStopped
    cases paused <;> exact .inr ⟨rfl, hBefore, rfl, rfl, rfl, rfl⟩

theorem isPolling_start : (p.start paused now).mode.isPolling = true := by
  unfold start
  split
  next hPolling => exact hPolling
  next => cases paused <;> rfl

theorem quiet_or_ends_stop : p.Quiet p.stop ∨ p.Ends p.stop := by
  unfold stop
  split
  next hPolling => exact .inr ⟨rfl, hPolling, rfl, rfl, rfl, rfl⟩
  next => exact .inl (.refl p)

theorem isPolling_stop : p.stop.mode.isPolling = false := by
  unfold stop
  split
  next => rfl
  next hStopped => exact Bool.eq_false_iff.mpr hStopped

/-- **What a deed is to a run**, if it is not that a fetch has succeeded. -/
theorem perform_cases (d : Deed) (hAccept : ∀ run seq status, d ≠ .accept run seq status) :
    p.Quiet (p.perform paused now d) ∨ p.Begins (p.perform paused now d) ∨
      p.Ends (p.perform paused now d) := by
  cases d with
  | operate o =>
      rw [perform]
      split
      next =>
        cases o with
        | start => exact (p.quiet_or_begins_start paused now).imp_right .inl
        | guard =>
            have hHeld := quiet_own (p.start paused now)
            exact (p.quiet_or_begins_start paused now).imp (·.trans (hHeld _))
              fun h => .inl (h.trans (hHeld _))
        | enterActive =>
            -- Opening the window of a poller that polls is nothing to its run.
            have hOpen : (p.start paused now).Quiet ((p.start paused now).openWindow now) :=
              ⟨rfl, (p.isPolling_start paused now).symm, rfl, rfl, rfl⟩
            exact (p.quiet_or_begins_start paused now).imp (·.trans hOpen)
              fun h => .inl (h.trans hOpen)
        | stop => exact p.quiet_or_ends_stop.imp_right .inr
        | dropGuard =>
            have hGone := fun o => (p.stop.quiet_own o).trans (quiet_release _)
            exact p.quiet_or_ends_stop.imp (·.trans (hGone _)) fun h => .inr (h.trans (hGone _))
        | exitActive => exact .inl (p.quiet_exitActive now)
        | clone => exact .inl (p.quiet_own _)
        | dropMain => exact .inl ((p.quiet_own _).trans (quiet_release _))
        | dropClone => exact .inl ((p.quiet_own _).trans (quiet_release _))
      next => exact .inl (.refl p)
  | ask =>
      rw [perform]
      split <;> exact .inl ⟨rfl, rfl, rfl, rfl, rfl⟩
  | ring k => exact .inl (p.quiet_ring paused now k)
  | accept run seq status => exact absurd rfl (hAccept run seq status)
  | fail run error =>
      rw [perform, fail]
      split <;> exact .inl ⟨rfl, rfl, rfl, rfl, rfl⟩
  | conclude run current previous => exact .inl (p.quiet_conclude now run current previous)

/-- A success that counts: it is meant for the run that is going on, and newer than the
newest applied so far. -/
def Counts (run seq : Nat) : Prop :=
  p.alive = true ∧ p.run = run ∧ p.mode.isPolling = true ∧ p.applied < seq

variable {p} in
/-- **A success that counts** is published, and its status is the poller's from now on. -/
theorem accept_of_counts {run seq : Nat} (h : p.Counts run seq) (status : Option String) :
    (p.accept run seq status).run = p.run ∧ (p.accept run seq status).mode = p.mode ∧
      (p.accept run seq status).applied = seq ∧
      (p.accept run seq status).lastStatus = status ∧
      (p.accept run seq status).fetched = status :: p.fetched := by
  obtain ⟨hAlive, hRun, hPolling, hNew⟩ := h
  unfold accept
  rw [if_neg (by simp [hAlive, hRun, hPolling]), if_neg (by omega)]
  dsimp only
  split <;> exact ⟨rfl, rfl, rfl, rfl, rfl⟩

variable {p} in
/-- **Any other success** changes nothing. -/
theorem accept_of_not_counts {run seq : Nat} (h : ¬ p.Counts run seq) (status : Option String) :
    p.accept run seq status = p := by
  unfold accept
  split
  next => rfl
  next hMeant =>
    -- It is meant for the run going on, so it has to be too late.
    simp only [not_or, Decidable.not_not] at hMeant
    rw [if_pos]
    have hOld : ¬ p.applied < seq := fun hNew => h ⟨hMeant.1, hMeant.2.1, hMeant.2.2, hNew⟩
    omega

/-- **A deed begins or ends a run exactly when it begins or ends polling.** -/
theorem run_cases (d : Deed) :
    ((p.perform paused now d).run = p.run ∧
        (p.perform paused now d).mode.isPolling = p.mode.isPolling) ∨
      ((p.perform paused now d).run = p.run + 1 ∧
        (p.perform paused now d).mode.isPolling = !p.mode.isPolling) := by
  by_cases hAccept : ∀ run seq status, d ≠ .accept run seq status
  · rcases p.perform_cases paused now d hAccept with hQuiet | hBegins | hEnds
    · exact .inl ⟨hQuiet.run, hQuiet.polling⟩
    · exact .inr ⟨hBegins.run, by rw [hBegins.polling, hBegins.before]; rfl⟩
    · exact .inr ⟨hEnds.run, by rw [hEnds.polling, hEnds.before]; rfl⟩
  · push Not at hAccept
    obtain ⟨run, seq, status, rfl⟩ := hAccept
    rw [perform]
    by_cases hCounts : p.Counts run seq
    · obtain ⟨hRun, hMode, -⟩ := accept_of_counts hCounts status
      exact .inl ⟨hRun, by rw [hMode]⟩
    · rw [accept_of_not_counts hCounts]
      exact .inl ⟨rfl, rfl⟩

/-! ## What no deed changes -/

/-- `q` is built like `p`. -/
structure Alike (p q : Poller) : Prop where
  name : q.name = p.name
  cadence : q.cadence = p.cadence
  callback : q.callback = p.callback

theorem Alike.refl (p : Poller) : p.Alike p := ⟨rfl, rfl, rfl⟩

theorem Alike.trans {p q r : Poller} (h : p.Alike q) (h' : q.Alike r) : p.Alike r :=
  ⟨h'.name.trans h.name, h'.cadence.trans h.cadence, h'.callback.trans h.callback⟩

theorem alike_own (o : Owners) : p.Alike { p with owners := o } := ⟨rfl, rfl, rfl⟩

theorem alike_release : p.Alike p.release := by
  unfold release
  split <;> exact ⟨rfl, rfl, rfl⟩

theorem alike_tick : p.Alike (p.tick paused now) := by
  unfold tick
  split <;> exact ⟨rfl, rfl, rfl⟩

theorem alike_start : p.Alike (p.start paused now) := by
  unfold start
  split
  next => exact .refl p
  next =>
    have hBegun : p.Alike p.beginRun := ⟨rfl, rfl, rfl⟩
    have hTicked := hBegun.trans (p.beginRun.alike_tick paused now)
    exact ⟨hTicked.name, hTicked.cadence, hTicked.callback⟩

theorem alike_stop : p.Alike p.stop := by
  unfold stop
  split <;> exact ⟨rfl, rfl, rfl⟩

theorem alike_operate (o : Operation) : p.Alike (p.operate paused now o) := by
  cases o with
  | start => exact p.alike_start paused now
  | guard => exact (p.alike_start paused now).trans (alike_own _ _)
  | enterActive => exact (p.alike_start paused now).trans ⟨rfl, rfl, rfl⟩
  | exitActive =>
      rw [operate, exitActive]
      split <;> exact ⟨rfl, rfl, rfl⟩
  | stop => exact p.alike_stop
  | clone => exact p.alike_own _
  | dropMain => exact (p.alike_own _).trans (alike_release _)
  | dropClone => exact (p.alike_own _).trans (alike_release _)
  | dropGuard => exact (p.alike_stop.trans (alike_own _ _)).trans (alike_release _)

theorem alike_onAlarm (a : Alarm) : p.Alike (p.onAlarm paused now a) := by
  cases a with
  | tick generation =>
      rw [onAlarm]
      split
      next => exact p.alike_tick paused now
      next => exact .refl p
  | expiry generation =>
      rw [onAlarm]
      split <;> exact ⟨rfl, rfl, rfl⟩

theorem alike_ring (k : Nat) : p.Alike (p.ring paused now k) := by
  unfold ring
  split
  next => exact .refl p
  next t _ =>
    split
    next =>
      have hFired : p.Alike { p with timers := p.timers.afterFiring t now } := ⟨rfl, rfl, rfl⟩
      exact hFired.trans (alike_onAlarm _ paused now t.action)
    next => exact .refl p

theorem alike_accept (run seq : Nat) (status : Option String) :
    p.Alike (p.accept run seq status) := by
  unfold accept
  split
  next => exact .refl p
  next =>
    split
    next => exact .refl p
    next =>
      dsimp only
      split <;> exact ⟨rfl, rfl, rfl⟩

/-- **No deed changes how a poller is built.** -/
theorem alike_perform (d : Deed) : p.Alike (p.perform paused now d) := by
  cases d with
  | operate o =>
      rw [perform]
      split
      next => exact p.alike_operate paused now o
      next => exact .refl p
  | ask =>
      rw [perform]
      split <;> exact ⟨rfl, rfl, rfl⟩
  | ring k => exact p.alike_ring paused now k
  | accept run seq status => exact p.alike_accept run seq status
  | fail run error =>
      rw [perform, fail]
      split <;> exact ⟨rfl, rfl, rfl⟩
  | conclude run current previous =>
      rw [perform, conclude]
      refine Alike.trans ?_ (alike_release _)
      split <;> exact ⟨rfl, rfl, rfl⟩

/-! ## Pollers that are gone -/

@[simp] theorem alive_release : p.release.alive = p.alive := by
  unfold release
  split <;> rfl

variable {p} in
/-- A poller that somebody still owns is not released. -/
theorem release_of_alive (h : p.alive = true) : p.release = p := if_pos h

variable {p} in
/-- What can be done with a handle is done by somebody who has one. -/
theorem held_of_allowed {o : Operation} (h : o.allowed p.owners = true) :
    p.owners.held = true := by
  cases o <;> simp [Operation.allowed, Owners.held] at h ⊢ <;> tauto

variable {p} in
theorem alive_of_held (h : p.owners.held = true) : p.alive = true := by
  rw [alive, Owners.any, h]
  rfl

variable {p} in
theorem alive_of_allowed {o : Operation} (h : o.allowed p.owners = true) : p.alive = true :=
  alive_of_held (held_of_allowed h)

theorem owners_tick : (p.tick paused now).owners = p.owners := by
  unfold tick
  split <;> rfl

theorem owners_onAlarm (a : Alarm) : (p.onAlarm paused now a).owners = p.owners := by
  cases a with
  | tick generation =>
      rw [onAlarm]
      split
      next => exact p.owners_tick paused now
      next => rfl
  | expiry generation =>
      rw [onAlarm]
      split <;> rfl

theorem owners_ring (k : Nat) : (p.ring paused now k).owners = p.owners := by
  unfold ring
  split
  next => rfl
  next t _ =>
    split
    next => exact owners_onAlarm _ paused now t.action
    next => rfl

variable {p paused now} in
/-- No deed brings back a poller that is gone. -/
theorem alive_of_perform {d : Deed} (h : (p.perform paused now d).alive = true) :
    p.alive = true := by
  cases d with
  | operate o =>
      rw [perform] at h
      split at h
      next hAllowed => exact alive_of_allowed hAllowed
      next => exact h
  | ask =>
      rw [perform] at h
      split at h <;> exact h
  | ring k =>
      rw [perform, alive, owners_ring] at h
      exact h
  | accept run seq status =>
      by_cases hCounts : p.Counts run seq
      · exact hCounts.1
      · rw [perform, accept_of_not_counts hCounts] at h
        exact h
  | fail run error =>
      rw [perform, fail] at h
      split at h <;> exact h
  | conclude run current previous =>
      rw [perform, conclude, alive_release] at h
      -- One report less is all that an end takes away.
      have hEnd : ∀ q : Poller, q.endReport.alive = true → q.alive = true := by
        intro q hq
        rcases Bool.or_eq_true_iff.mp hq with hHeld | hOpen
        · exact Bool.or_eq_true_iff.mpr (.inl hHeld)
        · refine Bool.or_eq_true_iff.mpr (.inr (decide_eq_true ?_))
          exact Nat.lt_of_lt_of_le (of_decide_eq_true hOpen) (Nat.sub_le _ _)
      have hTold := hEnd _ h
      split at hTold <;> exact hTold

/-! ## The fetch that takes off with a deed -/

/-- What takes off when poller `i` is `p` and becomes `q`: at most one fetch; and if it is
that of a tick, it bears the run and the newest number of `q`. -/
inductive TakesOff (i : Nat) (p q : Poller) (l : List Purpose) : Prop
  | nothing (issued : q.issued = p.issued) (none : l = [])
  | direct (issued : q.issued = p.issued) (one : l = [.direct])
  | tick (issued : q.issued = p.issued + 1) (polling : q.mode.isPolling = true)
      (one : l = [.tick i q.run q.issued])

theorem issued_release : p.release.issued = p.issued := by
  unfold release
  split <;> rfl

variable {p} in
theorem takesOff_tick (i : Nat) (hPolling : p.mode.isPolling = true) :
    TakesOff i p (p.tick paused now) (p.tickFetches paused i) := by
  unfold tick tickFetches
  split
  next => exact .nothing rfl rfl
  next => exact .tick rfl hPolling rfl

theorem takesOff_start (i : Nat) :
    TakesOff i p (p.start paused now) (p.startFetches paused i) := by
  unfold start startFetches
  split
  next => exact .nothing rfl rfl
  next =>
    cases paused with
    | true => exact .nothing rfl rfl
    | false => exact .tick rfl rfl rfl

theorem takesOff_operate (i : Nat) (o : Operation) :
    TakesOff i p (p.operate paused now o) (p.operateFetches paused i o) := by
  have hStart := p.takesOff_start paused now i
  have hStop : p.stop.issued = p.issued := by
    unfold stop
    split <;> rfl
  cases o with
  | start => exact hStart
  | guard =>
      cases hStart with
      | nothing issued none => exact .nothing issued none
      | direct issued one => exact .direct issued one
      | tick issued polling one => exact .tick issued polling one
  | enterActive =>
      cases hStart with
      | nothing issued none => exact .nothing issued none
      | direct issued one => exact .direct issued one
      | tick issued polling one => exact .tick issued rfl one
  | exitActive =>
      refine .nothing ?_ rfl
      rw [operate, exitActive]
      split <;> rfl
  | stop => exact .nothing hStop rfl
  | dropGuard => exact .nothing ((issued_release _).trans hStop) rfl
  | clone => exact .nothing rfl rfl
  | dropMain => exact .nothing (issued_release _) rfl
  | dropClone => exact .nothing (issued_release _) rfl

theorem takesOff_ring (i k : Nat) :
    TakesOff i p (p.ring paused now k) (p.ringFetches paused now i k) := by
  unfold ring ringFetches
  split
  next => exact .nothing rfl rfl
  next t _ =>
    split
    next =>
      cases t.action with
      | tick generation =>
          rw [onAlarm, alarmFetches]
          split
          next hMeant =>
            have hTick := takesOff_tick (p := { p with timers := p.timers.afterFiring t now })
              paused now i hMeant.2
            cases hTick with
            | nothing issued none => exact .nothing issued none
            | direct issued one => exact .direct issued one
            | tick issued polling one => exact .tick issued polling one
          next => exact .nothing rfl rfl
      | expiry generation =>
          refine .nothing ?_ rfl
          rw [onAlarm]
          split <;> rfl
    next => exact .nothing rfl rfl

theorem issued_accept (run seq : Nat) (status : Option String) :
    (p.accept run seq status).issued = p.issued := by
  unfold accept
  split
  next => rfl
  next =>
    split
    next => rfl
    next =>
      dsimp only
      split <;> rfl

/-- **The fetch that takes off with a deed** bears the poller's run and its newest number. -/
theorem takesOff (i : Nat) (d : Deed) :
    TakesOff i p (p.perform paused now d) (p.launches paused now i d) := by
  cases d with
  | operate o =>
      rw [perform, launches]
      split
      next => exact p.takesOff_operate paused now i o
      next => exact .nothing rfl rfl
  | ask =>
      rw [perform, launches]
      split
      next => exact .direct rfl rfl
      next => exact .nothing rfl rfl
  | ring k => exact p.takesOff_ring paused now i k
  | accept run seq status => exact .nothing (p.issued_accept run seq status) rfl
  | fail run error =>
      refine .nothing ?_ rfl
      rw [perform, fail]
      split <;> rfl
  | conclude run current previous =>
      refine .nothing ?_ rfl
      rw [perform, conclude, issued_release]
      dsimp only [endReport]
      split <;> rfl

/-- No poller starts a fetch for another. -/
theorem eq_of_launches {i j run seq : Nat} {d : Deed}
    (h : Purpose.tick i run seq ∈ p.launches paused now j d) : i = j := by
  cases p.takesOff paused now j d with
  | nothing issued none => simp [none] at h
  | direct issued one => simp [one] at h
  | tick issued polling one =>
      rw [one, List.mem_singleton, Purpose.tick.injEq] at h
      exact h.1

/-- No deed takes back a number. -/
theorem issued_le (d : Deed) : p.issued ≤ (p.perform paused now d).issued := by
  cases p.takesOff paused now 0 d with
  | nothing issued => omega
  | direct issued => omega
  | tick issued => omega

/-! ## Fetches the poller waits for -/

/-- A run that has begun: it is over, or is the one going on. -/
structure Began (run : Nat) : Prop where
  le : run ≤ p.run
  polling : run = p.run → p.mode.isPolling = true

/-- A fetch that a tick may be waiting for: it was issued in a run that has begun. -/
structure Awaits (run seq : Nat) : Prop where
  pos : 0 < seq
  issued : seq ≤ p.issued
  began : p.Began run

variable {p}

theorem Began.perform {run : Nat} (h : p.Began run) (d : Deed) :
    (p.perform paused now d).Began run := by
  rcases p.run_cases paused now d with ⟨hRun, hPolling⟩ | ⟨hRun, -⟩
  · refine ⟨hRun ▸ h.le, fun hSame => ?_⟩
    rw [hPolling]
    exact h.polling (hSame.trans hRun)
  · -- The run before is over, and no run that has begun is the new one.
    have hLe := h.le
    exact ⟨by omega, fun hSame => by omega⟩

theorem Awaits.perform {run seq : Nat} (h : p.Awaits run seq) (d : Deed) :
    (p.perform paused now d).Awaits run seq where
  pos := h.pos
  issued := Nat.le_trans h.issued (p.issued_le paused now d)
  began := h.began.perform paused now d

/-- The poller waits for the fetch that takes off with a deed. -/
theorem awaits_of_launches {i run seq : Nat} {d : Deed}
    (h : Purpose.tick i run seq ∈ p.launches paused now i d) :
    (p.perform paused now d).Awaits run seq := by
  cases p.takesOff paused now i d with
  | nothing issued none => simp [none] at h
  | direct issued one => simp [one] at h
  | tick issued polling one =>
      rw [one, List.mem_singleton, Purpose.tick.injEq] at h
      obtain ⟨-, rfl, rfl⟩ := h
      exact ⟨by omega, Nat.le_refl _, Nat.le_refl _, fun _ => polling⟩

end Poller

/-! ## In a scene -/

/-- A report is opened only by a success that counts. -/
theorem Fleet.counts_of_accept {ω : Type} {s : Fleet ω} {i run seq : Nat}
    {status : Option String} {r : Report} (h : (s.accept i run seq status).2 = some r) :
    r.poller = i ∧ r.run = run ∧ ∃ p, s.pollers[i]? = some p ∧ p.Counts run seq := by
  unfold accept at h
  split at h
  next => cases h
  next p hp =>
    split at h
    next => cases h
    next hMeant =>
      split at h
      next => cases h
      next hNew =>
        dsimp only at h
        split at h
        next => cases h
        next =>
          simp only [not_or, Decidable.not_not] at hMeant
          obtain rfl := Option.some.inj h
          exact ⟨rfl, rfl, p, hp, hMeant.1, hMeant.2.1, hMeant.2.2, by omega⟩

namespace Scene

variable {ω : Type}

theorem turn_of_none {s : Scene ω} {m : Move ω} (h : s.deed? m = none) (i : Nat) (p : Poller) :
    s.turn m i p = p := by
  rw [turn, h]

theorem turn_of_deed {s : Scene ω} {m : Move ω} {i : Nat} {d : Deed}
    (h : s.deed? m = some (i, d)) (p : Poller) :
    s.turn m i p = p.perform s.fleet.gate.paused s.fleet.now d := by
  rw [turn, h]
  exact if_pos rfl

theorem turn_of_other {s : Scene ω} {m : Move ω} {i j : Nat} {d : Deed}
    (h : s.deed? m = some (j, d)) (hOther : j ≠ i) (p : Poller) : s.turn m i p = p := by
  rw [turn, h]
  exact if_neg hOther

/-- A move is a deed of poller `i`, or leaves it alone. -/
theorem turn_cases (s : Scene ω) (m : Move ω) (i : Nat) (p : Poller) :
    s.turn m i p = p ∨ ∃ d, s.deed? m = some (i, d) ∧
      s.turn m i p = p.perform s.fleet.gate.paused s.fleet.now d := by
  cases hDeed : s.deed? m with
  | none => exact .inl (turn_of_none hDeed i p)
  | some x =>
      obtain ⟨j, d⟩ := x
      by_cases hj : j = i
      · subst hj
        exact .inr ⟨d, rfl, turn_of_deed hDeed p⟩
      · exact .inl (turn_of_other hDeed hj p)

/-- A move leaves name, cadence and callback of a poller as they are. -/
theorem alike_turn (s : Scene ω) (m : Move ω) (i : Nat) (p : Poller) : p.Alike (s.turn m i p) := by
  rcases s.turn_cases m i p with hSame | ⟨d, -, hTurn⟩
  · rw [hSame]
    exact .refl p
  · rw [hTurn]
    exact p.alike_perform _ _ d

/-- What a move has to be to be a deed of poller `i`. -/
inductive Meets (s : Scene ω) (i : Nat) : Move ω → Deed → Prop
  | operate (o : Operation) : Meets s i (.operate i o) (.operate o)
  | ask : Meets s i (.ask i) .ask
  | ring (k : Nat) : Meets s i (.ring i k) (.ring k)
  | accept (k : Nat) (f : Flight) (run seq : Nat) (status : Option String)
      (flight : s.fleet.flights[k]? = some f) (purpose : f.purpose = .tick i run seq)
      (result : f.result = .ok status) : Meets s i (.land k) (.accept run seq status)
  | fail (k : Nat) (f : Flight) (run seq : Nat) (error : String)
      (flight : s.fleet.flights[k]? = some f) (purpose : f.purpose = .tick i run seq)
      (result : f.result = .error error) : Meets s i (.land k) (.fail run error)
  | conclude (k : Nat) (r : Report) (report : s.reports[k]? = some r) (poller : r.poller = i) :
      Meets s i (.conclude k) (.conclude r.run r.current r.previous)

theorem meets_of_deed {s : Scene ω} {m : Move ω} {i : Nat} {d : Deed}
    (h : s.deed? m = some (i, d)) : s.Meets i m d := by
  cases m with
  | operate j o =>
      obtain ⟨rfl, rfl⟩ := Prod.mk.inj (Option.some.inj h)
      exact .operate o
  | ask j =>
      obtain ⟨rfl, rfl⟩ := Prod.mk.inj (Option.some.inj h)
      exact .ask
  | ring j k =>
      obtain ⟨rfl, rfl⟩ := Prod.mk.inj (Option.some.inj h)
      exact .ring k
  | land k =>
      rw [deed?, Option.bind_eq_some_iff] at h
      obtain ⟨⟨due, purpose, effects, result⟩, hf, hDeed⟩ := h
      cases purpose with
      | direct => cases hDeed
      | tick j run seq =>
          cases result with
          | ok status =>
              obtain ⟨rfl, rfl⟩ := Prod.mk.inj (Option.some.inj hDeed)
              exact .accept k _ run seq status hf rfl rfl
          | error text =>
              obtain ⟨rfl, rfl⟩ := Prod.mk.inj (Option.some.inj hDeed)
              exact .fail k _ run seq text hf rfl rfl
  | conclude k =>
      rw [deed?, Option.map_eq_some_iff] at h
      obtain ⟨r, hr, hDeed⟩ := h
      obtain ⟨rfl, rfl⟩ := Prod.mk.inj hDeed
      exact .conclude k r hr rfl
  | call => cases h
  | signal => cases h
  | note => cases h
  | pass => cases h
  | resume => cases h

/-- A fetch in flight is for what it is for. -/
theorem getElem?_purposes {s : Fleet ω} {k : Nat} {f : Flight} (hf : s.flights[k]? = some f) :
    s.purposes[k]? = some f.purpose := by
  rw [Fleet.purposes, List.getElem?_map, hf]
  rfl

/-- A poller that exists after a move existed before it. -/
theorem alive_of_turn {s : Scene ω} {m : Move ω} {i : Nat} {p : Poller}
    (h : (s.turn m i p).alive = true) : p.alive = true := by
  rcases s.turn_cases m i p with hSame | ⟨d, -, hTurn⟩
  · exact hSame ▸ h
  · exact Poller.alive_of_perform (hTurn ▸ h)

variable [FetchSource ω] {s : Scene ω} {m : Move ω} {i : Nat}

/-- A poller that is there after a move was there before it. -/
theorem exists_of_move {q : Poller} (hq : (s.move m).fleet.pollers[i]? = some q) :
    ∃ p, s.fleet.pollers[i]? = some p ∧ q = s.turn m i p := by
  rw [getElem?_move, Option.map_eq_some_iff] at hq
  obtain ⟨p, hp, rfl⟩ := hq
  exact ⟨p, hp, rfl⟩

/-- A poller that is there after some moves was there before them, with the same name, cadence and
callback. -/
theorem exists_alike_before {q : Poller} (later : List (Move ω))
    (hq : (s.after later).fleet.pollers[i]? = some q) :
    ∃ p, s.fleet.pollers[i]? = some p ∧ p.Alike q := by
  induction later generalizing q with
  | nil => exact ⟨q, hq, .refl q⟩
  | cons m later ih =>
      obtain ⟨q', hq', rfl⟩ := exists_of_move hq
      obtain ⟨p, hp, hAlike⟩ := ih hq'
      exact ⟨p, hp, hAlike.trans (alike_turn _ m i q')⟩

/-- A poller is there whatever happens. -/
theorem exists_after {p : Poller} (hp : s.fleet.pollers[i]? = some p) (later : List (Move ω)) :
    ∃ q, (s.after later).fleet.pollers[i]? = some q := by
  induction later with
  | nil => exact ⟨p, hp⟩
  | cons m later ih =>
      obtain ⟨q, hq⟩ := ih
      exact ⟨_, (getElem?_move _ m i).trans (congrArg (Option.map _) hq)⟩

/-- A fetch that is in flight after a move was so before it, or takes off with the deed. -/
theorem mem_purposes_move {run seq : Nat}
    (h : Purpose.tick i run seq ∈ (s.move m).fleet.purposes) :
    .tick i run seq ∈ s.fleet.purposes ∨ ∃ d p, s.deed? m = some (i, d) ∧
      s.fleet.pollers[i]? = some p ∧
      .tick i run seq ∈ p.launches s.fleet.gate.paused s.fleet.now i d := by
  -- What takes off with a deed of poller `j` is marked with `j`, so `j` is `i`.
  have hBy : ∀ {j d}, s.deed? m = some (j, d) → Purpose.tick i run seq ∈ s.launchedBy j d →
      ∃ d p, s.deed? m = some (i, d) ∧ s.fleet.pollers[i]? = some p ∧
        .tick i run seq ∈ p.launches s.fleet.gate.paused s.fleet.now i d := by
    intro j d hDeed hMem
    unfold launchedBy at hMem
    cases hp : s.fleet.pollers[j]? with
    | none => simp [hp] at hMem
    | some p =>
        rw [hp, Option.map_some, Option.getD_some] at hMem
        obtain rfl := p.eq_of_launches _ _ hMem
        exact ⟨d, p, hDeed, hp, hMem⟩
  rw [purposes_move, List.mem_append] at h
  cases h with
  | inl hOld =>
      left
      cases m with
      | land k => exact List.mem_of_mem_eraseIdx hOld
      | _ => exact hOld
  | inr hNew =>
      cases m with
      | operate j o => exact .inr (hBy rfl hNew)
      | ask j => exact .inr (hBy rfl hNew)
      | ring j k => exact .inr (hBy rfl hNew)
      | call f source => simp [launched] at hNew
      | _ => simp [launched] at hNew

theorem reports_conclude {k : Nat} {r : Report} (hr : s.reports[k]? = some r) :
    (s.move (.conclude k)).reports = s.reports.eraseIdx k := by
  rw [move, hr]

/-- A move that concludes no report opens at most some, each by a success that counts. -/
theorem reports_move (hConclude : ∀ k r, m = .conclude k → s.reports[k]? ≠ some r) :
    ∃ opened, (s.move m).reports = s.reports ++ opened ∧ ∀ r ∈ opened, ∃ p seq,
      s.fleet.pollers[r.poller]? = some p ∧ p.Counts r.run seq := by
  have hSame : (s.move m).reports = s.reports → ∃ opened, (s.move m).reports = s.reports ++ opened ∧
      ∀ r ∈ opened, ∃ p seq, s.fleet.pollers[r.poller]? = some p ∧ p.Counts r.run seq :=
    fun hReports => ⟨[], hReports.trans (List.append_nil _).symm, fun _ hr => absurd hr nofun⟩
  cases m with
  | land k =>
      cases hf : s.fleet.flights[k]? with
      | none =>
          refine hSame ?_
          rw [move, hf]
      | some f =>
          rw [move, hf]
          refine ⟨_, rfl, fun r hNew => ?_⟩
          obtain ⟨hPollers, -, -, -⟩ := Fleet.effects_frame f.effects
            { s.fleet with flights := s.fleet.flights.eraseIdx k }
          obtain ⟨due, purpose, effects, result⟩ := f
          rw [Option.mem_toList] at hNew
          cases purpose with
          | direct => cases hNew
          | tick j run seq =>
              cases result with
              | error text => cases hNew
              | ok status =>
                  obtain ⟨rfl, rfl, p, hp, hCounts⟩ := Fleet.counts_of_accept hNew
                  exact ⟨p, seq, hPollers ▸ hp, hCounts⟩
  | conclude k =>
      refine hSame ?_
      cases hr : s.reports[k]? with
      | none => rw [move, hr]
      | some r => exact absurd hr (hConclude k r rfl)
  | _ => exact hSame rfl

/-- A report that is open after a move was so before it, or is opened by a success that
counts. -/
theorem mem_reports_move {r : Report} (h : r ∈ (s.move m).reports) :
    r ∈ s.reports ∨ ∃ p seq, s.fleet.pollers[r.poller]? = some p ∧ p.Counts r.run seq := by
  by_cases hConclude : ∃ k r, m = .conclude k ∧ s.reports[k]? = some r
  · obtain ⟨k, r', rfl, hr⟩ := hConclude
    rw [reports_conclude hr] at h
    exact .inl (List.mem_of_mem_eraseIdx h)
  · obtain ⟨opened, hReports, hOpened⟩ :=
      reports_move fun k r hm hr => hConclude ⟨k, r, hm, hr⟩
    rw [hReports, List.mem_append] at h
    exact h.imp_right (hOpened r)

/-- The marks of the fetches in flight and of the open reports of poller `i`, which is `p`,
are of runs that have begun. -/
structure Marked (s : Scene ω) (i : Nat) (p : Poller) : Prop where
  flights : ∀ run seq, .tick i run seq ∈ s.fleet.purposes → p.Awaits run seq
  reports : ∀ r ∈ s.reports, r.poller = i → p.Began r.run

theorem Marked.move {p : Poller} (h : s.Marked i p) (hp : s.fleet.pollers[i]? = some p)
    (m : Move ω) : (s.move m).Marked i (s.turn m i p) where
  flights := by
    intro run seq hMem
    -- A mark that was there is kept by the deed; a new one is what the deed has just issued.
    rcases mem_purposes_move hMem with hOld | ⟨d, q, hDeed, hq, hNew⟩
    · rcases s.turn_cases m i p with hSame | ⟨d, -, hTurn⟩
      · rw [hSame]
        exact h.flights run seq hOld
      · rw [hTurn]
        exact (h.flights run seq hOld).perform _ _ d
    · obtain rfl := Option.some.inj (hp.symm.trans hq)
      rw [turn_of_deed hDeed]
      exact Poller.awaits_of_launches _ _ hNew
  reports := by
    rintro r hMem rfl
    have hBegan : p.Began r.run := by
      rcases mem_reports_move hMem with hOld | ⟨q, seq, hq, hCounts⟩
      · exact h.reports r hOld rfl
      · obtain rfl := Option.some.inj (hp.symm.trans hq)
        exact ⟨Nat.le_of_eq hCounts.2.1.symm, fun _ => hCounts.2.2.1⟩
    rcases s.turn_cases m r.poller p with hSame | ⟨d, -, hTurn⟩
    · rw [hSame]
      exact hBegan
    · rw [hTurn]
      exact hBegan.perform _ _ d

theorem Marked.after {p q : Poller} (h : s.Marked i p) (hp : s.fleet.pollers[i]? = some p)
    (later : List (Move ω)) (hq : (s.after later).fleet.pollers[i]? = some q) :
    (s.after later).Marked i q := by
  induction later generalizing q with
  | nil =>
      obtain rfl := Option.some.inj (hp.symm.trans hq)
      exact h
  | cons m later ih =>
      obtain ⟨q', hq', rfl⟩ := exists_of_move hq
      exact (ih hq').move hq' m

/-- **Every fetch in flight and every open report** is of a run that has begun. -/
theorem Fresh.marked {s₀ : Scene ω} (h : s₀.Fresh) (past : List (Move ω)) {p : Poller}
    (hp : (s₀.after past).fleet.pollers[i]? = some p) : (s₀.after past).Marked i p := by
  have hNew : ∀ q, s₀.Marked i q := by
    refine fun q => ⟨fun run seq hMem => ?_, fun r hr _ => ?_⟩
    · obtain ⟨f, hf, hPurpose⟩ := List.mem_map.mp hMem
      rw [h.flights f hf] at hPurpose
      cases hPurpose
    · rw [h.reports] at hr
      cases hr
  obtain ⟨q, hq, -⟩ := exists_alike_before past hp
  exact (hNew q).after hq past hp

end Scene

end Lookout.Polling
