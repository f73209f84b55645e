import Lookout.Proofs.Polling.Order

set_option autoImplicit false

/-! # Ticks

A poller has a tick when a run is begun and when its tick timer fires. `Poller.ticks` says
which deeds have one in them, and `Poller.poised` what such a deed makes of the poller apart
from the tick; `perform_of_ticks` splits the deed into the two. All other deeds publish no
skip and issue no fetch (`silent_perform`), so each fetch issued and each skip published is
that of one tick (`attemptsBy_eq`).
-/

namespace Lookout.Polling

/-- Whether the operation starts a poller that is stopped. -/
def Operation.starts : Operation → Bool
  | .start | .enterActive | .guard => true
  | .stop | .exitActive | .clone | .dropMain | .dropClone | .dropGuard => false

/-- Whether a timer with this action gives ticks. -/
def Alarm.isTick : Alarm → Bool
  | .tick _ => true
  | .expiry _ => false

namespace Poller

/-- How many ticks were skipped. -/
def skips (p : Poller) : Nat := p.events.count .skipped

/-- Whether a deed has a tick in it: a run is begun, or a tick timer that is due fires. -/
def ticks (now : Nat) (p : Poller) : Deed → Bool
  | .operate o => o.allowed p.owners && o.starts && !p.mode.isPolling
  | .ring k => p.timers.live[k]?.any fun t => t.action.isTick && decide (t.deadline ≤ now)
  | .ask | .accept .. | .fail .. | .conclude .. => false

/-- What a deed with a tick in it makes of the poller, but for the tick: a run is begun, with
the timers that go with it, or the tick timer is armed again. -/
def poised (now : Nat) (p : Poller) : Deed → Poller
  | .operate .enterActive => (p.beginRun.armTicks now p.cadence.idle).openWindow now
  | .operate .guard =>
    { p.beginRun.armTicks now p.cadence.idle with
      owners := { p.owners with guards := p.owners.guards + 1 } }
  | .operate _ => p.beginRun.armTicks now p.cadence.idle
  | .ring k =>
    match p.timers.live[k]? with
    | none => p
    | some t => { p with timers := p.timers.afterFiring t now }
  | .ask | .accept .. | .fail .. | .conclude .. => p

variable {p : Poller} {entered : Option Nat} (paused : Bool) (now : Nat)

/-! ## Deeds with a tick in them -/

theorem armTicks_tick (p : Poller) (period : Nat) :
    (p.tick paused now).armTicks now period = (p.armTicks now period).tick paused now := by
  cases paused <;> rfl

theorem openWindow_tick (p : Poller) :
    (p.tick paused now).openWindow now = (p.openWindow now).tick paused now := by
  cases paused <;> rfl

/-- A run is begun by its tick and its timers, in either order. -/
theorem start_of_stopped (hStopped : p.mode.isPolling = false) :
    p.start paused now = (p.beginRun.armTicks now p.cadence.idle).tick paused now := by
  rw [start, if_neg (by simp [hStopped]), armTicks_tick]

/-- A timer that gives ticks is the tick timer of a run that is going on. -/
theorem Sound.tick_of_isTick (h : p.Sound entered) {t : Timer Alarm} (ht : t ∈ p.timers.live)
    (hTick : t.action.isTick = true) : p.tickTimer = some t.handle := by
  cases h.tidy.owned t ht with
  | inl hOwned => exact hOwned
  | inr hExpiry =>
      obtain ⟨hAction, -⟩ := h.expiry_fired ht hExpiry 0
      rw [hAction] at hTick
      cases hTick

/-- A timer that gives no ticks is the one at the end of the window. -/
theorem Sound.expiry_of_not_isTick (h : p.Sound entered) {t : Timer Alarm}
    (ht : t ∈ p.timers.live) (hTick : t.action.isTick = false) :
    p.expiryTimer = some t.handle := by
  cases h.tidy.owned t ht with
  | inr hOwned => exact hOwned
  | inl hOther =>
      obtain ⟨hAction, -⟩ := h.tick_fired ht hOther 0
      rw [hAction] at hTick
      cases hTick

/-- The tick timer that fires, if the firing of a timer is a tick. -/
theorem Sound.exists_of_ticks (h : p.Sound entered) {k : Nat}
    (hTicks : p.ticks now (.ring k) = true) :
    ∃ t, p.timers.live[k]? = some t ∧ p.tickTimer = some t.handle ∧ t.deadline ≤ now := by
  rw [ticks] at hTicks
  cases ht : p.timers.live[k]? with
  | none => simp [ht] at hTicks
  | some t =>
      rw [ht, Option.any_some, Bool.and_eq_true, decide_eq_true_eq] at hTicks
      exact ⟨t, rfl, h.tick_of_isTick (List.mem_of_getElem? ht) hTicks.1, hTicks.2⟩

/-- **A deed with a tick in it** is the tick of a poller that is poised for it. -/
theorem Sound.perform_of_ticks (h : p.Sound entered) {d : Deed} (hTicks : p.ticks now d = true) :
    p.perform paused now d = (p.poised now d).tick paused now := by
  cases d with
  | operate o =>
      simp only [ticks, Bool.and_eq_true, Bool.not_eq_true'] at hTicks
      obtain ⟨⟨hAllowed, hStarts⟩, hStopped⟩ := hTicks
      rw [Poller.perform, if_pos hAllowed]
      cases o with
      | start => exact start_of_stopped paused now hStopped
      | enterActive =>
          rw [Poller.operate, start_of_stopped paused now hStopped]
          exact openWindow_tick paused now _
      | guard =>
          rw [Poller.operate, start_of_stopped paused now hStopped]
          cases paused <;> rfl
      | _ => cases hStarts
  | ring k =>
      obtain ⟨t, ht, hHandle, hDue⟩ := h.exists_of_ticks now hTicks
      obtain ⟨hAction, hPolling, -⟩ := h.tick_fired (List.mem_of_getElem? ht) hHandle now
      simp only [Poller.perform, Poller.ring, poised, ht, if_pos hDue, hAction, onAlarm, true_and]
      exact if_pos hPolling
  | _ => cases hTicks

/-- The firing of a timer that is a tick: the timer is armed again, and the tick is done. -/
theorem Sound.ring_of_ticks (h : p.Sound entered) {k : Nat}
    (hTicks : p.ticks now (.ring k) = true) :
    ∃ t ∈ p.timers.live, p.tickTimer = some t.handle ∧ t.deadline ≤ now ∧
      p.ring paused now k
        = ({ p with timers := p.timers.afterFiring t now } : Poller).tick paused now := by
  obtain ⟨t, ht, hHandle, hDue⟩ := h.exists_of_ticks now hTicks
  have hRing := h.perform_of_ticks paused now hTicks
  rw [Poller.perform, poised, ht] at hRing
  exact ⟨t, List.mem_of_getElem? ht, hHandle, hDue, hRing⟩

/-- The fetch that takes off with such a deed is that of the tick. -/
theorem Sound.launches_of_ticks (h : p.Sound entered) (i : Nat) {d : Deed}
    (hTicks : p.ticks now d = true) :
    p.launches paused now i d = (p.poised now d).tickFetches paused i := by
  cases d with
  | operate o =>
      simp only [ticks, Bool.and_eq_true, Bool.not_eq_true'] at hTicks
      obtain ⟨⟨hAllowed, hStarts⟩, hStopped⟩ := hTicks
      have hBegun : p.startFetches paused i = p.beginRun.tickFetches paused i :=
        if_neg (by simp [hStopped])
      rw [launches, if_pos hAllowed]
      cases o with
      | start => exact hBegun
      | enterActive => exact hBegun
      | guard => exact hBegun
      | _ => cases hStarts
  | ring k =>
      obtain ⟨t, ht, hHandle, hDue⟩ := h.exists_of_ticks now hTicks
      obtain ⟨hAction, hPolling, -⟩ := h.tick_fired (List.mem_of_getElem? ht) hHandle now
      simp only [launches, ringFetches, poised, ht, if_pos hDue, hAction, alarmFetches, true_and]
      exact if_pos hPolling
  | _ => cases hTicks

/-! ## Deeds without a tick -/

/-- `q` is `p` as far as its ticks and fetches go. -/
structure Silent (p q : Poller) : Prop where
  issued : q.issued = p.issued
  skips : q.skips = p.skips
  fetches : q.fetches = p.fetches

theorem Silent.refl (p : Poller) : p.Silent p := ⟨rfl, rfl, rfl⟩

theorem Silent.trans {p q r : Poller} (h : p.Silent q) (h' : q.Silent r) : p.Silent r :=
  ⟨h'.issued.trans h.issued, h'.skips.trans h.skips, h'.fetches.trans h.fetches⟩

theorem silent_publish (p : Poller) {e : TickEvent} (he : e ≠ .skipped) :
    p.Silent (p.publish e) :=
  ⟨rfl, List.count_cons_of_ne he, rfl⟩

theorem silent_own (p : Poller) (o : Owners) : p.Silent { p with owners := o } := ⟨rfl, rfl, rfl⟩

theorem silent_release (p : Poller) : p.Silent p.release := by
  unfold release
  split <;> exact ⟨rfl, rfl, rfl⟩

theorem silent_stop (p : Poller) : p.Silent p.stop := by
  unfold stop
  split <;> exact ⟨rfl, rfl, rfl⟩

theorem silent_start_of_polling (hPolling : p.mode.isPolling = true) :
    p.Silent (p.start paused now) := by
  rw [start, if_pos hPolling]
  exact .refl p

/-- What prepares a tick issues no fetch and publishes no skip. -/
theorem silent_poised (p : Poller) (d : Deed) : p.Silent (p.poised now d) := by
  cases d with
  | operate o => cases o <;> exact ⟨rfl, rfl, rfl⟩
  | ring k =>
      rw [poised]
      split <;> exact ⟨rfl, rfl, rfl⟩
  | _ => exact .refl p

/-- What is done with a handle and starts nothing. -/
theorem silent_operate {o : Operation} (hIdle : o.starts = true → p.mode.isPolling = true) :
    p.Silent (p.operate paused now o) := by
  cases o with
  | start => exact silent_start_of_polling paused now (hIdle rfl)
  | enterActive => exact (silent_start_of_polling paused now (hIdle rfl)).trans ⟨rfl, rfl, rfl⟩
  | guard => exact (silent_start_of_polling paused now (hIdle rfl)).trans ⟨rfl, rfl, rfl⟩
  | exitActive =>
      rw [operate, exitActive]
      split <;> exact ⟨rfl, rfl, rfl⟩
  | stop => exact p.silent_stop
  | clone => exact ⟨rfl, rfl, rfl⟩
  | dropMain => exact (p.silent_own _).trans (silent_release _)
  | dropClone => exact (p.silent_own _).trans (silent_release _)
  | dropGuard => exact (p.silent_stop.trans (silent_own _ _)).trans (silent_release _)

/-- What fires and is no tick ends the window, or does nothing. -/
theorem ring_of_not_ticks {k : Nat} (hNot : p.ticks now (.ring k) = false) :
    p.ring paused now k = p ∨ ∃ t, p.timers.live[k]? = some t ∧ t.deadline ≤ now ∧
      t.action.isTick = false ∧
      p.ring paused now k
        = ({ p with timers := p.timers.afterFiring t now } : Poller).onAlarm paused now
            t.action := by
  cases ht : p.timers.live[k]? with
  | none =>
      left
      simp only [Poller.ring, ht]
  | some t =>
      by_cases hDue : t.deadline ≤ now
      · right
        refine ⟨t, rfl, hDue, ?_, by simp only [Poller.ring, ht, if_pos hDue]⟩
        simpa [ticks, ht, hDue] using hNot
      · left
        simp only [Poller.ring, ht, if_neg hDue]

theorem ringFetches_of_not_ticks {k : Nat} (hNot : p.ticks now (.ring k) = false) (i : Nat) :
    p.ringFetches paused now i k = [] := by
  cases ht : p.timers.live[k]? with
  | none => simp only [ringFetches, ht]
  | some t =>
      by_cases hDue : t.deadline ≤ now
      · simp only [ringFetches, ht, if_pos hDue]
        cases hAction : t.action with
        | tick generation => simp [ticks, ht, hDue, hAction, Alarm.isTick] at hNot
        | expiry generation => rfl
      · simp only [ringFetches, ht, if_neg hDue]

/-- Of a sound poller, what fires and is no tick ends the window that was opened last. -/
theorem Sound.ring_of_not_ticks (h : p.Sound entered) {k : Nat}
    (hNot : p.ticks now (.ring k) = false) :
    p.ring paused now k = p ∨ p.mode = .active ∧
      (∃ opened, entered = some opened ∧ opened + p.cadence.window ≤ now) ∧
      ∃ timers, ({ p with timers := timers } : Poller).Tidy ∧
        p.ring paused now k = ({ p with timers := timers } : Poller).closeWindow now := by
  refine (Poller.ring_of_not_ticks paused now hNot).imp_right ?_
  rintro ⟨t, ht, hDue, hTick, hRing⟩
  have hLive := List.mem_of_getElem? ht
  have hHandle := h.expiry_of_not_isTick hLive hTick
  obtain ⟨hAction, hActive, hTidy⟩ := h.expiry_fired hLive hHandle now
  refine ⟨hActive, ?_, p.timers.afterFiring t now, hTidy, ?_⟩
  · cases h.armed with
    | stopped mode => cases mode.symm.trans hActive
    | idle handle deadline mode => cases mode.symm.trans hActive
    | active opened handle deadline handle' _ entered live tick expiry apart =>
        refine ⟨opened, entered, ?_⟩
        rw [live, List.mem_cons, List.mem_singleton] at hLive
        rcases hLive with rfl | rfl
        · exact absurd hTick nofun
        · exact hDue
  · rw [hRing, hAction, onAlarm]
    exact if_pos ⟨rfl, hActive⟩

/-- **A deed without a tick in it** issues no fetch and publishes no skip; the fetch
operation is called only if the deed is to call it. -/
theorem silent_perform {d : Deed} (hNot : p.ticks now d = false) (hAsk : d ≠ .ask) (i : Nat) :
    p.Silent (p.perform paused now d) ∧ p.launches paused now i d = [] := by
  cases d with
  | operate o =>
      rw [Poller.perform, launches]
      split
      next hAllowed =>
        have hIdle : o.starts = true → p.mode.isPolling = true := by
          intro hStarts
          simpa [ticks, hAllowed, hStarts] using hNot
        refine ⟨silent_operate paused now hIdle, ?_⟩
        cases o with
        | start => exact if_pos (hIdle rfl)
        | enterActive => exact if_pos (hIdle rfl)
        | guard => exact if_pos (hIdle rfl)
        | _ => rfl
      next => exact ⟨.refl p, rfl⟩
  | ask => exact absurd rfl hAsk
  | ring k =>
      refine ⟨?_, ringFetches_of_not_ticks paused now hNot i⟩
      rw [Poller.perform]
      rcases Poller.ring_of_not_ticks paused now hNot with hSame | ⟨t, -, -, hTick, hRing⟩
      · rw [hSame]
        exact .refl p
      · rw [hRing]
        cases hAction : t.action with
        | tick generation => rw [hAction] at hTick; cases hTick
        | expiry generation =>
            rw [onAlarm]
            split <;> exact ⟨rfl, rfl, rfl⟩
  | accept run seq status =>
      refine ⟨?_, rfl⟩
      rw [Poller.perform, Poller.accept]
      split
      next => exact .refl p
      next =>
        split
        next => exact .refl p
        next =>
          have hFetched := silent_publish (p.apply seq status) (e := .fetched status) (by simp)
          dsimp only
          split
          next => exact ⟨hFetched.issued, hFetched.skips, hFetched.fetches⟩
          next => exact ⟨hFetched.issued, hFetched.skips, hFetched.fetches⟩
  | fail run error =>
      refine ⟨?_, rfl⟩
      rw [Poller.perform, Poller.fail]
      split
      next => exact silent_publish p (by simp)
      next => exact .refl p
  | conclude run current previous =>
      refine ⟨?_, rfl⟩
      have hTold := silent_publish p (e := .statusChanged current previous) (by simp)
      rw [Poller.perform, Poller.conclude]
      refine Silent.trans ?_ (silent_release _)
      split <;> exact ⟨hTold.issued, hTold.skips, hTold.fetches⟩

end Poller

/-! ## In a scene -/

namespace Scene

variable {ω : Type}

/-- Whether a move brings poller `i` a tick. -/
def ticks (s : Scene ω) (i : Nat) (m : Move ω) : Bool :=
  (s.deed? m).any fun (j, d) => j == i && s.fleet.pollers[i]?.any (·.ticks s.fleet.now d)

/-- The mode of poller `i`. -/
def mode (s : Scene ω) (i : Nat) : Mode := (s.fleet.pollers[i]?.map Poller.mode).getD .stopped

theorem mode_of_getElem? {s : Scene ω} {i : Nat} {p : Poller}
    (hp : s.fleet.pollers[i]? = some p) : s.mode i = p.mode := by
  rw [mode, hp]
  rfl

/-- How many ticks poller `i` has skipped. -/
def skips (s : Scene ω) (i : Nat) : Nat := (s.fleet.pollers[i]?.map Poller.skips).getD 0

theorem ticks_of_deed {s : Scene ω} {i : Nat} {m : Move ω} {d : Deed} {p : Poller}
    (hp : s.fleet.pollers[i]? = some p) (hDeed : s.deed? m = some (i, d)) :
    s.ticks i m = p.ticks s.fleet.now d := by
  simp [ticks, hDeed, hp]

/-- A tick is a deed of the poller. -/
theorem exists_of_ticks {s : Scene ω} {i : Nat} {m : Move ω} {p : Poller}
    (hp : s.fleet.pollers[i]? = some p) (hTicks : s.ticks i m = true) :
    ∃ d, s.deed? m = some (i, d) ∧ p.ticks s.fleet.now d = true := by
  cases hDeed : s.deed? m with
  | none => simp [ticks, hDeed] at hTicks
  | some x =>
      obtain ⟨j, d⟩ := x
      simp only [ticks, hDeed, hp, Option.any_some, Bool.and_eq_true, beq_iff_eq] at hTicks
      obtain ⟨rfl, hTick⟩ := hTicks
      exact ⟨d, rfl, hTick⟩

/-- What takes off with a deed. -/
theorem launched_of_deed {s : Scene ω} {m : Move ω} {j : Nat} {d : Deed}
    (h : s.deed? m = some (j, d)) : s.launched m = s.launchedBy j d := by
  cases meets_of_deed h with
  | operate o => rfl
  | ask => rfl
  | ring k => rfl
  | accept => cases hp : s.fleet.pollers[j]? <;> simp [launched, launchedBy, hp, Poller.launches]
  | fail => cases hp : s.fleet.pollers[j]? <;> simp [launched, launchedBy, hp, Poller.launches]
  | conclude => cases hp : s.fleet.pollers[j]? <;> simp [launched, launchedBy, hp, Poller.launches]

/-- The fetches that a move starts for ticks of poller `i`, by their runs and numbers. -/
def issuedBy (s : Scene ω) (i : Nat) (m : Move ω) : List (Nat × Nat) :=
  (s.launched m).filterMap (Purpose.mark? i)

/-- The fetch that a tick of poller `i` starts, if the gate is not paused. -/
theorem issuedBy_of_ticks {s : Scene ω} {i : Nat} {m : Move ω} {d : Deed} {p : Poller}
    {entered : Option Nat} (hp : s.fleet.pollers[i]? = some p) (hSound : p.Sound entered)
    (hDeed : s.deed? m = some (i, d)) (hTicks : p.ticks s.fleet.now d = true) :
    s.issuedBy i m = if s.fleet.gate.paused then []
      else [((p.poised s.fleet.now d).run, p.issued + 1)] := by
  rw [issuedBy, launched_of_deed hDeed, launchedBy, hp, Option.map_some, Option.getD_some,
    hSound.launches_of_ticks _ _ _ hTicks, Poller.tickFetches]
  split
  next => rfl
  next => simp [Purpose.mark?, (p.silent_poised s.fleet.now d).issued]

/-- A move that is no tick of poller `i` starts no fetch for one. -/
theorem issuedBy_of_not_ticks {s : Scene ω} {i : Nat} {m : Move ω} {p : Poller}
    (hp : s.fleet.pollers[i]? = some p) (hNot : s.ticks i m = false) : s.issuedBy i m = [] := by
  cases hDeed : s.deed? m with
  | none => cases m <;> first | rfl | cases hDeed
  | some x =>
      obtain ⟨j, d⟩ := x
      rw [issuedBy, launched_of_deed hDeed, launchedBy]
      by_cases hj : j = i
      · subst hj
        rw [ticks_of_deed hp hDeed] at hNot
        rw [hp, Option.map_some, Option.getD_some]
        by_cases hAsk : d = .ask
        · subst hAsk
          rw [Poller.launches]
          split <;> rfl
        · rw [(Poller.silent_perform s.fleet.gate.paused s.fleet.now hNot hAsk j).2]
          rfl
      · cases s.fleet.pollers[j]? with
        | none => rfl
        | some q => exact mark?_launches hj q _ _ d

/-- A move that is no tick of poller `i` publishes no skip for it. -/
theorem silent_turn {s : Scene ω} {i : Nat} {m : Move ω} {p : Poller}
    (hp : s.fleet.pollers[i]? = some p) (hNot : s.ticks i m = false)
    (hAsk : s.deed? m ≠ some (i, .ask)) : p.Silent (s.turn m i p) := by
  rcases s.turn_cases m i p with hSame | ⟨d, hDeed, hTurn⟩
  · rw [hSame]
    exact .refl p
  · rw [ticks_of_deed hp hDeed] at hNot
    rw [hTurn]
    exact (Poller.silent_perform _ _ hNot (fun hd => hAsk (hd ▸ hDeed)) i).1

variable [FetchSource ω]

/-- How often a move makes poller `i` attempt a fetch: the fetches that it starts for ticks
of the poller, and the skips that the poller publishes. -/
def attemptsBy (s : Scene ω) (i : Nat) (m : Move ω) : Nat :=
  (s.issuedBy i m).length + ((s.move m).skips i - s.skips i)

/-- **A tick is one attempt**, and nothing else is. -/
theorem attemptsBy_eq {s : Scene ω} {i : Nat} {m : Move ω} {p : Poller} {entered : Option Nat}
    (hp : s.fleet.pollers[i]? = some p) (hSound : p.Sound entered) :
    s.attemptsBy i m = if s.ticks i m then 1 else 0 := by
  have hAfter : (s.move m).skips i = (s.turn m i p).skips := by
    rw [skips, getElem?_move, hp]
    rfl
  have hBefore : s.skips i = p.skips := by
    rw [skips, hp]
    rfl
  rw [attemptsBy, hAfter, hBefore]
  cases hTicks : s.ticks i m with
  | true =>
      obtain ⟨d, hDeed, hTick⟩ := exists_of_ticks hp hTicks
      have hPoised := (p.silent_poised s.fleet.now d).skips
      rw [issuedBy_of_ticks hp hSound hDeed hTick, turn_of_deed hDeed,
        hSound.perform_of_ticks _ _ hTick, Poller.tick, ← hPoised]
      -- Either a skip is published or a fetch is started.
      split
      next => simp [Poller.skips, Poller.publish]
      next => simp [Poller.skips, Poller.issue, Poller.noteFetch]
  | false =>
      have hSkips : (s.turn m i p).skips = p.skips := by
        by_cases hAsk : s.deed? m = some (i, .ask)
        · rw [turn_of_deed hAsk, Poller.perform]
          split <;> rfl
        · exact (silent_turn hp hTicks hAsk).skips
      rw [issuedBy_of_not_ticks hp hTicks, hSkips]
      simp

end Scene

end Lookout.Polling
