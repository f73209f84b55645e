import Lookout.Proofs.Polling.Flights

set_option autoImplicit false

/-! # Calls of the fetch operation

`Poller.launches` says for what fetches take off with a deed; here is where they come from.
Each is the answer to one call of the fetch operation of the poller, made when the deed is
done, and nobody else calls upon the world that answers fetches. `Fleet.Calls` relates a
fleet before and after in this way, with a lemma for each operation, and `calls_of_deed`
sums them up.
-/

namespace Lookout.Polling

namespace Fleet

variable {ω : Type}

theorem source_accept (s : Fleet ω) (i run seq : Nat) (status : Option String) :
    (s.accept i run seq status).1.source = s.source := by
  unfold accept
  split
  next => rfl
  next =>
    split
    next => rfl
    next =>
      split
      next => rfl
      next =>
        dsimp only
        split <;> rfl

theorem source_fail (s : Fleet ω) (i run : Nat) (error : String) :
    (s.fail i run error).source = s.source := by
  unfold fail
  split
  next => rfl
  next => split <;> rfl

/-- A fetch that lands calls upon nobody. -/
theorem source_deliver (s : Fleet ω) (f : Flight) : (s.deliver f).1.source = s.source := by
  have hEffects := (effects_frame f.effects s).2.2.2
  unfold deliver
  cases f.purpose with
  | direct => exact hEffects
  | tick i run seq =>
      cases f.result with
      | ok status => exact (source_accept _ i run seq status).trans hEffects
      | error text => exact (source_fail _ i run text).trans hEffects

variable [FetchSource ω]

/-- The fetch that poller `i` has from a call of its fetch operation now, in flight. -/
def flight (s : Fleet ω) (i : Nat) (purpose : Purpose) : Flight :=
  let f := (FetchSource.fetch s.source i).1
  ⟨s.now + f.duration, purpose, f.effects, f.result⟩

/-- The fetch operation of poller `i` is called once for each purpose in a list, of which
there is one at most, and the fetch takes off. -/
inductive Calls (s s' : Fleet ω) (i : Nat) : List Purpose → Prop
  | none (source : s'.source = s.source) (flights : s'.flights = s.flights) : Calls s s' i []
  | once (purpose : Purpose) (source : s'.source = (FetchSource.fetch s.source i).2)
      (flights : s'.flights = s.flights ++ [s.flight i purpose]) : Calls s s' i [purpose]

variable {s s₁ s₂ s' : Fleet ω} {i : Nat} {l : List Purpose}

theorem Calls.refl (s : Fleet ω) (i : Nat) : s.Calls s i [] := .none rfl rfl

/-- What comes before and after the call does not matter if it calls nothing. -/
theorem Calls.frame (h : s₁.Calls s₂ i l) (hBefore : s.Calls s₁ i []) (hNow : s₁.now = s.now)
    (hAfter : s₂.Calls s' i []) : s.Calls s' i l := by
  cases hBefore with
  | none source flights =>
      cases hAfter with
      | none source' flights' =>
          cases h with
          | none source'' flights'' =>
              exact .none (source'.trans (source''.trans source))
                (flights'.trans (flights''.trans flights))
          | once purpose source'' flights'' =>
              refine .once purpose ?_ ?_
              · rw [source', source'', source]
              · rw [flights', flights'', flights, flight, flight, source, hNow]

theorem calls_modify (s : Fleet ω) (i j : Nat) (f : Poller → Poller) :
    s.Calls (s.modify j f) i [] := .none rfl rfl

theorem calls_stop (s : Fleet ω) (i : Nat) : s.Calls (s.stop i) i [] := by
  unfold stop
  split
  next => exact .refl s i
  next => split <;> exact .none rfl rfl

theorem calls_leaveActive (s : Fleet ω) (i : Nat) : s.Calls (s.leaveActive i) i [] := by
  unfold leaveActive
  split <;> exact .none rfl rfl

theorem calls_exitActive (s : Fleet ω) (i : Nat) : s.Calls (s.exitActive i) i [] := by
  unfold exitActive
  split
  next => exact .refl s i
  next =>
    split
    next => exact s.calls_leaveActive i
    next => exact .refl s i

theorem calls_endWindow (s : Fleet ω) (i run : Nat) : s.Calls (s.endWindow i run) i [] := by
  unfold endWindow
  split
  next => exact .refl s i
  next =>
    split
    next => exact s.calls_leaveActive i
    next => exact .refl s i

theorem calls_conclude (s : Fleet ω) (r : Report) : s.Calls (s.conclude r) r.poller [] := by
  unfold conclude
  split
  next => exact .refl s _
  next p _ =>
    have hTold : s.Calls ((s.record (.bump (.statusChange p.name))).emit r.poller p.name
        (.statusChanged r.current r.previous)) r.poller [] := .none rfl rfl
    exact (calls_endWindow _ r.poller r.run).frame hTold rfl (.none rfl rfl)

theorem calls_tick {p : Poller} (hp : s.pollers[i]? = some p) :
    s.Calls (s.tick i) i (p.tickFetches s.gate.paused i) := by
  unfold tick Poller.tickFetches
  rw [hp]
  dsimp only
  split
  next => exact .none rfl rfl
  next => exact .once _ rfl rfl

theorem calls_start {p : Poller} (hp : s.pollers[i]? = some p) :
    s.Calls (s.start i) i (p.startFetches s.gate.paused i) := by
  unfold start Poller.startFetches
  rw [hp]
  dsimp only
  split
  next => exact .refl s i
  next =>
    unfold begin
    rw [hp]
    have hBegun : ((s.modify i Poller.beginRun).log
        (.pollingStarted p.name p.cadence.idle)).pollers[i]? = some p.beginRun := by
      simp [modify, log, record, hp]
    exact (calls_tick hBegun).frame (.none rfl rfl) rfl (.none rfl rfl)

theorem calls_carryOut {p : Poller} (hp : s.pollers[i]? = some p) (o : Operation) :
    s.Calls (s.carryOut i o) i (p.operateFetches s.gate.paused i o) := by
  have hStart := calls_start hp
  cases o with
  | start => exact hStart
  | guard => exact hStart.frame (.refl s i) rfl (.none rfl rfl)
  | enterActive =>
      show s.Calls (s.enterActive i) i _
      unfold enterActive
      rw [hp]
      exact hStart.frame (.refl s i) rfl (.none rfl rfl)
  | exitActive => exact s.calls_exitActive i
  | stop => exact s.calls_stop i
  | clone => exact .none rfl rfl
  | dropMain => exact .none rfl rfl
  | dropClone => exact .none rfl rfl
  | dropGuard => exact (s.calls_stop i).frame (.refl s i) rfl (.none rfl rfl)

theorem calls_operate {p : Poller} (hp : s.pollers[i]? = some p) (o : Operation) :
    s.Calls (s.operate i o) i (p.launches s.gate.paused s.now i (.operate o)) := by
  rw [operate, allows_eq hp, Poller.launches]
  split
  next => exact calls_carryOut hp o
  next => exact .refl s i

theorem calls_ask {p : Poller} (hp : s.pollers[i]? = some p) :
    s.Calls (s.ask i) i (p.launches s.gate.paused s.now i .ask) := by
  rw [ask, allows_eq hp, Poller.launches, Operation.allowed]
  split
  next => exact .once .direct rfl rfl
  next => exact .refl s i

theorem calls_onAlarm {p : Poller} (hp : s.pollers[i]? = some p) (a : Alarm) :
    s.Calls (s.onAlarm i a) i (p.alarmFetches s.gate.paused i a) := by
  cases a with
  | tick generation =>
      show s.Calls (s.onTick i generation) i _
      unfold onTick Poller.alarmFetches
      rw [hp]
      dsimp only
      split
      next => exact calls_tick hp
      next => exact .refl s i
  | expiry generation =>
      show s.Calls (s.onExpiry i generation) i []
      unfold onExpiry
      rw [hp]
      dsimp only
      split
      next =>
        have hLogged : s.Calls (s.log (.windowElapsed p.name)) i [] := .none rfl rfl
        exact (calls_leaveActive _ i).frame hLogged rfl (.refl _ i)
      next => exact .refl s i

theorem calls_ring {p : Poller} (hp : s.pollers[i]? = some p) (k : Nat) :
    s.Calls (s.ring i k) i (p.launches s.gate.paused s.now i (.ring k)) := by
  rw [Poller.launches]
  unfold ring Poller.ringFetches
  rw [hp]
  dsimp only
  cases p.timers.live[k]? with
  | none => exact .refl s i
  | some t =>
      dsimp only
      split
      next =>
        have hFired : (s.modify i fun p =>
            { p with timers := p.timers.afterFiring t s.now }).pollers[i]?
            = some { p with timers := p.timers.afterFiring t s.now } := by
          simp [modify, hp]
        have hAlarm := (calls_onAlarm hFired t.action).frame (s.calls_modify i i _) rfl (.refl _ i)
        cases hAction : t.action <;> rw [hAction] at hAlarm <;> exact hAlarm
      next => exact .refl s i

theorem Calls.source_eq (h : s.Calls s' i []) : s'.source = s.source := by
  cases h with
  | none source _ => exact source

end Fleet

namespace Scene

variable {ω : Type} [FetchSource ω]

/-- A fetch that lands calls upon nobody. -/
theorem source_land (s : Scene ω) (k : Nat) :
    (s.move (.land k)).fleet.source = s.fleet.source := by
  rw [move]
  cases s.fleet.flights[k]? with
  | none => rfl
  | some f => exact Fleet.source_deliver _ f

/-- **A deed calls for the fetches that take off with it**, unless it is that a fetch lands. -/
theorem calls_of_deed {s : Scene ω} {i : Nat} {m : Move ω} {d : Deed} {p : Poller}
    (hp : s.fleet.pollers[i]? = some p) (hMeets : s.Meets i m d) (hLand : ∀ k, m ≠ .land k) :
    s.fleet.Calls (s.move m).fleet i (p.launches s.fleet.gate.paused s.fleet.now i d) := by
  cases hMeets with
  | operate o => exact Fleet.calls_operate hp o
  | ask => exact Fleet.calls_ask hp
  | ring k => exact Fleet.calls_ring hp k
  | accept k => exact absurd rfl (hLand k)
  | fail k => exact absurd rfl (hLand k)
  | conclude k r report poller =>
      subst poller
      rw [move, report]
      exact s.fleet.calls_conclude r

end Scene

end Lookout.Polling
