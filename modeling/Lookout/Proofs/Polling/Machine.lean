import Lookout.Proofs.Polling.Scene

set_option autoImplicit false

/-! # One poller in a scene

Whatever happens in a scene, a poller takes part in it in a few ways only, its `Deed`s:
something is done with a handle of it, one of its timers fires, its fetch operation is
called out of turn, a fetch of its ticks lands, a report of its changes is concluded.
`Poller.perform` says what each of them makes of the poller, given the time and whether the
gate is paused, and `Poller.launches` which fetches take off. `Fleet.Does` ties an operation
of a fleet to what it is for the poller it is done to; each operation has one lemma of this
kind, and further on nobody unfolds an operation.
-/

namespace Lookout.Polling

open Journal (Entry)

/-! ## What a poller does -/

/-- What can happen to a poller. -/
inductive Deed
  | operate (o : Operation)
  | ask
  /-- The `k`-th live timer fires, if it is due. -/
  | ring (k : Nat)
  /-- Fetch `seq` of a run has succeeded. -/
  | accept (run seq : Nat) (status : Option String)
  /-- A fetch of a run has failed. -/
  | fail (run : Nat) (error : String)
  /-- The callback is done with a change that was seen in a run. -/
  | conclude (run : Nat) (current previous : String)

namespace Poller

/-- A tick: skipped while the gate is paused, a fetch otherwise. -/
def tick (paused : Bool) (now : Nat) (p : Poller) : Poller :=
  if paused then p.publish .skipped else p.issue.noteFetch now

/-- A run is begun, unless one is going on. -/
def start (paused : Bool) (now : Nat) (p : Poller) : Poller :=
  if p.mode.isPolling then p
  else (p.beginRun.tick paused now).armTicks now p.cadence.idle

/-- The run is ended, if one is going on. -/
def stop (p : Poller) : Poller := if p.mode.isPolling then p.endRun else p

/-- The active window is closed, if it is open. -/
def exitActive (now : Nat) (p : Poller) : Poller :=
  if p.mode = .active then p.closeWindow now else p

/-- What is done with a handle. -/
def operate (paused : Bool) (now : Nat) (p : Poller) : Operation → Poller
  | .start => p.start paused now
  | .stop => p.stop
  | .enterActive => (p.start paused now).openWindow now
  | .exitActive => p.exitActive now
  | .clone => { p with owners := { p.owners with clones := p.owners.clones + 1 } }
  | .guard =>
    let p := p.start paused now
    { p with owners := { p.owners with guards := p.owners.guards + 1 } }
  | .dropMain => ({ p with owners := { p.owners with main := false } } : Poller).release
  | .dropClone =>
    ({ p with owners := { p.owners with clones := p.owners.clones - 1 } } : Poller).release
  | .dropGuard =>
    let p := p.stop
    ({ p with owners := { p.owners with guards := p.owners.guards - 1 } } : Poller).release

/-- A timer of the poller does what it is for, unless it is of an old generation. -/
def onAlarm (paused : Bool) (now : Nat) (p : Poller) : Alarm → Poller
  | .tick generation =>
    if p.tickGeneration = generation ∧ p.mode.isPolling then p.tick paused now else p
  | .expiry generation =>
    if p.expiryGeneration = generation ∧ p.mode = .active then p.closeWindow now else p

/-- The `k`-th live timer fires, if it is due. -/
def ring (paused : Bool) (now : Nat) (p : Poller) (k : Nat) : Poller :=
  match p.timers.live[k]? with
  | none => p
  | some t =>
    if t.deadline ≤ now then
      ({ p with timers := p.timers.afterFiring t now } : Poller).onAlarm paused now t.action
    else p

/-- Fetch `seq` of a run has succeeded. -/
def accept (p : Poller) (run seq : Nat) (status : Option String) : Poller :=
  if ¬ p.alive ∨ p.run ≠ run ∨ ¬ p.mode.isPolling then p
  else if seq ≤ p.applied then p
  else
    let q := (p.apply seq status).publish (.fetched status)
    match p.change? status with
    | none => q
    | some (current, previous) => q.beginReport current previous

/-- A fetch of a run has failed. -/
def fail (p : Poller) (run : Nat) (error : String) : Poller :=
  if p.alive ∧ p.run = run then p.publish (.failed error) else p

/-- The callback is done with a change that was seen in a run. -/
def conclude (now : Nat) (p : Poller) (run : Nat) (current previous : String) : Poller :=
  let p := p.publish (.statusChanged current previous)
  (if p.run = run ∧ p.mode = .active then p.closeWindow now else p).endReport.release

/-- What a deed makes of a poller. -/
def perform (paused : Bool) (now : Nat) (p : Poller) : Deed → Poller
  | .operate o => if o.allowed p.owners then p.operate paused now o else p
  | .ask => if p.owners.held then p.noteFetch now else p
  | .ring k => p.ring paused now k
  | .accept run seq status => p.accept run seq status
  | .fail run error => p.fail run error
  | .conclude run current previous => p.conclude now run current previous

/-- The fetch that a tick of poller `i` starts, if it starts one. -/
def tickFetches (paused : Bool) (i : Nat) (p : Poller) : List Purpose :=
  if paused then [] else [.tick i p.run (p.issued + 1)]

/-- The fetch that the beginning of a run starts, if one is begun. -/
def startFetches (paused : Bool) (i : Nat) (p : Poller) : List Purpose :=
  if p.mode.isPolling then [] else p.beginRun.tickFetches paused i

/-- The fetches that take off when something is done with a handle of poller `i`. -/
def operateFetches (paused : Bool) (i : Nat) (p : Poller) : Operation → List Purpose
  | .start | .enterActive | .guard => p.startFetches paused i
  | .stop | .exitActive | .clone | .dropMain | .dropClone | .dropGuard => []

/-- The fetches that take off when a timer of poller `i` does what it is for. -/
def alarmFetches (paused : Bool) (i : Nat) (p : Poller) : Alarm → List Purpose
  | .tick generation =>
    if p.tickGeneration = generation ∧ p.mode.isPolling then p.tickFetches paused i else []
  | .expiry _ => []

/-- The fetches that take off when the `k`-th live timer of poller `i` fires. -/
def ringFetches (paused : Bool) (now i : Nat) (p : Poller) (k : Nat) : List Purpose :=
  match p.timers.live[k]? with
  | none => []
  | some t => if t.deadline ≤ now then p.alarmFetches paused i t.action else []

/-- The fetches that take off with a deed of poller `i`. -/
def launches (paused : Bool) (now i : Nat) (p : Poller) : Deed → List Purpose
  | .operate o => if o.allowed p.owners then p.operateFetches paused i o else []
  | .ask => if p.owners.held then [.direct] else []
  | .ring k => p.ringFetches paused now i k
  | .accept .. | .fail .. | .conclude .. => []

end Poller

/-! ## Changing one of many -/

/-- Two changes of an entry that agree on it come to the same. -/
theorem modify_congr {α : Type} {l : List α} {i : Nat} {f g : α → α}
    (h : ∀ a, l[i]? = some a → f a = g a) : l.modify i f = l.modify i g := by
  apply List.ext_getElem?
  intro j
  rw [List.getElem?_modify, List.getElem?_modify]
  -- Other entries are the same whatever is done; at `i` the two changes agree.
  by_cases hj : i = j
  · subst hj
    cases ha : l[i]? with
    | none => rfl
    | some a => simp [h a ha]
  · simp [hj]

/-- A change of an entry that is not there does nothing. -/
theorem modify_of_none {α : Type} {l : List α} {i : Nat} {f : α → α} (h : l[i]? = none) :
    l.modify i f = l :=
  List.modify_eq_self (List.getElem?_eq_none_iff.mp h)

/-- A change that leaves the entry as it is does nothing. -/
theorem modify_of_fixed {α : Type} {l : List α} {i : Nat} {f : α → α} {a : α}
    (h : l[i]? = some a) (ha : f a = a) : l.modify i f = l := by
  rw [modify_congr (f := f) (g := id), List.modify_id]
  intro b hb
  rw [h] at hb
  obtain rfl := Option.some.inj hb
  exact ha

/-! ## Operations of a fleet, as seen by its pollers -/

namespace Fleet

variable {ω : Type}

/-- What the fetches in flight are for, in the order in which they were started. -/
def purposes (s : Fleet ω) : List Purpose := s.flights.map Flight.purpose

/-- Something done to poller `i`: what it makes of the poller, and the fetches that take
off. The clock and the gate are none of its business. -/
structure Does (s s' : Fleet ω) (i : Nat) (f : Poller → Poller)
    (g : Poller → List Purpose := fun _ => []) : Prop where
  pollers : s'.pollers = s.pollers.modify i f
  flights : s'.purposes = s.purposes ++ (s.pollers[i]?.map g).getD []
  now : s'.now = s.now
  gate : s'.gate = s.gate

theorem Does.trans {s₁ s₂ s₃ : Fleet ω} {i : Nat} {f₁ f₂ : Poller → Poller}
    {g₁ g₂ : Poller → List Purpose} (h₁ : s₁.Does s₂ i f₁ g₁) (h₂ : s₂.Does s₃ i f₂ g₂) :
    s₁.Does s₃ i (f₂ ∘ f₁) (fun p => g₁ p ++ g₂ (f₁ p)) where
  pollers := by rw [h₂.pollers, h₁.pollers, List.modify_modify_eq]
  flights := by
    rw [h₂.flights, h₁.flights, h₁.pollers, List.getElem?_modify_eq, List.append_assoc]
    cases s₁.pollers[i]? <;> rfl
  now := h₂.now.trans h₁.now
  gate := h₂.gate.trans h₁.gate

/-- If no fetch takes off, those in flight are the same. -/
theorem Does.purposes_eq {s s' : Fleet ω} {i : Nat} {f : Poller → Poller} (h : s.Does s' i f) :
    s'.purposes = s.purposes := by
  rw [h.flights]
  cases s.pollers[i]? <;> simp

/-- Only what is done to the poller that is there matters. -/
theorem Does.congr {s s' : Fleet ω} {i : Nat} {p : Poller} {f f' : Poller → Poller}
    {g g' : Poller → List Purpose} (h : s.Does s' i f g) (hp : s.pollers[i]? = some p)
    (hf : f p = f' p) (hg : g p = g' p) : s.Does s' i f' g' where
  pollers := by
    refine h.pollers.trans (modify_congr fun q hq => ?_)
    obtain rfl := Option.some.inj (hp.symm.trans hq)
    exact hf
  flights := by rw [h.flights, hp, Option.map_some, Option.map_some, hg]
  now := h.now
  gate := h.gate

/-- Nothing can be done to a poller that is not there. -/
theorem Does.none {s : Fleet ω} {i : Nat} (f : Poller → Poller) (g : Poller → List Purpose)
    (h : s.pollers[i]? = none) : s.Does s i f g where
  pollers := (modify_of_none h).symm
  flights := by rw [h]; simp
  now := rfl
  gate := rfl

/-- Nothing happens if what is done leaves the poller as it is. -/
theorem Does.fixed {s : Fleet ω} {i : Nat} {f : Poller → Poller} {g : Poller → List Purpose}
    {p : Poller} (h : s.pollers[i]? = some p) (hf : f p = p) (hg : g p = []) :
    s.Does s i f g where
  pollers := (modify_of_fixed h hf).symm
  flights := by rw [h, Option.map_some, hg]; simp
  now := rfl
  gate := rfl

/-- The other pollers stay as they are. -/
theorem Does.getElem? {s s' : Fleet ω} {j : Nat} {f : Poller → Poller}
    {g : Poller → List Purpose} (h : s.Does s' j f g) (i : Nat) :
    s'.pollers[i]? = s.pollers[i]?.map fun p => if j = i then f p else p := by
  rw [h.pollers, List.getElem?_modify]
  rfl

theorem Does.refl (s : Fleet ω) (i : Nat) : s.Does s i id where
  pollers := (List.modify_id i s.pollers).symm
  flights := by cases h : s.pollers[i]? <;> simp
  now := rfl
  gate := rfl

/-- A change of the poller itself. -/
theorem does_modify (s : Fleet ω) (i : Nat) (f : Poller → Poller) :
    s.Does (s.modify i f) i f where
  pollers := rfl
  flights := by cases h : s.pollers[i]? <;> simp [purposes, modify]
  now := rfl
  gate := rfl

/-- What goes into the journal changes nothing else. -/
theorem Does.record {s s' : Fleet ω} {i : Nat} {f : Poller → Poller} {g : Poller → List Purpose}
    (h : s.Does s' i f g) (e : Entry) : s.Does (s'.record e) i f g :=
  ⟨h.pollers, h.flights, h.now, h.gate⟩

/-- An event is published. -/
theorem Does.emit {s s' : Fleet ω} {i : Nat} {f : Poller → Poller} {g : Poller → List Purpose}
    (h : s.Does s' i f g) (name : String) (e : TickEvent) :
    s.Does (s'.emit i name e) i ((·.publish e) ∘ f) (fun p => g p ++ []) :=
  (h.record _).trans (does_modify _ i _)

/-! ### Ends of runs and windows -/

theorem does_stop (s : Fleet ω) (i : Nat) : s.Does (s.stop i) i Poller.stop := by
  unfold stop
  split
  next hNone => exact .none _ _ hNone
  next p hp =>
    split
    next hPolling =>
      exact ((s.does_modify i _).record _).congr hp (by simp [Poller.stop, hPolling]) rfl
    next hStopped => exact .fixed hp (by simp [Poller.stop, hStopped]) rfl

theorem does_leaveActive (s : Fleet ω) (i : Nat) :
    s.Does (s.leaveActive i) i (·.closeWindow s.now) := by
  unfold leaveActive
  split
  next hNone => exact .none _ _ hNone
  next p hp => exact (s.does_modify i _).record _

theorem does_exitActive (s : Fleet ω) (i : Nat) :
    s.Does (s.exitActive i) i (·.exitActive s.now) := by
  unfold exitActive
  split
  next hNone => exact .none _ _ hNone
  next p hp =>
    split
    next hActive =>
      exact (s.does_leaveActive i).congr hp (by simp [Poller.exitActive, hActive]) rfl
    next hIdle => exact .fixed hp (by simp [Poller.exitActive, hIdle]) rfl

/-! ### Completions -/

/-- The effects of a fetch reach the gate and the journal, and nothing else. -/
theorem effects_frame (effects : List Effect) (s : Fleet ω) :
    (effects.foldl effect s).pollers = s.pollers ∧ (effects.foldl effect s).flights = s.flights ∧
      (effects.foldl effect s).now = s.now ∧ (effects.foldl effect s).source = s.source := by
  induction effects generalizing s with
  | nil => exact ⟨rfl, rfl, rfl, rfl⟩
  | cons e rest ih =>
      obtain ⟨hPollers, hFlights, hNow, hSource⟩ := ih (s.effect e)
      rw [List.foldl_cons, hPollers, hFlights, hNow, hSource]
      cases e <;> exact ⟨rfl, rfl, rfl, rfl⟩

/-- What a success makes of a poller is what `Poller.accept` says; and a report is open
afterwards exactly if the status has changed and there is a callback to tell. -/
theorem does_accept (s : Fleet ω) (i run seq : Nat) (status : Option String) :
    s.Does (s.accept i run seq status).1 i (·.accept run seq status) := by
  -- The cases are those of `Fleet.accept`: not meant for the run going on, too late, no
  -- change, a change to report.
  unfold accept
  split
  next hNone => exact .none _ _ hNone
  next p hp =>
    split
    next hOld => exact .fixed hp (by simp only [Poller.accept, if_pos hOld]) rfl
    next hMeant =>
      split
      next hStale =>
        exact ((Does.refl s i).record _).congr hp
          (by simp only [Poller.accept, if_neg hMeant, if_pos hStale]; rfl) rfl
      next hNew =>
        have hFetched := (s.does_modify i (·.apply seq status)).emit p.name (.fetched status)
        split
        next hSame =>
          refine hFetched.congr hp ?_ rfl
          simp only [Poller.accept, if_neg hMeant, if_neg hNew, hSame]
          rfl
        next current previous hChange =>
          refine ((hFetched.record _).trans (does_modify _ i _)).congr hp ?_ rfl
          simp only [Poller.accept, if_neg hMeant, if_neg hNew, hChange]
          rfl

theorem does_fail (s : Fleet ω) (i run : Nat) (error : String) :
    s.Does (s.fail i run error) i (·.fail run error) := by
  unfold fail
  split
  next hNone => exact .none _ _ hNone
  next p hp =>
    split
    next hMeant =>
      exact (((Does.refl s i).record _).emit p.name (.failed error)).congr hp
        (by simp only [Poller.fail, if_pos hMeant]; rfl) rfl
    next hOld => exact .fixed hp (by simp only [Poller.fail, if_neg hOld]) rfl

theorem does_endWindow (s : Fleet ω) (i run : Nat) :
    s.Does (s.endWindow i run) i
      fun p => if p.run = run ∧ p.mode = .active then p.closeWindow s.now else p := by
  unfold endWindow
  split
  next hNone => exact .none _ _ hNone
  next p hp =>
    split
    next hMeant => exact (s.does_leaveActive i).congr hp (by simp [hMeant]) rfl
    next hOld => exact .fixed hp (by simp only [if_neg hOld]) rfl

theorem does_conclude (s : Fleet ω) (r : Report) :
    s.Does (s.conclude r) r.poller (·.conclude s.now r.run r.current r.previous) := by
  unfold conclude
  split
  next hNone => exact .none _ _ hNone
  next p hp =>
    -- Told to the listeners, the window closed, the report ended, and the poller let go.
    have hTold := (((Does.refl s r.poller).record (.bump (.statusChange p.name))).emit p.name
      (.statusChanged r.current r.previous))
    have hDone := ((hTold.trans (does_endWindow _ r.poller r.run)).trans
      (does_modify _ r.poller Poller.endReport)).trans (does_modify _ r.poller Poller.release)
    exact hDone.congr hp rfl rfl

/-- The landing of a fetch takes no time. -/
theorem now_deliver (s : Fleet ω) (f : Flight) : (s.deliver f).1.now = s.now := by
  have hEffects := (effects_frame f.effects s).2.2.1
  unfold deliver
  cases f.purpose with
  | direct => exact hEffects
  | tick i run seq =>
      cases f.result with
      | ok status => exact (does_accept _ i run seq status).now.trans hEffects
      | error text => exact (does_fail _ i run text).now.trans hEffects

/-! ### Ticks and handles -/

theorem allows_eq {s : Fleet ω} {i : Nat} {p : Poller} (hp : s.pollers[i]? = some p)
    (o : Operation) : s.allows i o = o.allowed p.owners := by
  rw [allows, hp, Option.any_some]

variable [FetchSource ω]

theorem does_tick (s : Fleet ω) (i : Nat) :
    s.Does (s.tick i) i (·.tick s.gate.paused s.now) (·.tickFetches s.gate.paused i) := by
  unfold tick
  split
  next hNone => exact .none _ _ hNone
  next p hp =>
    split
    next hPaused =>
      refine (((Does.refl s i).record _).emit p.name .skipped).congr hp ?_ ?_
      · simp [Poller.tick, hPaused]
      · simp [Poller.tickFetches, hPaused]
    next hRunning =>
      refine ⟨?_, ?_, rfl, rfl⟩
      · simp [Poller.tick, hRunning, launch, callFetch, modify, List.modify_modify_eq]
        rfl
      · simp [purposes, launch, callFetch, modify, Poller.tickFetches, hRunning, hp]

theorem does_start (s : Fleet ω) (i : Nat) :
    s.Does (s.start i) i (·.start s.gate.paused s.now) (·.startFetches s.gate.paused i) := by
  unfold start
  split
  next hNone => exact .none _ _ hNone
  next p hp =>
    split
    next hPolling =>
      exact .fixed hp (by simp [Poller.start, hPolling]) (by simp [Poller.startFetches, hPolling])
    next hStopped =>
      -- The three steps of a beginning; the tick is one of the run that has just begun.
      unfold begin
      rw [hp]
      have hBegun : s.Does ((s.modify i Poller.beginRun).log (.pollingStarted p.name p.cadence.idle))
          i Poller.beginRun := (s.does_modify i _).record _
      have hArmed := (hBegun.trans (does_tick _ i)).trans
        (does_modify _ i (·.armTicks s.now p.cadence.idle))
      refine hArmed.congr hp ?_ ?_
      · simp [Poller.start, hStopped]
        rfl
      · simp [Poller.startFetches, hStopped]
        rfl

theorem does_carryOut (s : Fleet ω) (i : Nat) (o : Operation) :
    s.Does (s.carryOut i o) i (·.operate s.gate.paused s.now o)
      (·.operateFetches s.gate.paused i o) := by
  cases o with
  | start => exact s.does_start i
  | stop => exact s.does_stop i
  | enterActive =>
      show s.Does (s.enterActive i) _ _ _
      unfold enterActive
      split
      next hNone => exact .none _ _ hNone
      next p hp =>
        have hOpened := ((s.does_start i).trans (does_modify _ i (·.openWindow s.now))).record
          (.line (.enteredActive p.name p.cadence.active p.cadence.window))
        exact hOpened.congr hp rfl (List.append_nil _)
  | exitActive => exact s.does_exitActive i
  | clone => exact s.does_modify i _
  | guard =>
      have hHeld := (s.does_start i).trans (does_modify _ i fun p =>
        { p with owners := { p.owners with guards := p.owners.guards + 1 } })
      simp only [List.append_nil] at hHeld
      exact hHeld
  | dropMain => exact (s.does_modify i _).trans (does_modify _ i Poller.release)
  | dropClone => exact (s.does_modify i _).trans (does_modify _ i Poller.release)
  | dropGuard =>
      exact ((s.does_stop i).trans (does_modify _ i _)).trans (does_modify _ i Poller.release)

/-- What is done with a handle of a poller is a deed of it. -/
theorem does_operate (s : Fleet ω) (i : Nat) (o : Operation) :
    s.Does (s.operate i o) i (·.perform s.gate.paused s.now (.operate o))
      (·.launches s.gate.paused s.now i (.operate o)) := by
  unfold operate
  cases hp : s.pollers[i]? with
  | none =>
      rw [allows, hp, Option.any_none]
      exact .none _ _ hp
  | some p =>
      rw [allows_eq hp]
      by_cases hAllowed : o.allowed p.owners = true
      · rw [if_pos hAllowed]
        exact (s.does_carryOut i o).congr hp (by simp only [Poller.perform, if_pos hAllowed])
          (by simp only [Poller.launches, if_pos hAllowed])
      · rw [if_neg hAllowed]
        exact .fixed hp (by simp only [Poller.perform, if_neg hAllowed])
          (by simp only [Poller.launches, if_neg hAllowed])

/-- A call out of turn is a deed of the poller. -/
theorem does_ask (s : Fleet ω) (i : Nat) :
    s.Does (s.ask i) i (·.perform s.gate.paused s.now .ask)
      (·.launches s.gate.paused s.now i .ask) := by
  unfold ask
  cases hp : s.pollers[i]? with
  | none =>
      rw [allows, hp, Option.any_none]
      exact .none _ _ hp
  | some p =>
      rw [allows_eq hp]
      by_cases hHeld : Operation.clone.allowed p.owners = true
      · rw [if_pos hHeld]
        have hCalled : s.Does (((s.callFetch i).2).launch .direct (s.callFetch i).1) i
            (·.noteFetch s.now) (fun _ => [.direct]) := by
          refine ⟨rfl, ?_, rfl, rfl⟩
          simp [purposes, launch, callFetch, modify, hp]
        exact hCalled.congr hp (if_pos hHeld).symm
          (if_pos hHeld).symm
      · rw [if_neg hHeld]
        exact .fixed hp (if_neg hHeld) (if_neg hHeld)

/-! ### Timers -/

theorem does_onAlarm (s : Fleet ω) (i : Nat) (a : Alarm) :
    s.Does (s.onAlarm i a) i (·.onAlarm s.gate.paused s.now a)
      (·.alarmFetches s.gate.paused i a) := by
  cases a with
  | tick generation =>
      show s.Does (s.onTick i generation) _ _ _
      unfold onTick
      split
      next hNone => exact .none _ _ hNone
      next p hp =>
        split
        next hMeant =>
          exact (s.does_tick i).congr hp (by simp [Poller.onAlarm, hMeant])
            (by simp [Poller.alarmFetches, hMeant])
        next hOld =>
          exact .fixed hp (by simp [Poller.onAlarm, hOld]) (by simp [Poller.alarmFetches, hOld])
  | expiry generation =>
      show s.Does (s.onExpiry i generation) _ _ _
      unfold onExpiry
      split
      next hNone => exact .none _ _ hNone
      next p hp =>
        split
        next hMeant =>
          have hClosed := ((Does.refl s i).record (.line (.windowElapsed p.name))).trans
            (does_leaveActive _ i)
          exact hClosed.congr hp (by simp [Poller.onAlarm, hMeant]; rfl) rfl
        next hOld => exact .fixed hp (by simp [Poller.onAlarm, hOld]) rfl

/-- What the firing of a timer makes of a poller is what `Poller.ring` says. -/
theorem does_ring (s : Fleet ω) (i k : Nat) :
    s.Does (s.ring i k) i (·.ring s.gate.paused s.now k) (·.ringFetches s.gate.paused s.now i k) := by
  unfold ring
  split
  next hNone => exact .none _ _ hNone
  next p hp =>
    split
    next hNoTimer =>
      exact .fixed hp (by simp [Poller.ring, hNoTimer]) (by simp [Poller.ringFetches, hNoTimer])
    next t ht =>
      split
      next hDue =>
        have hFired := (s.does_modify i fun p =>
          { p with timers := p.timers.afterFiring t s.now }).trans (does_onAlarm _ i t.action)
        refine hFired.congr hp ?_ ?_
        · simp [Poller.ring, ht, hDue]
          rfl
        · simp only [Poller.ringFetches, ht, if_pos hDue, List.nil_append]
          cases t.action <;> rfl
      next hEarly =>
        exact .fixed hp (by simp [Poller.ring, ht, hEarly]) (by simp [Poller.ringFetches, ht, hEarly])

end Fleet

end Lookout.Polling
