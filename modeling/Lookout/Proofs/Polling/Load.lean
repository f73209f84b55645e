import Lookout.Proofs.Polling.Parts
import Lookout.Proofs.Polling.Armed
import Lookout.Proofs.Timer.Due

set_option autoImplicit false

/-! # How much work is due

The work that is due of a fleet is finite, and doing it makes it less. A tick that is due is two
pieces of work, since the fetch that it starts has to land; the end of a window is one, and so are
the end of the pause and the landing of a fetch that is in flight. `Fleet.load` adds them up.

Whatever else is done leaves nothing overdue and the load as it is, or less (`Fleet.Eases`): all
periods, windows and delays are positive, so what is armed anew is armed for later.
-/

namespace Lookout

/-! ## The gate -/

namespace Backoff.Gate

variable {g : Gate} {now : Nat}

/-- The resume timer fires once. -/
theorem Sound.steady (hg : g.Sound) : g.timers.Steady := by
  intro x hx p hp
  cases hg with
  | running _ _ live => simp [live] at hx
  | paused t h _ _ live =>
      rw [live, List.mem_singleton] at hx
      subst hx
      cases hp

/-- A pause that begins ends later. -/
theorem eases_tell (g : Gate) (now : Nat) (x : Signal) :
    g.timers.Eases now (g.tell now x).1.timers := by
  cases x with
  | trigger =>
      have hAhead := Nat.lt_add_of_pos_right (n := now) (g.delays.delay_pos g.level)
      exact (Timers.eases_cancel? _ _).trans (Timers.eases_add _ hAhead _ _)
  | reset =>
      show g.timers.Eases now g.reset.1.timers
      rw [reset_eq]
      exact .refl _
  | forceResume => exact Timers.eases_cancel? _ _

theorem eases_autoResume (g : Gate) (now generation : Nat) :
    g.timers.Eases now (g.autoResume generation).1.timers := by
  unfold autoResume
  split
  next => exact Timers.eases_cancel? _ _
  next => exact .refl _

/-- What is due of the gate: the end of the pause. -/
def load (g : Gate) (now : Nat) : Nat := g.timers.weight (fun _ => 1) now

theorem Sound.load_le (hg : g.Sound) : g.load now ≤ 1 := by
  refine Nat.le_trans (Timers.weight_le_live _) ?_
  cases hg with
  | running _ _ live => simp [live]
  | paused t h _ _ live => simp [live]

/-- The end of the pause that is due is not due any more when it has come. -/
theorem Sound.fires (hg : g.Sound) (hTimely : g.timers.NotBefore now) {d : Nat}
    (hd : g.due? = some d) (hDue : d ≤ now) :
    ∃ result, g.fire? now = some result ∧ result.1.timers.NotBefore now ∧
      result.1.load now < g.load now := by
  obtain ⟨x, hx, rfl, hFire⟩ := Timers.fire?_of_due? hd hDue
  let fired : Gate := { g with timers := g.timers.afterFiring x now }
  have hDone := fired.eases_autoResume now x.action
  refine ⟨fired.autoResume x.action, ?_, ?_, ?_⟩
  · rw [fire?, hFire]
    rfl
  · exact ((Timers.eases_afterFiring hTimely hg.steady x).trans hDone).notBefore hTimely
  · calc (fired.autoResume x.action).1.load now
        ≤ fired.load now := hDone.weight_le _
      _ < g.load now := Timers.weight_afterFiring hTimely hg.steady hx hDue fun _ => 1

end Backoff.Gate

namespace Polling

open Backoff (Signal)

/-- A gate that is told signals. -/
theorem eases_hear (now : Nat) (g : Backoff.Gate) (signals : List Signal) :
    g.timers.Eases now (hear now g signals).timers := by
  induction signals generalizing g with
  | nil => exact .refl _
  | cons x rest ih => exact (g.eases_tell now x).trans (ih _)

/-! ## One poller -/

/-- How many pieces of work the firing of a timer is: that of a tick, and the landing of its fetch;
or the end of a window. -/
def Alarm.cost : Alarm → Nat
  | .tick _ => 2
  | .expiry _ => 1

namespace Poller

variable (p : Poller) (paused : Bool) (now : Nat)

/-- What is due of a poller's timers. -/
def load : Nat := p.timers.weight Alarm.cost now

variable {p}

theorem Armed.steady {entered : Option Nat} (h : p.Armed entered) : p.timers.Steady := by
  intro x hx period hPeriod
  cases h with
  | stopped _ live => simp [live] at hx
  | idle handle deadline _ live =>
      rw [live, List.mem_singleton] at hx
      subst hx
      obtain rfl := Option.some.inj hPeriod
      exact p.cadence.idle_pos
  | active opened handle deadline handle' _ _ live =>
      rw [live, List.mem_cons, List.mem_singleton] at hx
      rcases hx with rfl | rfl
      · obtain rfl := Option.some.inj hPeriod
        exact p.cadence.active_pos
      · cases hPeriod

theorem Armed.load_le {entered : Option Nat} (h : p.Armed entered) : p.load now ≤ 3 := by
  refine Nat.le_trans (Timers.weight_le_live _) ?_
  cases h with
  | stopped _ live => simp [live]
  | idle handle deadline _ live => simp [live, Alarm.cost]
  | active opened handle deadline handle' _ _ live => simp [live, Alarm.cost]

variable (p)

theorem eases_armTicks {period : Nat} (h : 0 < period) :
    p.timers.Eases now (p.armTicks now period).timers :=
  (Timers.eases_cancel? _ _).trans (Timers.eases_add _ (Nat.lt_add_of_pos_right h) _ _)

theorem eases_armExpiry : p.timers.Eases now (p.armExpiry now).timers :=
  (Timers.eases_cancel? _ _).trans
    (Timers.eases_add _ (Nat.lt_add_of_pos_right p.cadence.window_pos) _ _)

theorem eases_closeWindow : p.timers.Eases now (p.closeWindow now).timers :=
  (Timers.eases_cancel? _ _).trans
    ((p.disarmExpiry.setMode .idle).eases_armTicks now p.cadence.idle_pos)

theorem eases_openWindow : p.timers.Eases now (p.openWindow now).timers :=
  ((p.setMode .active).eases_armTicks now p.cadence.active_pos).trans
    (eases_armExpiry _ now)

theorem eases_release : p.timers.Eases now p.release.timers := by
  unfold release
  split
  next => exact .refl _
  next => exact Timers.eases_clear _

theorem eases_tick : p.timers.Eases now (p.tick paused now).timers := by
  rw [(p.still_tick paused now).timers]
  exact .refl _

theorem eases_start : p.timers.Eases now (p.start paused now).timers := by
  unfold start
  split
  next => exact .refl _
  next =>
    exact (p.beginRun.eases_tick paused now).trans (eases_armTicks _ now p.cadence.idle_pos)

theorem eases_stop : p.timers.Eases now p.stop.timers := by
  unfold stop
  split
  next => exact (Timers.eases_cancel? _ _).trans (Timers.eases_cancel? _ _)
  next => exact .refl _

/-- What is done with a handle. -/
theorem eases_operate (o : Operation) :
    p.timers.Eases now (p.operate paused now o).timers := by
  cases o with
  | start => exact p.eases_start paused now
  | stop => exact p.eases_stop now
  | enterActive => exact (p.eases_start paused now).trans (eases_openWindow _ now)
  | exitActive =>
      show p.timers.Eases now (p.exitActive now).timers
      unfold exitActive
      split
      next => exact p.eases_closeWindow now
      next => exact .refl _
  | clone => exact .refl _
  | guard => exact p.eases_start paused now
  | dropMain => exact eases_release _ now
  | dropClone => exact eases_release _ now
  | dropGuard => exact (p.eases_stop now).trans (eases_release _ now)

theorem eases_onAlarm (a : Alarm) : p.timers.Eases now (p.onAlarm paused now a).timers := by
  cases a with
  | tick generation =>
      rw [onAlarm]
      split
      next => exact p.eases_tick paused now
      next => exact .refl _
  | expiry generation =>
      rw [onAlarm]
      split
      next => exact p.eases_closeWindow now
      next => exact .refl _

/-- A fetch that has succeeded concerns no timer. -/
theorem timers_accept (run seq : Nat) (status : Option String) :
    (p.accept run seq status).timers = p.timers := by
  unfold accept
  split
  next => rfl
  next =>
    split
    next => rfl
    next => cases p.change? status <;> rfl

theorem timers_fail (run : Nat) (error : String) : (p.fail run error).timers = p.timers := by
  unfold fail
  split <;> rfl

theorem eases_conclude (run : Nat) (current previous : String) :
    p.timers.Eases now (p.conclude now run current previous).timers := by
  refine Timers.Eases.trans ?_ (eases_release _ now)
  show p.timers.Eases now (ite _ _ _ : Poller).timers
  split
  next => exact (p.publish (.statusChanged current previous)).eases_closeWindow now
  next => exact .refl _

/-- **A timer that is due fires**: what it starts and what is due afterwards is less than what was
due before. -/
theorem fires {entered : Option Nat} (h : p.Armed entered) (hTimely : p.timers.NotBefore now)
    {x : Timer Alarm} (hx : x ∈ p.timers.live) (hDue : x.deadline ≤ now) (i : Nat) :
    let fired : Poller := { p with timers := p.timers.afterFiring x now }
    (fired.onAlarm paused now x.action).timers.NotBefore now ∧
      (fired.onAlarm paused now x.action).load now + (fired.alarmFetches paused i x.action).length
        < p.load now := by
  intro fired
  have hDone := fired.eases_onAlarm paused now x.action
  refine ⟨((Timers.eases_afterFiring hTimely h.steady x).trans hDone).notBefore hTimely, ?_⟩
  have hFetches : (fired.alarmFetches paused i x.action).length < x.action.cost := by
    cases x.action with
    | tick generation =>
        rw [alarmFetches, tickFetches, Alarm.cost]
        split
        next => cases paused <;> simp
        next => exact Nat.zero_lt_two
    | expiry generation => exact Nat.one_pos
  calc (fired.onAlarm paused now x.action).load now
          + (fired.alarmFetches paused i x.action).length
      ≤ fired.load now + (fired.alarmFetches paused i x.action).length :=
        Nat.add_le_add_right (hDone.weight_le _) _
    _ < fired.load now + x.action.cost := Nat.add_lt_add_left hFetches _
    _ ≤ p.load now := Timers.weight_afterFiring hTimely h.steady hx hDue _

end Poller

/-! ## A fleet -/

/-- A sum in which one term is replaced. -/
theorem sum_modify {α : Type} {l : List α} {i : Nat} {a : α} (h : l[i]? = some a) (f : α → α)
    (w : α → Nat) : ((l.modify i f).map w).sum + w a = (l.map w).sum + w (f a) := by
  induction l generalizing i with
  | nil => cases h
  | cons b rest ih =>
      cases i with
      | zero =>
          obtain rfl := Option.some.inj h
          rw [List.modify_zero_cons, List.map_cons, List.map_cons, List.sum_cons, List.sum_cons]
          omega
      | succ i =>
          have hRest := ih h
          rw [List.modify_succ_cons, List.map_cons, List.map_cons, List.sum_cons, List.sum_cons]
          omega

namespace Fleet

variable {ω : Type} {s s₁ s' : Fleet ω} {i : Nat}

/-- Nothing of a fleet falls due before `t`. -/
structure NotBefore (t : Nat) (s : Fleet ω) : Prop where
  gate : s.gate.timers.NotBefore t
  pollers : ∀ p ∈ s.pollers, p.timers.NotBefore t
  flights : ∀ f ∈ s.flights, t ≤ f.due

/-- Nothing is overdue. -/
def Timely (s : Fleet ω) : Prop := s.NotBefore s.now

/-- How much work is due, the landings of all fetches in flight included. -/
def load (s : Fleet ω) : Nat :=
  s.gate.load s.now + (s.pollers.map (·.load s.now)).sum + s.flights.length

/-- From `s` to `s'` no time passes, nothing becomes overdue, and no more is due than before. -/
structure Eases (s s' : Fleet ω) : Prop where
  now : s'.now = s.now
  timely : s.Timely → s'.Timely
  load : s'.load ≤ s.load

theorem Eases.refl (s : Fleet ω) : s.Eases s := ⟨rfl, id, Nat.le_refl _⟩

theorem Eases.trans (h : s.Eases s₁) (h' : s₁.Eases s') : s.Eases s' :=
  ⟨h'.now.trans h.now, h'.timely ∘ h.timely, Nat.le_trans h'.load h.load⟩

/-- What goes into the journal is no work. -/
theorem eases_record (s : Fleet ω) (e : Journal.Entry) : s.Eases (s.record e) :=
  ⟨rfl, fun h => ⟨h.gate, h.pollers, h.flights⟩, Nat.le_refl _⟩

/-- Signals are told to the gate. -/
theorem eases_hear {signals : List Signal} (hNow : s'.now = s.now)
    (hGate : s'.gate = hear s.now s.gate signals) (hPollers : s'.pollers = s.pollers)
    (hFlights : s'.flights = s.flights) : s.Eases s' := by
  have hEases := Polling.eases_hear s.now s.gate signals
  rw [← hGate] at hEases
  refine ⟨hNow, fun h => ⟨?_, ?_, ?_⟩, ?_⟩
  · rw [hNow]
    exact hEases.notBefore h.gate
  · rw [hNow, hPollers]
    exact h.pollers
  · rw [hNow, hFlights]
    exact h.flights
  · have hLess := hEases.weight_le fun _ => 1
    rw [load, load, hNow, hPollers, hFlights]
    exact Nat.add_le_add_right (Nat.add_le_add_right hLess _) _

/-- What is done to one poller leaves nothing overdue, if it leaves nothing of that poller so, and
the fetches that take off are due later. -/
theorem Does.timely {f : Poller → Poller} {g : Poller → List Purpose} (h : s.Does s' i f g)
    (hTimely : s.Timely)
    (hf : ∀ p, s.pollers[i]? = some p → (f p).timers.NotBefore s.now)
    (hFlights : ∀ x ∈ s'.flights, s.now ≤ x.due) : s'.Timely := by
  refine ⟨?_, fun q hq => ?_, ?_⟩
  · rw [h.now, h.gate]
    exact hTimely.gate
  · rw [h.now]
    obtain ⟨j, hj⟩ := List.getElem?_of_mem hq
    rw [h.getElem? j, Option.map_eq_some_iff] at hj
    obtain ⟨p, hp, rfl⟩ := hj
    split
    next hSame =>
      subst hSame
      exact hf p hp
    next => exact hTimely.pollers p (List.mem_of_getElem? hp)
  · rw [h.now]
    exact hFlights

/-- What the load is after something is done to one poller. -/
theorem Does.load_eq {f : Poller → Poller} {g : Poller → List Purpose} (h : s.Does s' i f g)
    {p : Poller} (hp : s.pollers[i]? = some p) :
    s'.load + p.load s.now = s.load + (f p).load s.now + (g p).length := by
  have hSum := sum_modify hp f (·.load s.now)
  have hFlights := congrArg List.length h.flights
  rw [List.length_append, purposes, purposes, List.length_map, List.length_map, hp,
    Option.map_some, Option.getD_some] at hFlights
  rw [load, load, h.now, h.gate, h.pollers, hFlights]
  omega

/-- What is done to one poller, while no fetch takes off. -/
theorem Does.eases {f : Poller → Poller} (h : s.Does s' i f) (hFlights : s'.flights = s.flights)
    (hf : ∀ p : Poller, p.timers.Eases s.now (f p).timers) : s.Eases s' := by
  refine ⟨h.now, fun hTimely => ?_, ?_⟩
  · refine h.timely hTimely (fun p hp => ?_) (hFlights ▸ hTimely.flights)
    exact (hf p).notBefore (hTimely.pollers p (List.mem_of_getElem? hp))
  · cases hp : s.pollers[i]? with
    | none =>
        have hSame : s'.load = s.load := by
          rw [load, load, h.now, h.gate, h.pollers, modify_of_none hp, hFlights]
        exact Nat.le_of_eq hSame
    | some p =>
        have hLoad := h.load_eq hp
        have hLess : (f p).load s.now ≤ p.load s.now := (hf p).weight_le _
        rw [List.length_nil] at hLoad
        omega

/-! ### What a fleet does -/

/-- A fetch lands, and its result is handed over. -/
theorem eases_deliver (s : Fleet ω) (f : Flight) : s.Eases (s.deliver f).1 := by
  obtain ⟨hPollers, hFlights, hNow, -⟩ := effects_frame f.effects s
  have hEffects := eases_hear hNow (gate_effects f.effects s) hPollers hFlights
  unfold deliver
  cases f.purpose with
  | direct => exact hEffects
  | tick i run seq =>
      cases f.result with
      | ok status =>
          refine hEffects.trans ((does_accept _ i run seq status).eases
            (flights_accept _ i run seq status) fun p => ?_)
          rw [p.timers_accept]
          exact .refl _
      | error text =>
          refine hEffects.trans ((does_fail _ i run text).eases (flights_fail _ i run text)
            fun p => ?_)
          rw [p.timers_fail]
          exact .refl _

variable [FetchSource ω]

/-- A fetch that takes off lands now or later. -/
theorem Calls.due {l : List Purpose} (h : s.Calls s' i l) (hAhead : ∀ f ∈ s.flights, s.now ≤ f.due) :
    ∀ f ∈ s'.flights, s.now ≤ f.due := by
  intro f hf
  cases h with
  | none _ flights =>
      rw [flights] at hf
      exact hAhead f hf
  | once purpose _ flights =>
      rw [flights, List.mem_append, List.mem_singleton] at hf
      rcases hf with hf | rfl
      · exact hAhead f hf
      · exact Nat.le_add_right _ _

/-- The callback is done with a change. -/
theorem eases_conclude (s : Fleet ω) (r : Report) : s.Eases (s.conclude r) := by
  refine (s.does_conclude r).eases ?_ fun p => p.eases_conclude s.now _ _ _
  cases s.calls_conclude r with
  | none _ flights => exact flights

end Fleet

end Polling

end Lookout
