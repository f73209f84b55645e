import Mathlib.Algebra.Group.Action.Defs
import Lookout.Proofs.Polling.Load
import Lookout.Proofs.Polling.Manned

set_option autoImplicit false

/-! # A fleet comes to rest

`runTo` does what falls due within a budget. For a fleet in service, whose pollers are manned and
whose callbacks only log, the budget is enough (`atRest_runTo`): in a millisecond no more falls due
than the end of the pause and a tick and an end of a window of each poller, and every piece of work
brings down what is left (`left_step`). So nothing is due once a command is done, and then waiting
for what is due does nothing (`settle_of_atRest`).
-/

namespace Lookout.Polling

open Backoff (Gate Signal)

/-- The callback of a poller does nothing but log the change. -/
def Poller.Plain (p : Poller) : Prop := ∀ x ∈ p.callback.getD [], ∃ server, x = .announce server

theorem Poller.Alike.plain {p q : Poller} (h : p.Alike q) (hp : p.Plain) : q.Plain := by
  rw [Plain, h.callback]
  exact hp

namespace Fleet

variable {ω : Type} {s s' : Fleet ω} {i t : Nat}

/-! ## What is due first -/

/-- When a piece of work is due. -/
def Work.due? (s : Fleet ω) : Work → Option Nat
  | .gate => s.gate.due?
  | .timer i => s.pollers[i]?.bind fun p => p.timers.due?
  | .flight k => s.flights[k]?.map Flight.due

/-- The agenda has all work, each with its time. -/
theorem mem_agenda {due : Nat} {w : Work} : (due, w) ∈ s.agenda ↔ w.due? s = some due := by
  have hTimers : (due, w) ∈ s.pollers.zipIdx.filterMap
      (fun x => x.1.timers.due?.map fun t => (t, Work.timer x.2))
        ↔ ∃ i, w = .timer i ∧ (Work.timer i).due? s = some due := by
    simp only [List.mem_filterMap, Option.map_eq_some_iff, Prod.exists, List.mem_zipIdx_iff_getElem?,
      Prod.mk.injEq, Work.due?, Option.bind_eq_some_iff]
    constructor
    · rintro ⟨p, i, hp, d, hd, rfl, rfl⟩
      exact ⟨i, rfl, p, hp, hd⟩
    · rintro ⟨i, rfl, p, hp, hd⟩
      exact ⟨p, i, hp, due, hd, rfl, rfl⟩
  have hFlights : (due, w) ∈ s.flights.zipIdx.map (fun x => (x.1.due, Work.flight x.2))
      ↔ ∃ k, w = .flight k ∧ (Work.flight k).due? s = some due := by
    simp only [List.mem_map, Prod.exists, List.mem_zipIdx_iff_getElem?, Prod.mk.injEq, Work.due?,
      Option.map_eq_some_iff]
    constructor
    · rintro ⟨f, k, hf, rfl, rfl⟩
      exact ⟨k, rfl, f, hf, rfl⟩
    · rintro ⟨k, rfl, f, hf, rfl⟩
      exact ⟨f, k, hf, rfl, rfl⟩
  show _ ∈ _ ++ s.pollers.zipIdx.filterMap
    (fun x => x.1.timers.due?.map fun t => (t, Work.timer x.2)) ++ _ ↔ _
  rw [List.mem_append, List.mem_append, hTimers]
  refine (or_congr_right hFlights).trans ?_
  cases w with
  | gate => simp [Work.due?]
  | timer i => simp
  | flight k => simp

/-- What comes first on an agenda has the least time, and is the first that has it. -/
theorem earliest_eq_argmin (l : List (Nat × Work)) : earliest l = l.argmin Prod.fst := by
  induction l with
  | nil => rfl
  | cons x rest ih =>
      rw [earliest, List.argmin_cons, ih]
      cases rest.argmin Prod.fst <;> rfl

/-- Nothing falls due before `t` if nothing on the agenda does. -/
theorem notBefore_iff : s.NotBefore t ↔ ∀ x ∈ s.agenda, t ≤ x.1 := by
  constructor
  · rintro h ⟨due, w⟩ hx
    have hDue := mem_agenda.mp hx
    cases w with
    | gate => exact Timers.notBefore_iff.mp h.gate due hDue
    | timer i =>
        obtain ⟨p, hp, hd⟩ := Option.bind_eq_some_iff.mp hDue
        exact Timers.notBefore_iff.mp (h.pollers p (List.mem_of_getElem? hp)) due hd
    | flight k =>
        obtain ⟨f, hf, rfl⟩ := Option.map_eq_some_iff.mp hDue
        exact h.flights f (List.mem_of_getElem? hf)
  · intro h
    refine ⟨Timers.notBefore_iff.mpr fun d hd => h (d, .gate) (mem_agenda.mpr hd),
      fun p hp => Timers.notBefore_iff.mpr fun d hd => ?_, fun f hf => ?_⟩
    · obtain ⟨i, hi⟩ := List.getElem?_of_mem hp
      exact h (d, .timer i) (mem_agenda.mpr (Option.bind_eq_some_iff.mpr ⟨p, hi, hd⟩))
    · obtain ⟨k, hk⟩ := List.getElem?_of_mem hf
      exact h (f.due, .flight k) (mem_agenda.mpr (Option.map_eq_some_iff.mpr ⟨f, hk, rfl⟩))

/-- At rest, everything lies ahead. -/
theorem atRest_iff : s.AtRest ↔ s.NotBefore (s.now + 1) := notBefore_iff.symm

theorem NotBefore.mono {t' : Nat} (h : s.NotBefore t') (hLe : t ≤ t') : s.NotBefore t :=
  notBefore_iff.mpr fun x hx => Nat.le_trans hLe (notBefore_iff.mp h x hx)

theorem AtRest.timely (h : s.AtRest) : s.Timely := (atRest_iff.mp h).mono (Nat.le_succ _)

/-! ## Doing it -/

/-- The gate has the timer of its pause, and each poller those of its mode; callbacks only log. -/
structure Orderly (s : Fleet ω) : Prop where
  gate : s.gate.Sound
  armed : ∀ p ∈ s.pollers, ∃ entered, p.Armed entered
  plain : ∀ p ∈ s.pollers, p.Plain

/-- No more is due than the end of the pause, a tick and an end of a window of each poller, and the
landings. -/
theorem Orderly.load_le (h : s.Orderly) :
    s.load ≤ 3 * s.pollers.length + 1 + s.flights.length := by
  have hSum : (s.pollers.map (·.load s.now)).sum ≤ s.pollers.length * 3 := by
    refine (List.sum_le_card_nsmul _ 3 fun x hx => ?_).trans_eq (by rw [List.length_map, smul_eq_mul])
    obtain ⟨p, hp, rfl⟩ := List.mem_map.mp hx
    obtain ⟨entered, hArmed⟩ := h.armed p hp
    exact hArmed.load_le s.now
  have hGate : s.gate.load s.now ≤ 1 := h.gate.load_le
  rw [load]
  omega

theorem plain_deliver (h : ∀ p ∈ s.pollers, p.Plain) (f : Flight) :
    ∀ p ∈ (s.deliver f).1.pollers, p.Plain := by
  have hEffects : ∀ p ∈ (f.effects.foldl effect s).pollers, p.Plain := by
    rw [(effects_frame f.effects s).1]
    exact h
  have hDoes : ∀ {s₁ s₂ : Fleet ω} {i : Nat} {f : Poller → Poller}, s₁.Does s₂ i f →
      (∀ p : Poller, p.Alike (f p)) → (∀ p ∈ s₁.pollers, p.Plain) → ∀ p ∈ s₂.pollers, p.Plain := by
    intro s₁ s₂ i f hDoes hAlike hPlain q hq
    obtain ⟨j, hj⟩ := List.getElem?_of_mem hq
    rw [hDoes.getElem? j, Option.map_eq_some_iff] at hj
    obtain ⟨p, hp, rfl⟩ := hj
    have hBefore := hPlain p (List.mem_of_getElem? hp)
    split
    next => exact (hAlike p).plain hBefore
    next => exact hBefore
  unfold deliver
  cases f.purpose with
  | direct => exact hEffects
  | tick i run seq =>
      cases f.result with
      | ok status =>
          exact hDoes (does_accept _ i run seq status) (·.alike_accept run seq status) hEffects
      | error text =>
          exact hDoes (does_fail _ i run text)
            (fun p => p.alike_perform true 0 (.fail run text)) hEffects

section Work

variable [FetchSource ω]

/-- A callback that only logs changes nothing but the journal. -/
theorem consult_of_plain (h : ∀ p ∈ s.pollers, p.Plain) (r : Report) :
    ∃ journal, s.consult r = { s with journal := journal } := by
  have hPlain : ∀ x ∈ (s.pollers[r.poller]?.bind Poller.callback).getD [],
      ∃ server, x = .announce server := by
    cases hp : s.pollers[r.poller]? with
    | none => exact nofun
    | some p => exact h p (List.mem_of_getElem? hp)
  unfold consult
  generalize (s.pollers[r.poller]?.bind Poller.callback).getD [] = reactions at hPlain
  induction reactions generalizing s with
  | nil => exact ⟨s.journal, rfl⟩
  | cons x rest ih =>
      obtain ⟨server, rfl⟩ := hPlain x List.mem_cons_self
      obtain ⟨journal, hRest⟩ := ih (s := s.log (.serverChanged server r.previous r.current)) h
        fun y hy => hPlain y (List.mem_cons_of_mem _ hy)
      exact ⟨journal, hRest⟩

/-- So it is no work. -/
theorem eases_consult (h : ∀ p ∈ s.pollers, p.Plain) (r : Report) : s.Eases (s.consult r) := by
  obtain ⟨journal, hConsulted⟩ := consult_of_plain h r
  rw [hConsulted]
  exact ⟨rfl, fun h => ⟨h.gate, h.pollers, h.flights⟩, Nat.le_refl _⟩

theorem eases_land (h : ∀ p ∈ s.pollers, p.Plain) (f : Flight) : s.Eases (s.land f) := by
  have hDelivered := s.eases_deliver f
  have hPlain := plain_deliver h f
  unfold land
  split
  next s₁ hLanded =>
    rw [hLanded] at hDelivered
    exact hDelivered
  next s₁ r hLanded =>
    rw [hLanded] at hDelivered hPlain
    exact (hDelivered.trans (eases_consult hPlain r)).trans (eases_conclude _ r)

/-- The timer of a poller that is due fires. -/
theorem fires_timer (h : s.Orderly) (hTimely : s.Timely) {due : Nat}
    (hd : (Work.timer i).due? s = some due) (hDue : due ≤ s.now) :
    (s.work (.timer i)).Timely ∧ (s.work (.timer i)).load < s.load := by
  obtain ⟨p, hp, hd⟩ := Option.bind_eq_some_iff.mp hd
  obtain ⟨entered, hArmed⟩ := h.armed p (List.mem_of_getElem? hp)
  obtain ⟨x, hx, rfl, hFire⟩ := Timers.fire?_of_due? hd hDue
  let fire (q : Poller) : Poller := { q with timers := p.timers.afterFiring x s.now }
  have hFires : ((fire p).onAlarm s.gate.paused s.now x.action).timers.NotBefore s.now ∧
      ((fire p).onAlarm s.gate.paused s.now x.action).load s.now
          + ((fire p).alarmFetches s.gate.paused i x.action).length < p.load s.now :=
    p.fires s.gate.paused s.now hArmed (hTimely.pollers p (List.mem_of_getElem? hp)) hx hDue i
  have hWork : s.work (.timer i) = (s.modify i fire).onAlarm i x.action := by
    rw [work, hp, Option.bind_some, hFire]
  have hFired : (s.modify i fire).pollers[i]? = some (fire p) := by
    rw [modify, List.getElem?_modify_eq, hp]
    rfl
  have hDoes := (s.does_modify i fire).trans (does_onAlarm (s.modify i fire) i x.action)
  rw [hWork]
  refine ⟨hDoes.timely hTimely (fun q hq => ?_) ?_, ?_⟩
  · obtain rfl := Option.some.inj (hp.symm.trans hq)
    exact hFires.1
  · have hOthers : ∀ f ∈ (s.modify i fire).flights, (s.modify i fire).now ≤ f.due := hTimely.flights
    exact (calls_onAlarm hFired x.action).due hOthers
  · have hLoad : ((s.modify i fire).onAlarm i x.action).load + p.load s.now
        = s.load + ((fire p).onAlarm s.gate.paused s.now x.action).load s.now
          + ((fire p).alarmFetches s.gate.paused i x.action).length := hDoes.load_eq hp
    have hLess := hFires.2
    omega

/-- **Work that is due** leaves nothing overdue, and less that is due. -/
theorem work_due (h : s.Orderly) (hTimely : s.Timely) {w : Work} {due : Nat}
    (hd : w.due? s = some due) (hDue : due ≤ s.now) :
    (s.work w).Timely ∧ (s.work w).load < s.load := by
  cases w with
  | gate =>
      obtain ⟨result, hFire, hAhead, hLess⟩ := h.gate.fires hTimely.gate hd hDue
      have hWork : s.work .gate = s.putGate result := by rw [work, hFire]
      rw [hWork]
      exact ⟨⟨hAhead, hTimely.pollers, hTimely.flights⟩,
        Nat.add_lt_add_right (Nat.add_lt_add_right hLess _) _⟩
  | timer i => exact fires_timer h hTimely hd hDue
  | flight k =>
      obtain ⟨f, hf, rfl⟩ := Option.map_eq_some_iff.mp hd
      let others : Fleet ω := { s with flights := s.flights.eraseIdx k }
      have hWork : s.work (.flight k) = others.land f := by rw [work, hf]
      have hOthers : others.Timely :=
        ⟨hTimely.gate, hTimely.pollers, fun g hg => hTimely.flights g (List.mem_of_mem_eraseIdx hg)⟩
      have hLess : others.load < s.load := by
        have hLength := List.length_eraseIdx_add_one (List.getElem?_eq_some_iff.mp hf).1
        show s.gate.load s.now + (s.pollers.map (·.load s.now)).sum + (s.flights.eraseIdx k).length < _
        rw [load]
        omega
      have hLands := eases_land (s := others) h.plain f
      rw [hWork]
      exact ⟨hLands.timely hOthers, Nat.lt_of_le_of_lt hLands.load hLess⟩

/-! ## Step by step -/

/-- Without a step, nothing falls due by `target`. -/
theorem notBefore_of_step? {target : Nat} (h : step? target s = none) :
    s.NotBefore (target + 1) := by
  refine notBefore_iff.mpr fun x hx => ?_
  rw [step?, earliest_eq_argmin] at h
  split at h
  next hNone => simp [List.argmin_eq_none.mp hNone] at hx
  next due w hFirst =>
    split at h
    next => cases h
    next hLater =>
      calc target + 1 ≤ due := Nat.lt_of_not_le hLater
        _ ≤ x.1 := List.le_of_mem_argmin hx hFirst

/-- A step does what is due first, at its time. -/
theorem exists_of_step? {target : Nat} (hTimely : s.Timely) (h : step? target s = some s') :
    ∃ due w, s.now ≤ due ∧ due ≤ target ∧ w.due? s = some due ∧ s.NotBefore due ∧
      s' = ({ s with now := due } : Fleet ω).work w := by
  rw [step?, earliest_eq_argmin] at h
  split at h
  next => cases h
  next due w hFirst =>
    have hMem := List.argmin_mem hFirst
    have hAhead : s.now ≤ due := notBefore_iff.mp hTimely _ hMem
    split at h
    next hDue =>
      obtain rfl := Option.some.inj h
      refine ⟨due, w, hAhead, hDue, mem_agenda.mp hMem, ?_, ?_⟩
      · exact notBefore_iff.mpr fun x hx => List.le_of_mem_argmin hx hFirst
      · rw [Nat.max_eq_right hAhead]
    next => cases h

/-- What is left to do by `target`: what can fall due in the time until then, and what is due. -/
def left (target : Nat) (s : Fleet ω) : Nat :=
  (target - s.now) * (3 * s.pollers.length + 1) + s.load

/-- **A step** leaves nothing overdue, and less that is left to do. -/
theorem left_step {target : Nat} (h : s.Orderly) (hTimely : s.Timely)
    (hStep : step? target s = some s') : s'.Timely ∧ s'.left target < s.left target := by
  obtain ⟨due, w, hAhead, hDue, hWork, hNotBefore, rfl⟩ := exists_of_step? hTimely hStep
  let later : Fleet ω := { s with now := due }
  have hLater : later.Orderly := ⟨h.gate, h.armed, h.plain⟩
  have hOnTime : later.Timely := ⟨hNotBefore.gate, hNotBefore.pollers, hNotBefore.flights⟩
  have hSame : w.due? later = some due := by
    cases w <;> exact hWork
  obtain ⟨hDone, hLess⟩ := work_due hLater hOnTime hSame (Nat.le_refl due)
  obtain ⟨⟨-, hOthers⟩, hNow⟩ := later.atOnce_work w
  have hSize : (later.work w).pollers.length = s.pollers.length := by
    have hLengths := congrArg List.length hOthers
    rwa [others, others, List.length_map, List.length_map] at hLengths
  have hLeft : later.left target ≤ s.left target := by
    rcases Nat.eq_or_lt_of_le hAhead with hNone | hSome
    · subst hNone
      exact Nat.le_refl _
    · -- What is due then is no more than what can fall due in a millisecond.
      have hBound : later.load ≤ 3 * s.pollers.length + 1 + s.flights.length := hLater.load_le
      have hFlights : s.flights.length ≤ s.load := Nat.le_add_left _ _
      calc (target - due) * (3 * s.pollers.length + 1) + later.load
          ≤ (target - due) * (3 * s.pollers.length + 1) + (3 * s.pollers.length + 1 + s.load) := by
            omega
        _ = (target - due + 1) * (3 * s.pollers.length + 1) + s.load := by
            rw [Nat.succ_mul (target - due)]
            omega
        _ ≤ (target - s.now) * (3 * s.pollers.length + 1) + s.load :=
            Nat.add_le_add_right (Nat.mul_le_mul_right _ (by omega)) _
  refine ⟨hDone, Nat.lt_of_lt_of_le ?_ hLeft⟩
  rw [left, left, hNow, hSize]
  exact Nat.add_lt_add_left hLess _

omit [FetchSource ω] in
/-- **The budget is enough** for all that is left to do. -/
theorem Orderly.left_le (h : s.Orderly) (ms : Nat) : s.left (s.now + ms) ≤ s.budget ms := by
  have hLoad := h.load_le
  have hCount : ∀ l : List Poller, 3 * l.length + 1
      ≤ (l.map fun p => 4 + (p.callback.getD []).length).foldr (· + ·) 1 := by
    intro l
    induction l with
    | nil => exact Nat.le_refl 1
    | cons p rest ih =>
        rw [List.map_cons, List.foldr_cons, List.length_cons]
        omega
  rw [left, budget, Nat.add_sub_cancel_left]
  calc ms * (3 * s.pollers.length + 1) + s.load
      ≤ ms * (3 * s.pollers.length + 1) + (3 * s.pollers.length + 1 + s.flights.length) :=
        Nat.add_le_add_left hLoad _
    _ = (ms + 1) * (3 * s.pollers.length + 1) + s.flights.length := by
        rw [Nat.succ_mul ms]
        omega
    _ ≤ _ := Nat.add_le_add_right
        (Nat.mul_le_mul (by omega) (hCount s.pollers)) _

end Work

end Fleet

/-! ## Fleets in service -/

namespace Fleet

variable {ω : Type} [FetchSource ω] {s s' : Fleet ω}

/-- A fleet in service: new pollers whose callbacks only log were put to work, and nobody has
given up the handles of them. -/
structure InService (s : Fleet ω) : Prop where
  begun : ∃ (s₀ : Scene ω) (delays : List Nat) (past : List (Move ω)), s₀.Fresh ∧
    s₀.fleet.gate = (Gate.make delays).1 ∧ (∀ p ∈ s₀.fleet.pollers, p.Plain) ∧
    s₀.after past = ⟨s, []⟩
  manned : s.Manned

theorem InService.after (h : s.InService) {later : List (Move ω)}
    (hAfter : (Scene.mk s []).after later = ⟨s', []⟩) (hManned : s'.Manned) : s'.InService := by
  obtain ⟨s₀, delays, past, hFresh, hGate, hPlain, hPast⟩ := h.begun
  refine ⟨⟨s₀, delays, later ++ past, hFresh, hGate, hPlain, ?_⟩, hManned⟩
  rw [Scene.after_append, hPast, hAfter]

/-- A poller in service is sound. -/
theorem InService.sound (h : s.InService) {p : Poller} (hp : p ∈ s.pollers) :
    ∃ entered, p.Sound entered := by
  obtain ⟨s₀, delays, past, hFresh, -, -, hPast⟩ := h.begun
  have hFleet : (s₀.after past).fleet = s := by rw [hPast]
  obtain ⟨i, hi⟩ := List.getElem?_of_mem (hFleet ▸ hp)
  exact ⟨_, hFresh.sound past hi (Poller.alive_of_held (h.manned p hp).held)⟩

theorem InService.orderly (h : s.InService) : s.Orderly := by
  have hArmed : ∀ p ∈ s.pollers, ∃ entered, p.Armed entered := fun p hp => by
    obtain ⟨entered, hSound⟩ := h.sound hp
    exact ⟨entered, hSound.armed⟩
  obtain ⟨s₀, delays, past, hFresh, hGate, hPlain, hPast⟩ := h.begun
  have hFleet : (s₀.after past).fleet = s := by rw [hPast]
  refine ⟨?_, hArmed, fun p hp => ?_⟩
  · have hHeeds := (Scene.heeds_after hGate past).1
    rw [hFleet] at hHeeds
    exact hHeeds.sound
  · obtain ⟨i, hi⟩ := List.getElem?_of_mem (hFleet ▸ hp)
    obtain ⟨q, hq, hAlike⟩ := Scene.exists_alike_before past hi
    exact hAlike.plain (hPlain q (List.mem_of_getElem? hq))

theorem InService.step {target : Nat} (h : s.InService) (hNow : s.now ≤ target)
    (hStep : step? target s = some s') : s'.InService ∧ s'.now ≤ target := by
  obtain ⟨⟨⟨later, -, -, hLater⟩, -⟩, hBy⟩ := leads_step hNow hStep
  refine ⟨h.after hLater ?_, hBy⟩
  unfold step? at hStep
  split at hStep
  next => cases hStep
  next due w _ =>
    split at hStep
    next =>
      obtain rfl := Option.some.inj hStep
      have hLate : ({ s with now := max s.now due } : Fleet ω).Manned := h.manned.congr rfl
      exact hLate.work w
    next => cases hStep

/-- **All work that falls due is done.** The budget of a run is enough for a fleet in service of
which nothing is overdue. -/
theorem InService.runTo (h : s.InService) (hTimely : s.Timely) (ms : Nat) :
    (s.runTo (s.now + ms) ms).InService ∧ (s.runTo (s.now + ms) ms).AtRest := by
  have hKeep : ∀ s₁ s₂ : Fleet ω,
      (s₁.InService ∧ s₁.Timely ∧ s₁.now ≤ s.now + ms) → step? (s.now + ms) s₁ = some s₂ →
        (s₂.InService ∧ s₂.Timely ∧ s₂.now ≤ s.now + ms) ∧
          s₂.left (s.now + ms) < s₁.left (s.now + ms) := by
    rintro s₁ s₂ ⟨hService, hOnTime, hBy⟩ hStep
    obtain ⟨hService', hBy'⟩ := hService.step hBy hStep
    obtain ⟨hOnTime', hLess⟩ := left_step hService.orderly hOnTime hStep
    exact ⟨⟨hService', hOnTime', hBy'⟩, hLess⟩
  obtain ⟨-, hDone⟩ := exhaust_ends hKeep (s.budget ms) s ⟨h, hTimely, Nat.le_add_right _ _⟩
    (h.orderly.left_le ms)
  obtain ⟨⟨later, -, -, hLater⟩, -⟩ := s.leads_runTo (Nat.le_add_right s.now ms) ms
  refine ⟨h.after hLater (h.manned.runTo _ ms), atRest_iff.mpr ?_⟩
  have hAhead := notBefore_of_step? hDone
  exact ⟨hAhead.gate, hAhead.pollers, hAhead.flights⟩

/-- A fleet at rest has no work to do now. -/
theorem AtRest.step? (h : s.AtRest) : step? s.now s = none := by
  rw [Fleet.step?]
  split
  next => rfl
  next due w hFirst =>
    rw [earliest_eq_argmin] at hFirst
    exact if_neg (Nat.not_le_of_lt (h _ (List.argmin_mem hFirst)))

theorem AtRest.settle (h : s.AtRest) : s.settle = s := by
  rw [Fleet.settle, Fleet.runTo, exhaust_of_none h.step?]

omit [FetchSource ω] in
/-- What a fetch does on its landing is no work. -/
theorem AtRest.effects (h : s.AtRest) (effects : List Effect) :
    (effects.foldl effect s).AtRest := by
  obtain ⟨hPollers, hFlights, hNow, -⟩ := effects_frame effects s
  have hAhead := atRest_iff.mp h
  have hEases := Polling.eases_hear s.now s.gate (effects.filterMap Effect.signal?)
  rw [← gate_effects] at hEases
  refine atRest_iff.mpr ⟨?_, ?_, ?_⟩
  · rw [hNow]
    exact hEases.keeps (Nat.le_refl _) hAhead.gate
  · rw [hNow, hPollers]
    exact hAhead.pollers
  · rw [hNow, hFlights]
    exact hAhead.flights

/-- **A fetch from outside that takes no time**, waited for at rest, does what it does on its
landing, and nothing else happens. -/
theorem AtRest.await (h : s.AtRest) {f : Fetch} (hf : f.duration = 0) :
    s.await f = f.effects.foldl effect s := by
  obtain ⟨n, hAwait⟩ := exists_await h hf
  have hLands : (s.launch .direct f).work (.flight s.flights.length)
      = f.effects.foldl effect s := by
    have hThere : (s.launch .direct f).flights[s.flights.length]?
        = some ⟨s.now + f.duration, .direct, f.effects, f.result⟩ := by
      rw [launch, List.getElem?_concat_length]
    have hOthers : (s.launch .direct f).flights.eraseIdx s.flights.length = s.flights := by
      rw [launch, List.eraseIdx_append_of_length_le (Nat.le_refl _), Nat.sub_self]
      exact List.append_nil _
    rw [work, hThere]
    dsimp only
    rw [hOthers]
    rfl
  have hNow : (f.effects.foldl effect s).now = s.now := (effects_frame f.effects s).2.2.1
  have hDone := (h.effects f.effects).step?
  rw [hNow] at hDone
  rw [hAwait, hLands, exhaust_of_none hDone, ← hNow]

end Fleet

end Lookout.Polling
