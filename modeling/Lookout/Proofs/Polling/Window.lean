import Lookout.Proofs.Polling.Ticks

set_option autoImplicit false

/-! # The mode of a poller is a function of its history

A `Cue` is something that bears on the mode of a poller: a start, the opening of an active
window, its closing by hand, a stop, a change of status that has been reported to its end.
`Scene.cues` lists those of a run of moves, each with its time. Two functions of such a list
say what the mode is: `started` tells whether the poller polls, and `opened?` when the active
window was opened that nothing but time has ended.

The timer at the end of a window is no cue; it only has to come at its time. `Follows` is the
invariant of a poller that goes by its cues, whether its timers are late or not, and
`mode_of_history` is what it comes to once no timer is left to fire.
-/

namespace Lookout.Polling

/-- Something that bears on the mode of a poller. -/
inductive Cue
  | start
  /-- An active window is opened. -/
  | enter
  /-- The active window is closed by hand. -/
  | exit
  | stop
  /-- A change seen in the run that is going on has been reported to its end. -/
  | change
  deriving Repr, DecidableEq

/-- Cues with the times at which they came, newest first. -/
abbrev Cues := List (Nat × Cue)

namespace Cues

/-- Whether there was a start, or the opening of a window, and no stop since. -/
def started : Cues → Bool
  | [] => false
  | (_, .start) :: _ | (_, .enter) :: _ => true
  | (_, .stop) :: _ => false
  | (_, .exit) :: earlier | (_, .change) :: earlier => started earlier

/-- When the window was opened last, if nothing but starts has come since. -/
def opened? : Cues → Option Nat
  | [] => none
  | (t, .enter) :: _ => some t
  | (_, .start) :: earlier => opened? earlier
  | (_, .exit) :: _ | (_, .stop) :: _ | (_, .change) :: _ => none

theorem opened?_eq_some {h : Cues} {e : Nat} :
    h.opened? = some e ↔ ∃ since earlier, h = since ++ (e, .enter) :: earlier ∧
      ∀ x ∈ since, x.2 = .start := by
  constructor
  · intro hOpened
    -- On the cues: the opening is the newest one, or a start is, which is passed over.
    induction h with
    | nil => cases hOpened
    | cons x earlier ih =>
        obtain ⟨t, c⟩ := x
        cases c with
        | enter =>
            obtain rfl := Option.some.inj hOpened
            exact ⟨[], earlier, rfl, nofun⟩
        | start =>
            obtain ⟨since, rest, rfl, hSince⟩ := ih hOpened
            exact ⟨(t, .start) :: since, rest, rfl, List.forall_mem_cons.mpr ⟨rfl, hSince⟩⟩
        | exit => cases hOpened
        | stop => cases hOpened
        | change => cases hOpened
  · rintro ⟨since, earlier, rfl, hSince⟩
    induction since with
    | nil => rfl
    | cons x since ih =>
        obtain ⟨t, c⟩ := x
        obtain ⟨hStart, hRest⟩ := List.forall_mem_cons.mp hSince
        obtain rfl : c = .start := hStart
        exact ih hRest

/-- A cue by which the poller polls. -/
def Begun (h : Cues) : Prop :=
  ∃ since x earlier, h = since ++ x :: earlier ∧ (x.2 = .start ∨ x.2 = .enter) ∧
    ∀ y ∈ since, y.2 ≠ .stop

theorem Begun.cons {h : Cues} (hBegun : h.Begun) (t : Nat) {c : Cue} (hc : c ≠ .stop) :
    Begun ((t, c) :: h) := by
  obtain ⟨since, x, earlier, rfl, hx, hSince⟩ := hBegun
  exact ⟨(t, c) :: since, x, earlier, rfl, hx, List.forall_mem_cons.mpr ⟨hc, hSince⟩⟩

theorem started_iff {h : Cues} : h.started = true ↔ h.Begun := by
  constructor
  · intro hStarted
    induction h with
    | nil => cases hStarted
    | cons x earlier ih =>
        obtain ⟨t, c⟩ := x
        cases c with
        | start => exact ⟨[], _, earlier, rfl, .inl rfl, nofun⟩
        | enter => exact ⟨[], _, earlier, rfl, .inr rfl, nofun⟩
        | exit => exact (ih hStarted).cons t nofun
        | change => exact (ih hStarted).cons t nofun
        | stop => cases hStarted
  · rintro ⟨since, ⟨t, c⟩, earlier, rfl, hc, hSince⟩
    induction since with
    | nil => rcases hc with rfl | rfl <;> rfl
    | cons y since ih =>
        obtain ⟨t', c'⟩ := y
        obtain ⟨hNotStop, hRest⟩ := List.forall_mem_cons.mp hSince
        cases c' with
        | stop => exact absurd rfl hNotStop
        | start => rfl
        | enter => rfl
        | exit => exact ih hRest
        | change => exact ih hRest

/-- A window is open: nothing but starts has come since it was opened last, and its time is
not up. -/
def Open (h : Cues) (window now : Nat) : Prop :=
  ∃ since e earlier, h = since ++ (e, .enter) :: earlier ∧ (∀ x ∈ since, x.2 = .start) ∧
    now < e + window

end Cues

/-! ## The cues of one poller -/

namespace Poller

variable {p q : Poller} {entered : Option Nat}

/-- The cue that is given by what is done with a handle. An exit is none if the poller is not
active. -/
def operateCue? (p : Poller) : Operation → Option Cue
  | .start | .guard => some .start
  | .enterActive => some .enter
  | .exitActive => if p.mode = .active then some .exit else none
  | .stop | .dropGuard => some .stop
  | .clone | .dropMain | .dropClone => none

/-- The cue that a deed is, if it is one. What cannot be done is none, and neither is the end
of a report from another run. -/
def cue? (p : Poller) : Deed → Option Cue
  | .operate o => if o.allowed p.owners then p.operateCue? o else none
  | .conclude run _ _ => if p.run = run then some .change else none
  | .ask | .ring _ | .accept .. | .fail .. => none

/-- **What a cue makes of the mode**, where the poller is `p` before and `q` after it. -/
inductive Turns (entered : Option Nat) (now : Nat) (p q : Poller) : Option Cue → Prop
  | rests (mode : q.mode = p.mode) : Turns entered now p q none
  | expires (opened : Nat) (window : entered = some opened) (due : opened + p.cadence.window ≤ now)
      (before : p.mode = .active) (mode : q.mode = .idle) : Turns entered now p q none
  | start (mode : q.mode = if p.mode.isPolling then p.mode else .idle) :
      Turns entered now p q (some .start)
  | enter (mode : q.mode = .active) : Turns entered now p q (some .enter)
  | exit (before : p.mode = .active) (mode : q.mode = .idle) : Turns entered now p q (some .exit)
  | stop (mode : q.mode = .stopped) : Turns entered now p q (some .stop)
  | change (mode : q.mode = if p.mode = .active then .idle else p.mode) :
      Turns entered now p q (some .change)

variable (paused : Bool) (now : Nat)

theorem mode_release (p : Poller) : p.release.mode = p.mode := by
  unfold release
  split <;> rfl

theorem mode_start (p : Poller) :
    (p.start paused now).mode = if p.mode.isPolling then p.mode else .idle := by
  unfold start
  split
  next => rfl
  next => exact (still_tick p.beginRun paused now).mode

theorem mode_stop (p : Poller) : p.stop.mode = .stopped := Mode.eq_stopped p.isPolling_stop

theorem mode_conclude (p : Poller) (run : Nat) (current previous : String) :
    (p.conclude now run current previous).mode
      = if p.run = run ∧ p.mode = .active then .idle else p.mode := by
  rw [conclude, mode_release]
  show (if p.run = run ∧ p.mode = .active then _ else _ : Poller).mode = _
  split <;> rfl

/-- What is done with a handle turns the poller as its cue says. -/
theorem turns_operate (entered : Option Nat) (p : Poller) (o : Operation) :
    Turns entered now p (p.operate paused now o) (p.operateCue? o) := by
  cases o with
  | start => exact .start (p.mode_start paused now)
  | guard => exact .start (p.mode_start paused now)
  | enterActive => exact .enter rfl
  | exitActive =>
      rw [operate, exitActive, operateCue?]
      split
      next hActive => exact .exit hActive rfl
      next => exact .rests rfl
  | stop => exact .stop p.mode_stop
  | dropGuard => exact .stop ((mode_release _).trans p.mode_stop)
  | clone => exact .rests rfl
  | dropMain => exact .rests (mode_release _)
  | dropClone => exact .rests (mode_release _)

/-- What a timer that fires makes of the mode. -/
theorem Sound.turns_ring (h : p.Sound entered) (k : Nat) :
    Turns entered now p (p.ring paused now k) none := by
  cases hTicks : p.ticks now (.ring k) with
  | true =>
      obtain ⟨t, -, -, -, hRing⟩ := h.ring_of_ticks paused now hTicks
      rw [hRing]
      exact .rests (still_tick _ paused now).mode
  | false =>
      rcases h.ring_of_not_ticks paused now hTicks with
        hSame | ⟨hActive, ⟨opened, hOpened, hDue⟩, timers, -, hRing⟩
      · rw [hSame]
        exact .rests rfl
      · rw [hRing]
        exact .expires opened hOpened hDue hActive rfl

/-- **Every deed** of a sound poller turns it as its cue says. -/
theorem Sound.turns (h : p.Sound entered) (d : Deed) :
    Turns entered now p (p.perform paused now d) (p.cue? d) := by
  cases d with
  | operate o =>
      rw [Poller.perform, cue?]
      split
      next => exact turns_operate paused now entered p o
      next => exact .rests rfl
  | ask =>
      rw [Poller.perform]
      split <;> exact .rests rfl
  | ring k => exact h.turns_ring paused now k
  | accept run seq status =>
      rw [Poller.perform]
      by_cases hCounts : p.Counts run seq
      · exact .rests (accept_of_counts hCounts status).2.1
      · rw [accept_of_not_counts hCounts]
        exact .rests rfl
  | fail run error =>
      rw [Poller.perform, Poller.fail]
      split <;> exact .rests rfl
  | conclude run current previous =>
      have hMode := p.mode_conclude now run current previous
      rw [Poller.perform, cue?]
      split
      next hRun => exact .change (by simpa [hRun] using hMode)
      next hOther => exact .rests (by simpa [hOther] using hMode)

/-! ## The invariant -/

/-- **A poller goes by its cues**, whether its timers are late or not: it polls if it has been
started; it is active only in the window that they say is open, and leaves that window for
nothing but its end. -/
structure Follows (entered : Option Nat) (now : Nat) (p : Poller) (h : Cues) : Prop where
  polling : p.mode.isPolling = h.started
  active : p.mode = .active → ∃ e, h.opened? = some e
  window : ∀ e, h.opened? = some e → p.mode = .active ∨ e + p.cadence.window ≤ now
  entered : ∀ e, h.opened? = some e → entered = some e

/-- The cues after one that comes now, if one does. -/
def cuesAfter (now : Nat) (c : Option Cue) (h : Cues) : Cues :=
  (c.map fun c => (now, c)).toList ++ h

variable {now' : Nat} {h : Cues}

/-- Time passes. -/
theorem Follows.later (hp : p.Follows entered now h) (hNow : now ≤ now') :
    p.Follows entered now' h where
  polling := hp.polling
  active := hp.active
  window e he := (hp.window e he).imp_right fun hOver => Nat.le_trans hOver hNow
  entered := hp.entered

/-- **One cue**, or none. -/
theorem Follows.turn (hp : p.Follows entered now h) {c : Option Cue}
    (hTurns : Turns entered now p q c) (hCadence : q.cadence = p.cadence) :
    q.Follows (if c = some .enter then some now else entered) now (cuesAfter now c h) := by
  obtain ⟨hPolling, hActive, hWindow, hEntered⟩ := hp
  cases hTurns with
  | rests mode =>
      refine ⟨mode ▸ hPolling, fun hq => hActive (mode ▸ hq), fun e he => ?_, hEntered⟩
      rw [mode, hCadence]
      exact hWindow e he
  | expires opened window due before mode =>
      -- The window that is open is the one whose end has come.
      refine ⟨?_, fun hq => ?_, fun e he => ?_, hEntered⟩
      · calc q.mode.isPolling = p.mode.isPolling := by rw [mode, before]; rfl
          _ = h.started := hPolling
      · rw [mode] at hq
        cases hq
      · obtain rfl := Option.some.inj ((hEntered e he).symm.trans window)
        exact .inr (hCadence ▸ due)
  | start mode =>
      have hSame : p.mode.isPolling = true → q.mode = p.mode := fun hOn => by rw [mode, if_pos hOn]
      refine ⟨?_, fun hq => ?_, fun e he => ?_, hEntered⟩
      · show q.mode.isPolling = true
        rw [mode]
        split
        next hOn => exact hOn
        next => rfl
      · -- A start leaves no poller active that was not.
        by_cases hOn : p.mode.isPolling = true
        · exact hActive (hSame hOn ▸ hq)
        · rw [mode, if_neg hOn] at hq
          cases hq
      · refine (hWindow e he).imp (fun hOpen => ?_) (hCadence ▸ ·)
        rw [hSame (by rw [hOpen]; rfl), hOpen]
  | enter mode =>
      exact ⟨by rw [mode]; rfl, fun _ => ⟨now, rfl⟩, fun _ _ => .inl mode, fun _ he => he⟩
  | exit before mode =>
      refine ⟨?_, fun hq => ?_, nofun, nofun⟩
      · calc q.mode.isPolling = p.mode.isPolling := by rw [mode, before]; rfl
          _ = h.started := hPolling
      · rw [mode] at hq
        cases hq
  | stop mode =>
      refine ⟨by rw [mode]; rfl, fun hq => ?_, nofun, nofun⟩
      rw [mode] at hq
      cases hq
  | change mode =>
      refine ⟨?_, fun hq => ?_, nofun, nofun⟩
      · calc q.mode.isPolling = p.mode.isPolling := by
              rw [mode]
              split
              next hOpen => rw [hOpen]; rfl
              next => rfl
          _ = h.started := hPolling
      · rw [mode] at hq
        split at hq
        next => cases hq
        next hNotOpen => exact absurd hq hNotOpen

/-- A poller becomes active by the opening of a window, and by nothing else. -/
theorem entering_eq (p : Poller) (now : Nat) (entered : Option Nat) (d : Deed) :
    p.entering now entered d = if p.cue? d = some .enter then some now else entered := by
  cases d with
  | operate o =>
      by_cases hAllowed : o.allowed p.owners = true
      · rw [cue?, if_pos hAllowed]
        cases o with
        | enterActive =>
            rw [entering, if_pos hAllowed]
            rfl
        | exitActive =>
            rw [operateCue?]
            split <;> rfl
        | _ => rfl
      · rw [cue?, if_neg hAllowed]
        cases o with
        | enterActive =>
            rw [entering, if_neg hAllowed]
            rfl
        | _ => rfl
  | conclude run current previous =>
      rw [cue?]
      split <;> rfl
  | _ => rfl

/-- **Every deed** keeps a sound poller to its cues. -/
theorem Follows.perform (hp : p.Follows entered now h) (hSound : p.Sound entered) (d : Deed) :
    (p.perform paused now d).Follows (p.entering now entered d) now
      (cuesAfter now (p.cue? d) h) := by
  rw [entering_eq]
  exact hp.turn now (hSound.turns paused now d) (p.alike_perform paused now d).cadence

/-- The mode of a poller that goes by its cues, once none of its timers is due. -/
theorem Follows.mode_iff (hFollows : p.Follows entered now h) (hSound : p.Sound entered)
    (hSettled : ∀ t ∈ p.timers.live, now < t.deadline) :
    (p.mode = .active ↔ h.Open p.cadence.window now) ∧
      (p.mode = .idle ↔ h.Begun ∧ ¬ h.Open p.cadence.window now) ∧
      (p.mode = .stopped ↔ ¬ h.Begun) := by
  obtain ⟨hPolling, hActive, hWindow, hEntered⟩ := hFollows
  have hOpen : p.mode = .active ↔ h.Open p.cadence.window now := by
    constructor
    · intro hMode
      obtain ⟨e, he⟩ := hActive hMode
      obtain ⟨since, earlier, hSplit, hSince⟩ := Cues.opened?_eq_some.mp he
      refine ⟨since, e, earlier, hSplit, hSince, ?_⟩
      -- The timer at the end of the window that is open is live, and it is not due yet.
      cases hSound.armed with
      | stopped mode => cases mode.symm.trans hMode
      | idle handle deadline mode => cases mode.symm.trans hMode
      | active opened handle deadline handle' mode window live tick expiry apart =>
          obtain rfl := Option.some.inj ((hEntered e he).symm.trans window)
          refine hSettled ⟨handle', e + p.cadence.window, none, .expiry p.expiryGeneration⟩ ?_
          rw [live]
          exact List.mem_cons_of_mem _ List.mem_cons_self
    · rintro ⟨since, e, earlier, hSplit, hSince, hNow⟩
      have he : h.opened? = some e := Cues.opened?_eq_some.mpr ⟨since, earlier, hSplit, hSince⟩
      exact (hWindow e he).resolve_right (by omega)
  have hBegun : p.mode.isPolling = true ↔ h.Begun := by rw [hPolling, Cues.started_iff]
  rw [← hOpen, ← hBegun]
  cases p.mode <;> simp [Mode.isPolling]

end Poller

/-! ## Every run -/

namespace Scene

variable {ω : Type}

/-- The cue that a move is to poller `i`. -/
def cue? (s : Scene ω) (i : Nat) (m : Move ω) : Option Cue :=
  match s.deed? m with
  | none => none
  | some (j, d) => if j = i then s.fleet.pollers[i]?.bind (·.cue? d) else none

variable [FetchSource ω]

/-- The cues of poller `i` in a run of moves, newest first. -/
def cues (s₀ : Scene ω) (i : Nat) : List (Move ω) → Cues
  | [] => []
  | m :: past =>
    Poller.cuesAfter (s₀.after past).fleet.now ((s₀.after past).cue? i m) (s₀.cues i past)

/-- A poller that exists goes by its cues, whatever has happened. -/
theorem Fresh.follows {s₀ : Scene ω} (h : s₀.Fresh) (past : List (Move ω)) {i : Nat} {p : Poller}
    (hp : (s₀.after past).fleet.pollers[i]? = some p) (hAlive : p.alive = true) :
    p.Follows (s₀.entered i past) (s₀.after past).fleet.now (s₀.cues i past) := by
  induction past generalizing p with
  | nil =>
      obtain ⟨name, cadence, callback, rfl⟩ := h.pollers p (List.mem_of_getElem? hp)
      exact ⟨rfl, nofun, nofun, nofun⟩
  | cons m past ih =>
      obtain ⟨q, hq, rfl⟩ := exists_of_move hp
      have hBefore := alive_of_turn hAlive
      have hFollows := ih hq hBefore
      rw [entered_cons s₀ m past hq, cues, cue?, after, now_move]
      refine Poller.Follows.later _ ?_ (Nat.le_add_right _ _)
      cases hDeed : (s₀.after past).deed? m with
      | none =>
          rw [turn_of_none hDeed]
          exact hFollows
      | some x =>
          obtain ⟨j, d⟩ := x
          by_cases hj : j = i
          · subst hj
            rw [turn_of_deed hDeed]
            simp only [if_true, hq, Option.bind_some]
            exact hFollows.perform _ _ (h.sound past hq hBefore) d
          · rw [turn_of_other hDeed hj]
            simp only [if_neg hj]
            exact hFollows

/-- The end of a report closes the window of its run. -/
theorem mode_conclude {s : Scene ω} {i k : Nat} {p : Poller} {r : Report}
    (hp : s.fleet.pollers[i]? = some p) (hr : s.reports[k]? = some r) (hi : r.poller = i)
    (hRun : r.run = p.run) (hBegan : p.Began r.run) : (s.move (.conclude k)).mode i = .idle := by
  subst hi
  have hDeed : s.deed? (.conclude k)
      = some (r.poller, .conclude r.run r.current r.previous) := by rw [deed?, hr]; rfl
  have hPolling := hBegan.polling hRun
  rw [mode_of_getElem? (getElem?_move s _ _ |>.trans (congrArg _ hp)), turn_of_deed hDeed,
    Poller.perform, Poller.mode_conclude]
  cases hMode : p.mode with
  | stopped => rw [hMode] at hPolling; cases hPolling
  | idle => simp
  | active => simp [hRun]

/-- **The mode is what the history says.** Whatever has happened to a poller, in whatever
order and however late its timers were: once none of its timers is due, it is active exactly
if a window is open, that is, if nothing but starts has come since it was last made active,
at `e`, and the window from `e` on is not over; it is idle if it was started and not stopped
since, and no window is open; and it is stopped otherwise. At any time, due timers or not,
the end of a report of a change that was seen in the run going on leaves the poller idle,
even if the callback has made it active. -/
theorem mode_of_history {s₀ : Scene ω} (hFresh : s₀.Fresh) (past : List (Move ω)) {i : Nat}
    {p : Poller} (hp : (s₀.after past).fleet.pollers[i]? = some p) (hAlive : p.alive = true) :
    let s := s₀.after past
    let h := s₀.cues i past
    let now := s.fleet.now
    ((∀ t ∈ p.timers.live, now < t.deadline) →
      (p.mode = .active ↔ h.Open p.cadence.window now) ∧
      (p.mode = .idle ↔ h.Begun ∧ ¬ h.Open p.cadence.window now) ∧
      (p.mode = .stopped ↔ ¬ h.Begun)) ∧
    ∀ k r, s.reports[k]? = some r → r.poller = i → r.run = p.run →
      (s.move (.conclude k)).mode i = .idle := by
  refine ⟨(hFresh.follows past hp hAlive).mode_iff _ (hFresh.sound past hp hAlive),
    fun k r hr hi hRun => mode_conclude hp hr hi hRun ?_⟩
  exact (hFresh.marked past hp).reports r (List.mem_of_getElem? hr) hi

/-- A poller that its callback makes active again, in a window of its own, and that is idle
once the callback is done. -/
theorem mode_of_history_reentrant :
    ∃ p, (lone.after reentrant).fleet.pollers[0]? = some p ∧ p.mode = .active ∧
      ((lone.after reentrant).move (.conclude 0)).mode 0 = .idle := by
  obtain ⟨p, hp, hAlive, hWindow, hSettled, r, hr, hi, hRun⟩ :
      ∃ p, (lone.after reentrant).fleet.pollers[0]? = some p ∧ p.alive = true ∧
        p.cadence.window = 30000 ∧
        (∀ t ∈ p.timers.live, (lone.after reentrant).fleet.now < t.deadline) ∧
        ∃ r, (lone.after reentrant).reports[0]? = some r ∧ r.poller = 0 ∧ r.run = p.run :=
    ⟨_, rfl, rfl, rfl, by decide, _, rfl, rfl, rfl⟩
  obtain ⟨hModes, hConclude⟩ := mode_of_history lone_fresh reentrant hp hAlive
  refine ⟨p, hp, (hModes hSettled).1.mpr ?_, hConclude 0 r hr hi hRun⟩
  rw [hWindow]
  exact ⟨[], 12000, [(0, .start)], by decide, nofun, by decide⟩

end Scene

end Lookout.Polling
