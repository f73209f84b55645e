import Lookout.Proofs.Backoff.History

set_option autoImplicit false

/-! # What observers of the gate see

The gate shows its state in two places: on its board, to those who watch it, and in the
gauges. Neither is read off the gate when somebody looks. Each operation has to publish, and
it has to do so after its last change. `Gate.Announces` says that an operation does: it ends
with its state in both places, or it has changed nothing that is shown.

`Event` is what can happen to a gate on a clock, one thing at a time, in any order and at any
time; the callback of a resume timer may run long after that timer was replaced. What
observers see is up to date after each of them (`Clocked.InView`, kept by `InView.meet`), and
a session is made of such events (`Clocked.exists_events`). `observers_up_to_date` is what
this comes to for a whole run of a new gate.
-/

namespace Lookout

/-! ## The views of the journal -/

/-- The gauges show what was set last. -/
theorem Journal.gauges?_append (newer older : List Journal.Entry) :
    Journal.gauges? (newer ++ older) = (Journal.gauges? newer).or (Journal.gauges? older) := by
  rw [gauges?, List.filterMap_append, List.head?_append]
  rfl

namespace Backoff

open Journal (Entry)

/-! ## One operation -/

namespace Gate

/-- **An operation ends with its state in both places**, or what is shown has not changed and
nothing is reported. -/
inductive Announces (g : Gate) (result : Gate × List Entry) : Prop
  | quiet (snapshot : result.1.snapshot = g.snapshot) (board : result.1.board = g.board)
      (entries : result.2 = [])
  | shown (board : result.1.board = g.board.publish result.1.snapshot)
      (gauges : Journal.gauges? result.2 = some (result.1.level, result.1.paused))

/-- After such an operation the board shows the snapshot, as it did before. -/
theorem Announces.value {g : Gate} {result : Gate × List Entry} (h : g.Announces result)
    (hShown : g.board.value = g.snapshot) : result.1.board.value = result.1.snapshot := by
  cases h with
  | quiet hSnapshot hBoard => rw [hBoard, hSnapshot, hShown]
  | shown hBoard => rw [hBoard, Watch.value_publish]

variable (g : Gate)

theorem announces_trigger (now : Nat) : g.Announces (g.trigger now) := .shown rfl rfl

theorem announces_reset : g.Announces g.reset := by
  unfold reset
  split
  · exact .shown rfl rfl
  · exact .quiet rfl rfl rfl

theorem announces_forceResume : g.Announces g.forceResume := .shown rfl rfl

theorem announces_autoResume (generation : Nat) : g.Announces (g.autoResume generation) := by
  unfold autoResume
  split
  · exact .shown rfl rfl
  · exact .quiet rfl rfl rfl

theorem announces_tell (now : Nat) (s : Signal) : g.Announces (g.tell now s) := by
  cases s with
  | trigger => exact g.announces_trigger now
  | reset => exact g.announces_reset
  | forceResume => exact g.announces_forceResume

/-- Nobody sees the table of timers, so a timer that fires shows what its callback shows. -/
theorem announces_fire? {now : Nat} {result : Gate × List Entry}
    (h : g.fire? now = some result) : g.Announces result := by
  obtain ⟨⟨generation, timers⟩, -, rfl⟩ := Option.map_eq_some_iff.mp h
  cases announces_autoResume { g with timers := timers } generation with
  | quiet hSnapshot hBoard hEntries => exact .quiet hSnapshot hBoard hEntries
  | shown hBoard hGauges => exact .shown hBoard hGauges

/-- The callback of a resume timer bumps nothing. -/
theorem counters_autoResume (generation : Nat) :
    (g.autoResume generation).2.filterMap Entry.counter? = [] := by
  unfold autoResume
  split <;> rfl

theorem counters_fire? {now : Nat} {result : Gate × List Entry} (h : g.fire? now = some result) :
    result.2.filterMap Entry.counter? = [] := by
  obtain ⟨⟨generation, timers⟩, -, rfl⟩ := Option.map_eq_some_iff.mp h
  exact counters_autoResume _ generation

/-- An overload signal is counted, and nothing else that a gate is told. -/
theorem counters_tell (now : Nat) (s : Signal) :
    (g.tell now s).2.filterMap Entry.counter? = if s = .trigger then [.trigger] else [] := by
  cases s with
  | trigger => rfl
  | reset =>
      show g.reset.2.filterMap Entry.counter? = []
      unfold reset
      split <;> rfl
  | forceResume => rfl

end Gate

/-! ## One event -/

/-- What can happen to a gate on a clock, one thing at a time. -/
inductive Event
  | signal (s : Signal)
  /-- Time passes. -/
  | pass (ms : Nat)
  /-- The next timer fires, if it is due. -/
  | fire
  /-- The callback of a timer made in a generation runs, whether or not that timer is live. -/
  | ring (generation : Nat)
  deriving Repr, DecidableEq

namespace Clocked

/-- The state after an event. -/
def meet (c : Clocked) : Event → Clocked
  | .signal s => c.put (c.gate.tell c.now s)
  | .pass ms => { c with now := c.now + ms }
  | .fire => ((c.gate.fire? c.now).map c.put).getD c
  | .ring generation => c.put (c.gate.autoResume generation)

/-- An event is an operation of the gate that announces its result, and it is counted if it is
an overload signal. -/
theorem meet_cases (c : Clocked) (e : Event) :
    ∃ now result, c.meet e = { c.put result with now := now } ∧ c.gate.Announces result ∧
      result.2.filterMap Entry.counter? = if e = .signal .trigger then [.trigger] else [] := by
  cases e with
  | signal s =>
      refine ⟨c.now, _, rfl, c.gate.announces_tell c.now s, ?_⟩
      rw [c.gate.counters_tell]
      simp
  | pass ms => exact ⟨c.now + ms, (c.gate, []), rfl, .quiet rfl rfl rfl, rfl⟩
  | fire =>
      rw [meet]
      cases hFire : c.gate.fire? c.now with
      | none => exact ⟨c.now, (c.gate, []), rfl, .quiet rfl rfl rfl, rfl⟩
      | some result =>
          exact ⟨c.now, result, rfl, c.gate.announces_fire? hFire, c.gate.counters_fire? hFire⟩
  | ring generation =>
      exact ⟨c.now, _, rfl, c.gate.announces_autoResume generation,
        c.gate.counters_autoResume generation⟩

/-- **Observers are up to date** after `triggers` overload signals: the board shows the
snapshot, the gauges show it as soon as it has been published at all, and the overload signals,
and nothing else, have been counted. -/
structure InView (c : Clocked) (triggers : Nat) : Prop where
  board : c.gate.board.value = c.gate.snapshot
  gauges : Journal.gauges? c.journal =
    if c.gate.board.version = 0 then none else some (c.gate.level, c.gate.paused)
  counted : c.journal.filterMap Entry.counter? = List.replicate triggers .trigger

theorem inView_start (delays : List Nat) : (start delays).InView 0 where
  board := rfl
  gauges := by
    show Journal.gauges? (Gate.make delays).2 = none
    unfold Gate.make
    split <;> rfl
  counted := by
    show (Gate.make delays).2.filterMap Entry.counter? = []
    unfold Gate.make
    split <;> rfl

/-- **One event** leaves observers up to date. -/
theorem InView.meet {c : Clocked} {triggers : Nat} (hc : c.InView triggers) (e : Event) :
    (c.meet e).InView (triggers + if e = .signal .trigger then 1 else 0) := by
  obtain ⟨now, ⟨g, entries⟩, hMeet, hAnnounces, hCounted⟩ := c.meet_cases e
  rw [hMeet]
  have hBoard : g.board.value = g.snapshot := hAnnounces.value hc.board
  have hCounters : (entries ++ c.journal).filterMap Entry.counter?
      = List.replicate (triggers + if e = .signal .trigger then 1 else 0) .trigger := by
    rw [List.filterMap_append, hCounted, hc.counted]
    split <;> rfl
  cases hAnnounces with
  | quiet hSnapshot hSame hEntries =>
      obtain rfl : entries = [] := hEntries
      refine ⟨hBoard, ?_, hCounters⟩
      have hLevel : g.level = c.gate.level := congrArg Snapshot.level hSnapshot
      have hPaused : g.paused = c.gate.paused := congrArg Snapshot.paused hSnapshot
      show Journal.gauges? c.journal = if g.board.version = 0 then none else some (g.level, g.paused)
      rw [hSame, hLevel, hPaused, hc.gauges]
  | shown hPublished hGauges =>
      refine ⟨hBoard, ?_, hCounters⟩
      show Journal.gauges? (entries ++ c.journal) = if g.board.version = 0 then none else _
      rw [Journal.gauges?_append, hGauges, hPublished, Watch.version_publish, if_neg (by omega)]
      rfl

/-- A run of events leaves observers up to date. -/
theorem InView.run {c : Clocked} {triggers : Nat} (hc : c.InView triggers) (events : List Event) :
    (events.foldl Clocked.meet c).InView (triggers + events.count (.signal .trigger)) := by
  induction events generalizing c triggers with
  | nil => exact hc
  | cons e rest ih =>
      have hCount : triggers + (e :: rest).count (.signal .trigger)
          = triggers + (if e = .signal .trigger then 1 else 0) + rest.count (.signal .trigger) := by
        simp only [List.count_cons, beq_iff_eq]
        omega
      rw [hCount]
      exact ih (hc.meet e)

/-! ## A session is made of events -/

/-- Events lead from one state to another, with so many overload signals among them. -/
def Leads (c c' : Clocked) (triggers : Nat) : Prop :=
  ∃ events : List Event, events.foldl meet c = c' ∧ events.count (.signal .trigger) = triggers

theorem Leads.refl (c : Clocked) : c.Leads c 0 := ⟨[], rfl, rfl⟩

theorem Leads.trans {c₁ c₂ c₃ : Clocked} {m n : Nat} (h₁ : c₁.Leads c₂ m) (h₂ : c₂.Leads c₃ n) :
    c₁.Leads c₃ (m + n) := by
  obtain ⟨events, rfl, rfl⟩ := h₁
  obtain ⟨events', rfl, rfl⟩ := h₂
  exact ⟨events ++ events', List.foldl_append, List.count_append⟩

/-- The clock moves on. -/
theorem leads_pass (c : Clocked) {target : Nat} (h : c.now ≤ target) :
    c.Leads { c with now := target } 0 := by
  refine ⟨[.pass (target - c.now)], ?_, rfl⟩
  show ({ c with now := c.now + (target - c.now) } : Clocked) = _
  rw [Nat.add_sub_cancel' h]

/-- A timer that is due by `target` fires: the time moves on to its deadline first. -/
theorem leads_step {target : Nat} {c c' : Clocked} (hNow : c.now ≤ target)
    (h : step? target c = some c') : c'.now ≤ target ∧ c.Leads c' 0 := by
  unfold step? at h
  split at h
  next => cases h
  next due _ =>
    split at h
    next hDue =>
      obtain ⟨result, hFire, rfl⟩ := Option.map_eq_some_iff.mp h
      refine ⟨Nat.max_le.mpr ⟨hNow, hDue⟩, ?_⟩
      refine (c.leads_pass (Nat.le_max_left c.now due)).trans (n := 0) ⟨[.fire], ?_, rfl⟩
      show ((c.gate.fire? (max c.now due)).map _).getD _ = _
      rw [hFire]
      rfl
    next => cases h

theorem leads_runTo (c : Clocked) {target : Nat} (hNow : c.now ≤ target) :
    c.Leads (c.runTo target) 0 := by
  -- What fires on the way never takes the clock beyond `target`.
  have hRun : (exhaust (step? target) (c.gate.timers.live.length + 1) c).now ≤ target ∧
      c.Leads (exhaust (step? target) (c.gate.timers.live.length + 1) c) 0 := by
    refine exhaust_induction (P := fun s => s.now ≤ target ∧ c.Leads s 0) ?_ _ c ⟨hNow, .refl c⟩
    intro s next ⟨hBefore, hLeads⟩ hStep
    obtain ⟨hAfter, hNext⟩ := leads_step hBefore hStep
    exact ⟨hAfter, hLeads.trans hNext⟩
  exact hRun.2.trans (leads_pass _ hRun.1)

/-- A command is made of events, one of them an overload signal if the command is one. -/
theorem leads_perform (c : Clocked) (x : Command) :
    c.Leads (c.perform x) (if x = .signal .trigger then 1 else 0) := by
  cases x with
  | signal s =>
      have hTold : c.Leads (c.put (c.gate.tell c.now s))
          (if Command.signal s = .signal .trigger then 1 else 0) :=
        ⟨[.signal s], rfl, by simp [List.count_singleton]⟩
      exact hTold.trans (leads_runTo _ (Nat.le_refl _))
  | advance ms => exact c.leads_runTo (Nat.le_add_right _ _)
  | jump ms =>
      exact (c.leads_pass (Nat.le_add_right c.now ms)).trans
        (leads_runTo { c with now := c.now + ms } (Nat.le_refl _))
  | look => exact .refl c

/-- A session is a run of events with the same overload signals. -/
theorem leads_commands (c : Clocked) (commands : List Command) :
    c.Leads (commands.foldl perform c) (commands.count (.signal .trigger)) := by
  induction commands generalizing c with
  | nil => exact .refl c
  | cons x rest ih =>
      have hCount : (x :: rest).count (.signal .trigger)
          = (if x = .signal .trigger then 1 else 0) + rest.count (.signal .trigger) := by
        simp only [List.count_cons, beq_iff_eq, Nat.add_comm]
      rw [hCount]
      exact (c.leads_perform x).trans (ih _)

end Clocked

/-! ## A whole run -/

/-- What the metrics of a gate alone are made of: a counter that was bumped so many times. -/
theorem counters_of_replicate {j : Journal} {n : Nat}
    (h : j.filterMap Entry.counter? = List.replicate n .trigger) :
    (Journal.counters j).map (fun c => (c.text, Journal.count j c))
      = if n = 0 then [] else [("poller_backoff_triggers_total", n)] := by
  have hCount : Journal.count j .trigger = n := by
    rw [Journal.count, h, List.count_replicate_self]
  cases n with
  | zero => simp [Journal.counters, h]
  | succ n =>
      have hOnce : Journal.counters j = [.trigger] := by
        rw [Journal.counters, h, List.replicate_succ, List.eraseDups_cons]
        simp
      rw [hOnce, List.map_singleton, hCount]
      rfl

/-- **Observers are never out of date.** After any events, in any order and at any times, the
board shows the snapshot of a gate that was new at the beginning, and the snapshot is paused
exactly if it says when the pause ends. The overload signals have been counted, each once. The
gauges show the level and the pause flag of the snapshot once anything has been published, and
nothing before. These are all metrics there are. The next event moves the version of the board
on if it changes the snapshot. A reset at level zero, and the callback of a timer of another
generation, change nothing and publish nothing. All of this is so in every session, after each
of its commands. -/
theorem observers_up_to_date (delays : List Nat) (events : List Event) :
    let c := events.foldl Clocked.meet (Clocked.start delays)
    let triggers := events.count (.signal .trigger)
    c.gate.board.value = c.gate.snapshot ∧
    (c.gate.snapshot.paused ↔ c.gate.snapshot.resumeAt.isSome) ∧
    Journal.count c.journal .trigger = triggers ∧
    Journal.gauges? c.journal = (if c.gate.board.version = 0 then none
      else some (c.gate.snapshot.level, c.gate.snapshot.paused)) ∧
    Journal.metrics c.journal =
      (if triggers = 0 then [] else [("poller_backoff_triggers_total", triggers)]) ++
      (if c.gate.board.version = 0 then []
        else [("poller_backoff_level", c.gate.snapshot.level),
          ("poller_paused", if c.gate.snapshot.paused then 1 else 0)]) ∧
    (∀ e : Event, (c.meet e).gate.snapshot ≠ c.gate.snapshot →
      c.gate.board.version < (c.meet e).gate.board.version) ∧
    (c.gate.level = 0 → c.meet (.signal .reset) = c) ∧
    (∀ generation, generation ≠ c.gate.generation → c.meet (.ring generation) = c) ∧
    (∀ commands : List Command, ∃ events' : List Event,
      Clocked.ran delays commands = events'.foldl Clocked.meet (Clocked.start delays) ∧
      events'.count (.signal .trigger) = commands.count (.signal .trigger)) := by
  intro c triggers
  have hView : c.InView (0 + triggers) := (Clocked.inView_start delays).run events
  rw [Nat.zero_add] at hView
  have hCount : Journal.count c.journal .trigger = triggers := by
    rw [Journal.count, hView.counted, List.count_replicate_self]
  refine ⟨hView.board, Iff.rfl, hCount, hView.gauges, ?_, ?_, ?_, ?_, ?_⟩
  · -- all metrics
    rw [Journal.metrics, counters_of_replicate hView.counted, hView.gauges]
    by_cases hSent : c.gate.board.version = 0
    · rw [if_pos hSent, if_pos hSent]
    · rw [if_neg hSent, if_neg hSent]
      rfl
  · -- what changed the snapshot has been published
    intro e hChanged
    obtain ⟨now, result, hMeet, hAnnounces, -⟩ := c.meet_cases e
    rw [hMeet] at hChanged ⊢
    cases hAnnounces with
    | quiet hSnapshot => exact absurd hSnapshot hChanged
    | shown hBoard =>
        show c.gate.board.version < result.1.board.version
        rw [hBoard, Watch.version_publish]
        exact Nat.lt_succ_self _
  · -- a reset at level zero
    intro hLevel
    have hNothing : c.gate.reset = (c.gate, []) := if_neg (by omega)
    show c.put c.gate.reset = c
    rw [hNothing]
    rfl
  · -- a timer of another generation
    intro generation hOther
    have hNothing : c.gate.autoResume generation = (c.gate, []) :=
      if_neg fun hActs => hOther hActs.1.symm
    show c.put (c.gate.autoResume generation) = c
    rw [hNothing]
    rfl
  · intro commands
    obtain ⟨events', hRun, hTriggers⟩ := Clocked.leads_commands (Clocked.start delays) commands
    exact ⟨events', hRun.symm, hTriggers⟩

end Backoff

end Lookout
