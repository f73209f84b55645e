import Lookout.Proofs.Polling.Changes
import Lookout.Proofs.Polling.Leave
import Lookout.Proofs.Polling.Pause

set_option autoImplicit false

/-! # Events are counted

`Poller.news` says which events a deed publishes. Each of them is counted, in the same breath
and under the poller's name (`Poller.Tells`), and nothing else that a poller or the gate does
bumps such a counter. So the counters of a name are the events that the pollers of that name
have published, and what others have put into the journal (`Fresh.counted`).

All lists of events are newest first.
-/

namespace Lookout.Polling

open Journal (Entry Counter Outcome)

/-! ## How an event is counted -/

namespace TickEvent

/-- The counters that are bumped when a poller publishes an event: its outcome, and once more
if it is a change. -/
def counters (name : String) : TickEvent → List Counter
  | .statusChanged .. => [.tick name .statusChanged, .statusChange name]
  | .skipped => [.tick name .skipped]
  | .fetched _ => [.tick name .fetched]
  | .failed _ => [.tick name .failed]

/-- Whether an event is a change. -/
def isChange (e : TickEvent) : Bool := e.outcome = .statusChanged

theorem isChange_eq (e : TickEvent) : e.isChange = e.change?.isSome := by cases e <;> rfl

/-- Each event is counted once under its outcome. -/
theorem count_tick (name : String) (outcome : Outcome) (events : List TickEvent) :
    (events.flatMap (counters name)).count (.tick name outcome)
      = events.countP (·.outcome = outcome) := by
  induction events with
  | nil => rfl
  | cons e events ih =>
      rw [List.flatMap_cons, List.count_append, ih, List.countP_cons, Nat.add_comm]
      refine congrArg (events.countP _ + ·) ?_
      cases e <;> cases outcome <;> simp [counters, TickEvent.outcome]

/-- Each change is counted once more. -/
theorem count_statusChange (name : String) (events : List TickEvent) :
    (events.flatMap (counters name)).count (.statusChange name) = events.countP isChange := by
  induction events with
  | nil => rfl
  | cons e events ih =>
      rw [List.flatMap_cons, List.count_append, ih, List.countP_cons, Nat.add_comm]
      refine congrArg (events.countP _ + ·) ?_
      cases e <;> simp [counters, isChange, TickEvent.outcome]

end TickEvent

/-! ## What a deed publishes -/

namespace Poller

section News

variable (paused : Bool) (now : Nat) (p : Poller)

/-- The news of a tick: that it is skipped, if it is. -/
def tickNews : List TickEvent := if paused then [.skipped] else []

/-- The news of the beginning of a run, if one is begun. -/
def startNews : List TickEvent := if p.mode.isPolling then [] else tickNews paused

/-- The news of what is done with a handle. -/
def operateNews : Operation → List TickEvent
  | .start | .enterActive | .guard => p.startNews paused
  | .stop | .exitActive | .clone | .dropMain | .dropClone | .dropGuard => []

/-- The news of a timer that does what it is for. -/
def alarmNews : Alarm → List TickEvent
  | .tick generation =>
    if p.tickGeneration = generation ∧ p.mode.isPolling then tickNews paused else []
  | .expiry _ => []

/-- The news of the `k`-th live timer that fires. -/
def ringNews (k : Nat) : List TickEvent :=
  match p.timers.live[k]? with
  | none => []
  | some t => if t.deadline ≤ now then p.alarmNews paused t.action else []

/-- The news of a success: its status, unless it comes too late. -/
def acceptNews (run seq : Nat) (status : Option String) : List TickEvent :=
  if ¬ p.alive ∨ p.run ≠ run ∨ ¬ p.mode.isPolling then []
  else if seq ≤ p.applied then []
  else [.fetched status]

/-- The news of a failure, unless it comes too late. -/
def failNews (run : Nat) (error : String) : List TickEvent :=
  if p.alive ∧ p.run = run then [.failed error] else []

/-- The events that a deed publishes. -/
def news : Deed → List TickEvent
  | .operate o => if o.allowed p.owners then p.operateNews paused o else []
  | .ask => []
  | .ring k => p.ringNews paused now k
  | .accept run seq status => p.acceptNews run seq status
  | .fail run error => p.failNews run error
  | .conclude _ current previous => [.statusChanged current previous]

end News

/-- `q` is what has become of `p`, which has published `news` and has bumped the counters of
these events, as `entries` show, and no others. -/
structure Tells (p q : Poller) (entries : List Entry) (news : List TickEvent) : Prop where
  events : q.events = news ++ p.events
  counted : entries.filterMap Entry.counter? = news.flatMap (·.counters p.name)

variable (paused : Bool) (now : Nat) (p : Poller)

/-- What comes before and after publishes nothing. -/
theorem Tells.frame {p p₁ q₁ q : Poller} {entries : List Entry} {news : List TickEvent}
    (h : p₁.Tells q₁ entries news) (hName : p₁.name = p.name) (hBefore : p₁.events = p.events)
    (hAfter : q.events = q₁.events) : p.Tells q entries news where
  events := by rw [hAfter, h.events, hBefore]
  counted := by rw [h.counted, hName]

/-- What bumps no counter can be written in between. -/
theorem Tells.write {p q : Poller} {entries entries' : List Entry} {news : List TickEvent}
    (h : p.Tells q entries news)
    (hSame : entries'.filterMap Entry.counter? = entries.filterMap Entry.counter?) :
    p.Tells q entries' news :=
  ⟨h.events, hSame.trans h.counted⟩

theorem tells_tick : p.Tells (p.tick paused now) (p.tickEntries paused) (tickNews paused) := by
  unfold tick tickEntries tickNews
  split
  next => exact ⟨rfl, rfl⟩
  next => exact ⟨rfl, rfl⟩

theorem tells_start :
    p.Tells (p.start paused now) (p.startEntries paused) (p.startNews paused) := by
  unfold start startEntries startNews
  split
  next => exact ⟨rfl, rfl⟩
  next =>
    have hTick := p.beginRun.tells_tick paused now
    refine .write (hTick.frame rfl rfl rfl) ?_
    rw [List.filterMap_append]
    exact List.append_nil _

theorem tells_stop : p.Tells p.stop p.stopEntries [] := by
  unfold stop stopEntries
  split <;> exact ⟨rfl, rfl⟩

theorem tells_operate (o : Operation) :
    p.Tells (p.operate paused now o) (p.operateEntries paused o) (p.operateNews paused o) := by
  have hStart := p.tells_start paused now
  cases o with
  | start => exact hStart
  | guard => exact hStart.frame rfl rfl rfl
  | enterActive => exact .write (hStart.frame rfl rfl rfl) rfl
  | stop => exact p.tells_stop
  | dropGuard => exact p.tells_stop.frame rfl rfl (records_release _).2.2
  | exitActive =>
      rw [operate, exitActive, operateEntries]
      split <;> exact ⟨rfl, rfl⟩
  | clone => exact ⟨rfl, rfl⟩
  | dropMain => exact ⟨(records_release _).2.2, rfl⟩
  | dropClone => exact ⟨(records_release _).2.2, rfl⟩

theorem tells_onAlarm (a : Alarm) :
    p.Tells (p.onAlarm paused now a) (p.alarmEntries paused a) (p.alarmNews paused a) := by
  cases a with
  | tick generation =>
      rw [onAlarm, alarmEntries, alarmNews]
      split
      next => exact p.tells_tick paused now
      next => exact ⟨rfl, rfl⟩
  | expiry generation =>
      rw [onAlarm, alarmEntries]
      split <;> exact ⟨rfl, rfl⟩

theorem tells_ring (k : Nat) :
    p.Tells (p.ring paused now k) (p.ringEntries paused now k) (p.ringNews paused now k) := by
  unfold ring ringEntries ringNews
  cases p.timers.live[k]? with
  | none => exact ⟨rfl, rfl⟩
  | some t =>
      dsimp only
      split
      next =>
        have hAlarm :=
          tells_onAlarm paused now { p with timers := p.timers.afterFiring t now } t.action
        cases hAction : t.action <;> rw [hAction] at hAlarm <;> exact hAlarm.frame rfl rfl rfl
      next => exact ⟨rfl, rfl⟩

theorem tells_accept (run seq : Nat) (status : Option String) :
    p.Tells (p.accept run seq status) (p.acceptEntries run seq status)
      (p.acceptNews run seq status) := by
  unfold accept acceptEntries acceptNews
  split
  next => exact ⟨rfl, rfl⟩
  next =>
    split
    next => exact ⟨rfl, rfl⟩
    next => cases p.change? status <;> exact ⟨rfl, rfl⟩

/-- **A deed counts the events that it publishes**, and nothing else. -/
theorem tells_perform (d : Deed) :
    p.Tells (p.perform paused now d) (p.entries paused now d) (p.news paused now d) := by
  cases d with
  | operate o =>
      rw [perform, entries, news]
      split
      next => exact p.tells_operate paused now o
      next => exact ⟨rfl, rfl⟩
  | ask =>
      rw [perform]
      split <;> exact ⟨rfl, rfl⟩
  | ring k => exact p.tells_ring paused now k
  | accept run seq status => exact p.tells_accept run seq status
  | fail run error =>
      rw [perform, fail, entries, failEntries, news, failNews]
      split <;> exact ⟨rfl, rfl⟩
  | conclude run current previous =>
      refine ⟨(p.records_conclude now run current previous).2.2, ?_⟩
      rw [entries, concludeEntries]
      split <;> rfl

end Poller

/-! ## By name -/

namespace Fleet

variable {ω : Type}

/-- The events that the pollers of a name have published. -/
def published (s : Fleet ω) (name : String) : List TickEvent :=
  (s.pollers.filter (·.name = name)).flatMap Poller.events

/-- The calls of the callbacks of the pollers of a name. -/
def called (s : Fleet ω) (name : String) : List (String × String) :=
  (s.pollers.filter (·.name = name)).flatMap Poller.changes

/-- What one of the pollers publishes is published under its name. -/
theorem published_of_split {s s' : Fleet ω} {p q : Poller} {front back : List Poller}
    {news : List TickEvent} (hBefore : s.pollers = front ++ p :: back)
    (hAfter : s'.pollers = front ++ q :: back) (hName : q.name = p.name)
    (hEvents : q.events = news ++ p.events) (name : String) :
    (s'.published name).Perm ((if p.name = name then news else []) ++ s.published name) := by
  simp only [published, hBefore, hAfter, List.filter_append, List.filter_cons, hName,
    List.flatMap_append]
  by_cases hSame : p.name = name
  · simp only [hSame, decide_true, if_true, List.flatMap_cons, hEvents, List.append_assoc]
    exact List.perm_append_comm_assoc _ _ _
  · simp only [hSame, decide_false, if_false, List.nil_append]
    exact .refl _

end Fleet

/-! ## In a scene -/

/-- What a fetch reports itself. -/
def Effect.report? : Effect → Option Entry
  | .signal _ => none
  | .report e => some e

theorem count_reports (effects : List Effect) (c : Counter) :
    Journal.count (effects.filterMap Effect.report?) c = effects.count (.report (.bump c)) := by
  induction effects with
  | nil => rfl
  | cons e rest ih =>
      cases e with
      | signal x => exact ih.trans (List.count_cons_of_ne (by simp)).symm
      | report e =>
          have hMore : (Effect.report e :: rest).filterMap Effect.report?
              = [e] ++ rest.filterMap Effect.report? := rfl
          rw [hMore, Journal.count_append, ih, Journal.count_singleton, List.count_cons]
          simp [Nat.add_comm]

namespace Scene

variable {ω : Type}

/-- The events that pollers of a name publish with a move. -/
def news (s : Scene ω) (name : String) (m : Move ω) : List TickEvent :=
  ((s.deed? m).bind fun x => s.fleet.pollers[x.1]?.map fun p =>
    if p.name = name then p.news s.fleet.gate.paused s.fleet.now x.2 else []).getD []

/-- The entries that a move makes for somebody who is neither a poller nor the gate: those from
outside, and what fetches report themselves. -/
def notes (s : Scene ω) : Move ω → List Entry
  | .note e => [e]
  | .land k => ((s.fleet.flights[k]?.map Flight.effects).getD []).filterMap Effect.report?
  | .operate .. | .ask _ | .ring .. | .conclude _ | .call .. | .signal _ | .pass _ | .resume => []

theorem news_of_deed {s : Scene ω} {m : Move ω} {i : Nat} {d : Deed} {p : Poller}
    (hDeed : s.deed? m = some (i, d)) (hp : s.fleet.pollers[i]? = some p) (name : String) :
    s.news name m
      = if p.name = name then p.news s.fleet.gate.paused s.fleet.now d else [] := by
  rw [news, hDeed, Option.bind_some, hp]
  rfl

theorem news_of_none {s : Scene ω} {m : Move ω} (hDeed : s.deed? m = none) (name : String) :
    s.news name m = [] := by
  rw [news, hDeed]
  rfl

/-- **What a deed counts under a name** are the events that it publishes there. -/
theorem counted_writtenBy (s : Scene ω) (m : Move ω) {c : Counter} {name : String}
    (hc : c.subject = .poller name) :
    Journal.count (((s.deed? m).map fun x => s.writtenBy x.1 x.2).getD []) c
      = ((s.news name m).flatMap (·.counters name)).count c := by
  cases hDeed : s.deed? m with
  | none =>
      rw [news_of_none hDeed]
      rfl
  | some x =>
      obtain ⟨i, d⟩ := x
      rw [Option.map_some, Option.getD_some]
      cases hp : s.fleet.pollers[i]? with
      | none =>
          rw [writtenBy_of_none hp, news, hDeed, Option.bind_some, hp]
          rfl
      | some p =>
          rw [writtenBy_of_some hp, news_of_deed hDeed hp]
          split
          next hName =>
            rw [Journal.count, (p.tells_perform _ _ d).counted, hName]
          next hOther =>
            -- The entries are about a poller of another name.
            refine Journal.count_eq_zero fun e he hSame => hOther ?_
            rw [p.owns_entries _ _ d e he, hc] at hSame
            exact Journal.Subject.poller.inj hSame

/-- **What a move counts under a name**: the events that it publishes there, and what others put
into the journal. -/
theorem counted_written (s : Scene ω) (m : Move ω) {c : Counter} {name : String}
    (hc : c.subject = .poller name) :
    Journal.count (s.written m) c
      = Journal.count (s.notes m) c + ((s.news name m).flatMap (·.counters name)).count c := by
  have hDeed := s.counted_writtenBy m hc
  have hGate : ∀ l : List Entry, (∀ e ∈ l, e.subject = .gate) → Journal.count l c = 0 := by
    intro l hl
    refine Journal.count_eq_zero fun e he hSame => ?_
    rw [hl e he, hc] at hSame
    cases hSame
  cases m with
  | operate i o => exact hDeed.trans (Nat.zero_add _).symm
  | ask i => exact hDeed.trans (Nat.zero_add _).symm
  | ring i k => exact hDeed.trans (Nat.zero_add _).symm
  | conclude k => exact hDeed.trans (Nat.zero_add _).symm
  | land k =>
      rw [written, Journal.count_append, hDeed, Nat.add_comm, notes, count_reports]
      refine congrArg (· + _) ?_
      cases s.fleet.flights[k]? with
      | none => rfl
      | some f => exact count_effectEntries _ _ _ (by rw [hc]; rintro ⟨⟩)
  | signal x => exact hGate _ (s.fleet.gate.subject_tell _ x)
  | note e => rfl
  | resume =>
      refine hGate _ fun e he => ?_
      obtain ⟨x, hFire, hx⟩ := mem_resumeEntries he
      exact Backoff.Gate.subject_fire? hFire e hx
  | call f source => rfl
  | pass ms => rfl

variable [FetchSource ω]

/-- The pollers after a move that is no deed of any of them. -/
theorem pollers_of_none {s : Scene ω} {m : Move ω} (hDeed : s.deed? m = none) :
    (s.move m).fleet.pollers = s.fleet.pollers :=
  List.ext_getElem? fun i => (s.getElem?_move m i).trans (map_turn_of_none hDeed i)

/-- The pollers after a move that is a deed of poller `i`. -/
theorem pollers_of_deed {s : Scene ω} {m : Move ω} {i : Nat} {d : Deed}
    (hDeed : s.deed? m = some (i, d)) :
    (s.move m).fleet.pollers
      = s.fleet.pollers.modify i (·.perform s.fleet.gate.paused s.fleet.now d) := by
  refine List.ext_getElem? fun j => ?_
  rw [getElem?_move, List.getElem?_modify]
  cases hp : s.fleet.pollers[j]? with
  | none => rfl
  | some p =>
      rw [Option.map_some, turn, hDeed]
      rfl

/-- **What is published under a name** after a move is what was before it, and the news. -/
theorem published_move (s : Scene ω) (m : Move ω) (name : String) :
    ((s.move m).fleet.published name).Perm (s.news name m ++ s.fleet.published name) := by
  cases hDeed : s.deed? m with
  | none =>
      rw [news_of_none hDeed, Fleet.published, pollers_of_none hDeed]
      exact .refl _
  | some x =>
      obtain ⟨i, d⟩ := x
      have hPollers := pollers_of_deed hDeed
      cases hp : s.fleet.pollers[i]? with
      | none =>
          rw [modify_of_none hp] at hPollers
          rw [news, hDeed, Option.bind_some, hp, Fleet.published, hPollers]
          exact .refl _
      | some p =>
          rw [news_of_deed hDeed hp]
          obtain ⟨hi, rfl⟩ := List.getElem?_eq_some_iff.mp hp
          rw [List.modify_eq_take_cons_drop hi] at hPollers
          have hSplit : s.fleet.pollers = s.fleet.pollers.take i
              ++ s.fleet.pollers[i] :: s.fleet.pollers.drop (i + 1) := by
            rw [← List.drop_eq_getElem_cons, List.take_append_drop]
          exact Fleet.published_of_split hSplit hPollers (Poller.alike_perform _ _ _ d).name
            (Poller.tells_perform _ _ _ d).events name

/-- The entries in the journal that neither a poller nor the gate has made since the beginning of
a run. -/
def noted (s₀ : Scene ω) : List (Move ω) → List Entry
  | [] => s₀.fleet.journal
  | m :: past => (s₀.after past).notes m ++ s₀.noted past

/-- **What is counted under a name** are the events that were published there, and what others
have put into the journal. -/
theorem Fresh.counted {s₀ : Scene ω} (h : s₀.Fresh) (past : List (Move ω)) {c : Counter}
    {name : String} (hc : c.subject = .poller name) :
    Journal.count (s₀.after past).fleet.journal c
      = Journal.count (s₀.noted past) c
        + (((s₀.after past).fleet.published name).flatMap (·.counters name)).count c := by
  induction past with
  | nil =>
      have hNone : s₀.fleet.published name = [] := by
        refine List.flatMap_eq_nil_iff.mpr fun p hp => ?_
        obtain ⟨name, cadence, callback, rfl⟩ := h.pollers p (List.mem_of_mem_filter hp)
        rfl
      rw [after, hNone]
      rfl
  | cons m past ih =>
      have hMore := ((published_move (s₀.after past) m name).flatMap_right
        (·.counters name)).count_eq c
      rw [after, hMore, journal_move, Journal.count_append, ih, counted_written _ _ hc, noted,
        Journal.count_append, List.flatMap_append, List.count_append]
      omega

/-! ## Calls of the callback -/

/-- **Each call of a poller's callback** has had its change published, or is at work. -/
theorem Fresh.calls_eq {s₀ : Scene ω} (h : s₀.Fresh) (past : List (Move ω)) {i : Nat} {p : Poller}
    (hp : (s₀.after past).fleet.pollers[i]? = some p) :
    p.changes.length
      = p.events.countP TickEvent.isChange + ((s₀.after past).pending i).length := by
  have hCalls := congrArg Multiset.card (h.reckons past hp).2.changes_eq
  have hSame : (fun e : TickEvent => e.change?.isSome) = TickEvent.isChange :=
    funext fun e => e.isChange_eq.symm
  rw [Multiset.card_add, Multiset.coe_card, Multiset.coe_card, List.length_filterMap_eq_countP,
    hSame, atWork, Multiset.coe_card, List.length_map] at hCalls
  exact hCalls.symm

/-- When no callback is at work, the calls under a name are as many as the changes that were
published there. -/
theorem Fresh.called_eq {s₀ : Scene ω} (h : s₀.Fresh) (past : List (Move ω))
    (hNone : (s₀.after past).reports = []) (name : String) :
    ((s₀.after past).fleet.called name).length
      = ((s₀.after past).fleet.published name).countP TickEvent.isChange := by
  rw [Fleet.called, Fleet.published, List.length_flatMap, List.countP_flatMap]
  refine congrArg List.sum (List.map_congr_left fun p hp => ?_)
  obtain ⟨i, hi⟩ := List.getElem?_of_mem (List.mem_of_mem_filter hp)
  have hCalls := h.calls_eq past hi
  rw [pending, hNone] at hCalls
  exact hCalls

/-! ## Attempts -/

omit [FetchSource ω] in
/-- A poller that nobody keeps is gone, and no report of it is open. -/
theorem Tended.gone_of_not_alive {s : Scene ω} {i : Nat} {p : Poller} (h : s.Tended i p)
    (hAlive : p.alive = false) : p.Gone ∧ s.pending i = [] := by
  refine ⟨⟨hAlive, h.timers hAlive⟩, ?_⟩
  rw [Poller.alive, Owners.any, Bool.or_eq_false_iff, decide_eq_false_iff_not, h.reports] at hAlive
  exact List.length_eq_zero_iff.mp (by omega)

omit [FetchSource ω] in
/-- A poller that is gone has no ticks. -/
theorem ticks_of_gone {s : Scene ω} {i : Nat} {p : Poller} (hp : s.fleet.pollers[i]? = some p)
    (hGone : p.Gone) (m : Move ω) : s.ticks i m = false := by
  refine Bool.eq_false_iff.mpr fun hTicks => ?_
  obtain ⟨d, -, hTick⟩ := exists_of_ticks hp hTicks
  cases d with
  | operate o => simp [Poller.ticks, Poller.not_allowed hGone.held] at hTick
  | ring k => simp [Poller.ticks, hGone.live] at hTick
  | _ => cases hTick

omit [FetchSource ω] in
/-- A skip or a fetch for each tick. -/
theorem Accounts.length_eq {p : Poller} {log : List (Nat × Bool)} {invocations : List Nat}
    (h : Accounts p log invocations) : log.length = p.skips + p.issued := by
  rw [h.skips, h.issued, List.length_eq_countP_add_countP (·.2)]
  simp

/-- **Each tick of a poller**, for as long as it exists, was skipped or has issued a fetch. -/
theorem Fresh.attempts_eq {s₀ : Scene ω} (h : s₀.Fresh) (past : List (Move ω)) {i : Nat}
    {p : Poller} (hp : (s₀.after past).fleet.pollers[i]? = some p) :
    (s₀.tickLog i past).length = p.skips + p.issued := by
  induction past generalizing p with
  | nil =>
      obtain ⟨name, cadence, callback, rfl⟩ := h.pollers p (List.mem_of_getElem? hp)
      rfl
  | cons m past ih =>
      obtain ⟨q, hq, rfl⟩ := exists_of_move hp
      by_cases hAlive : q.alive = true
      · exact ((h.accounts past hq hAlive).move hq (h.sound past hq hAlive)).length_eq
      · -- It is gone, so the move is nothing to it.
        obtain ⟨hGone, hNone⟩ :=
          (h.tended past hq).gone_of_not_alive (Bool.eq_false_iff.mpr hAlive)
        rw [tickLog, if_neg (by rw [ticks_of_gone hq hGone]; exact Bool.false_ne_true), ih hq,
          (gone_move hq hGone hNone m).1]

end Scene

/-- **A fleet that commands are given to** has published, after each command, a change for each
call of a callback. -/
theorem Fleet.session_called (delays : List Nat) {pollers : List (Poller × List Reply)}
    (h : ∀ x ∈ pollers, x.1.Fresh) (commands : List Command) :
    ∀ x ∈ (ofScripts delays pollers).session commands, ∀ name,
      (x.1.called name).length = (x.1.published name).countP TickEvent.isChange := by
  intro x hx name
  obtain ⟨hFresh, hCalm⟩ := ofScripts_fresh delays h
  obtain ⟨moves, -, -, hMoves⟩ := session_reaches hCalm commands x hx
  have hCalled := hFresh.called_eq moves (by rw [hMoves]) name
  rw [hMoves] at hCalled
  exact hCalled

end Lookout.Polling
