import Lookout.Proofs.Polling.Flights

set_option autoImplicit false

/-! # What goes into the journal

Every entry of the journal is made by a deed of a poller, by the gate, by a fetch as it
lands, or by somebody outside. `Poller.entries` says which entries a deed makes, given what
`Poller.perform` is given, and `Scene.written` which entries a move makes. `journal_move`
puts these on top of what is in the journal already, so nobody has to unfold an operation of
a fleet to know what it reports. All lists of entries are newest first, like the journal.

Each entry has a `Subject`: the poller or the gate it reports on. A deed reports on the
poller whose deed it is and on nobody else (`owns_entries`), and what the gate does is
reported under the gate (`subject_tell`).
-/

namespace Lookout

open Journal (Entry Line Counter)

/-! ## Subjects -/

namespace Journal

/-- What an entry reports on. -/
inductive Subject
  /-- A poller, by its name. -/
  | poller (name : String)
  | gate
  /-- Anything else: servers, requests, the admin interface. -/
  | other
  deriving Repr, DecidableEq

/-- What a line reports on. -/
def Line.subject : Line → Subject
  | .invalidSchedule _ | .rateLimited .. | .levelReset _ | .backoffEnded _ | .forceResumed => .gate
  | .pollingStarted name _ | .pollSkipped name | .pollFailed name _ | .staleResult name _
  | .statusChanged name .. | .windowElapsed name | .returnedToIdle name | .enteredActive name ..
  | .pollingStopped name => .poller name
  | .serverChanged .. | .requestRefused .. | .adminRejected _ => .other

/-- What a counter counts the doings of. -/
def Counter.subject : Counter → Subject
  | .tick name _ | .statusChange name => .poller name
  | .trigger => .gate
  | .response _ => .other

/-- What an entry reports on. -/
def Entry.subject : Entry → Subject
  | .line l => l.subject
  | .bump c => c.subject
  | .gauges .. => .gate

/-! ### Counting entries -/

theorem count_append (l l' : List Entry) (c : Counter) :
    count (l ++ l') c = count l c + count l' c := by
  rw [count, List.filterMap_append, List.count_append]
  rfl

theorem count_singleton (e : Entry) (c : Counter) :
    count [e] c = if e = .bump c then 1 else 0 := by
  cases e with
  | bump c' => simp [count, Entry.counter?, List.count_cons]
  | line l => rfl
  | gauges level paused => rfl

/-- What is reported on something else does not bump a counter. -/
theorem count_eq_zero {l : List Entry} {c : Counter} (h : ∀ e ∈ l, e.subject ≠ c.subject) :
    count l c = 0 := by
  rw [count, List.count_eq_zero]
  intro hMem
  obtain ⟨e, he, hCounter⟩ := List.mem_filterMap.mp hMem
  refine h e he ?_
  cases e with
  | bump c' =>
      obtain rfl := Option.some.inj hCounter
      rfl
  | line l => cases hCounter
  | gauges level paused => cases hCounter

end Journal

open Journal (Subject)

namespace Backoff

/-- What the gate does when it is told a signal is reported under the gate. -/
theorem Gate.subject_tell (g : Gate) (now : Nat) (x : Signal) :
    ∀ e ∈ (g.tell now x).2, e.subject = .gate := by
  cases x with
  | trigger =>
      intro e he
      simp only [Gate.tell, Gate.trigger, List.mem_cons, List.not_mem_nil, or_false] at he
      rcases he with rfl | rfl | rfl <;> rfl
  | reset =>
      intro e he
      rw [Gate.tell, Gate.reset] at he
      split at he
      · simp only [List.mem_cons, List.not_mem_nil, or_false] at he
        rcases he with rfl | rfl <;> rfl
      · cases he
  | forceResume =>
      intro e he
      simp only [Gate.tell, Gate.forceResume, List.mem_cons, List.not_mem_nil, or_false] at he
      rcases he with rfl | rfl <;> rfl

/-- So is what it does when its timer fires. -/
theorem Gate.subject_fire? {g : Gate} {now : Nat} {x : Gate × List Entry}
    (h : g.fire? now = some x) : ∀ e ∈ x.2, e.subject = .gate := by
  obtain ⟨⟨generation, timers⟩, -, rfl⟩ := Option.map_eq_some_iff.mp h
  intro e he
  simp only [Gate.autoResume] at he
  split at he
  · simp only [List.mem_cons, List.not_mem_nil, or_false] at he
    rcases he with rfl | rfl <;> rfl
  · cases he

end Backoff

namespace Polling

/-! ## The entries of a deed -/

namespace Poller

section Entries

variable (paused : Bool) (now : Nat) (p : Poller)

/-- The entries of a tick: it is reported if it is skipped. -/
def tickEntries : List Entry :=
  if paused then [.bump (.tick p.name .skipped), .line (.pollSkipped p.name)] else []

/-- The entries of the beginning of a run, if one is begun. -/
def startEntries : List Entry :=
  if p.mode.isPolling then []
  else p.tickEntries paused ++ [.line (.pollingStarted p.name p.cadence.idle)]

/-- The entries of the end of a run, if one is ended. -/
def stopEntries : List Entry :=
  if p.mode.isPolling then [.line (.pollingStopped p.name)] else []

/-- The entries of what is done with a handle. -/
def operateEntries : Operation → List Entry
  | .start | .guard => p.startEntries paused
  | .enterActive =>
    .line (.enteredActive p.name p.cadence.active p.cadence.window) :: p.startEntries paused
  | .exitActive => if p.mode = .active then [.line (.returnedToIdle p.name)] else []
  | .stop | .dropGuard => p.stopEntries
  | .clone | .dropMain | .dropClone => []

/-- The entries of a timer that does what it is for. -/
def alarmEntries : Alarm → List Entry
  | .tick generation =>
    if p.tickGeneration = generation ∧ p.mode.isPolling then p.tickEntries paused else []
  | .expiry generation =>
    if p.expiryGeneration = generation ∧ p.mode = .active then
      [.line (.returnedToIdle p.name), .line (.windowElapsed p.name)]
    else []

/-- The entries of the `k`-th live timer that fires. -/
def ringEntries (k : Nat) : List Entry :=
  match p.timers.live[k]? with
  | none => []
  | some t => if t.deadline ≤ now then p.alarmEntries paused t.action else []

/-- The entries of a success. -/
def acceptEntries (run seq : Nat) (status : Option String) : List Entry :=
  if ¬ p.alive ∨ p.run ≠ run ∨ ¬ p.mode.isPolling then []
  else if seq ≤ p.applied then [.line (.staleResult p.name seq)]
  else
    match p.change? status with
    | none => [.bump (.tick p.name .fetched)]
    | some (current, previous) =>
      [.line (.statusChanged p.name previous current), .bump (.tick p.name .fetched)]

/-- The entries of a failure. -/
def failEntries (run : Nat) (error : String) : List Entry :=
  if p.alive ∧ p.run = run then
    [.bump (.tick p.name .failed), .line (.pollFailed p.name error)]
  else []

/-- The entries of the end of a report. -/
def concludeEntries (run : Nat) : List Entry :=
  (if p.run = run ∧ p.mode = .active then [.line (.returnedToIdle p.name)] else [])
    ++ [.bump (.tick p.name .statusChanged), .bump (.statusChange p.name)]

/-- The entries of a deed. -/
def entries : Deed → List Entry
  | .operate o => if o.allowed p.owners then p.operateEntries paused o else []
  | .ask => []
  | .ring k => p.ringEntries paused now k
  | .accept run seq status => p.acceptEntries run seq status
  | .fail run error => p.failEntries run error
  | .conclude run _ _ => p.concludeEntries run

end Entries

/-! ### On whom a deed reports -/

variable (paused : Bool) (now : Nat) (p : Poller)

/-- All entries of a list report on the poller. -/
def Owns (p : Poller) (l : List Entry) : Prop := ∀ e ∈ l, e.subject = .poller p.name

theorem owns_nil : p.Owns [] := nofun

variable {p} in
theorem Owns.cons {e : Entry} {l : List Entry} (he : e.subject = .poller p.name) (h : p.Owns l) :
    p.Owns (e :: l) := by
  intro x hx
  rcases List.mem_cons.mp hx with rfl | hx
  · exact he
  · exact h x hx

theorem owns_tickEntries : p.Owns (p.tickEntries paused) := by
  unfold tickEntries
  split
  · exact .cons rfl (.cons rfl p.owns_nil)
  · exact p.owns_nil

theorem owns_startEntries : p.Owns (p.startEntries paused) := by
  unfold startEntries
  split
  · exact p.owns_nil
  · intro e he
    rcases List.mem_append.mp he with hTick | hStart
    · exact p.owns_tickEntries paused e hTick
    · rw [List.mem_singleton.mp hStart]
      rfl

theorem owns_stopEntries : p.Owns p.stopEntries := by
  unfold stopEntries
  split
  · exact .cons rfl p.owns_nil
  · exact p.owns_nil

theorem owns_operateEntries (o : Operation) : p.Owns (p.operateEntries paused o) := by
  cases o with
  | start => exact p.owns_startEntries paused
  | guard => exact p.owns_startEntries paused
  | enterActive => exact Owns.cons rfl (p.owns_startEntries paused)
  | stop => exact p.owns_stopEntries
  | dropGuard => exact p.owns_stopEntries
  | exitActive =>
      rw [operateEntries]
      split
      · exact .cons rfl p.owns_nil
      · exact p.owns_nil
  | clone => exact p.owns_nil
  | dropMain => exact p.owns_nil
  | dropClone => exact p.owns_nil

theorem owns_alarmEntries (a : Alarm) : p.Owns (p.alarmEntries paused a) := by
  cases a with
  | tick generation =>
      rw [alarmEntries]
      split
      · exact p.owns_tickEntries paused
      · exact p.owns_nil
  | expiry generation =>
      rw [alarmEntries]
      split
      · exact .cons rfl (.cons rfl p.owns_nil)
      · exact p.owns_nil

theorem owns_acceptEntries (run seq : Nat) (status : Option String) :
    p.Owns (p.acceptEntries run seq status) := by
  unfold acceptEntries
  split
  · exact p.owns_nil
  · split
    · exact .cons rfl p.owns_nil
    · split
      · exact .cons rfl p.owns_nil
      · exact .cons rfl (.cons rfl p.owns_nil)

theorem owns_concludeEntries (run : Nat) : p.Owns (p.concludeEntries run) := by
  unfold concludeEntries
  split
  · exact .cons rfl (.cons rfl (.cons rfl p.owns_nil))
  · exact .cons rfl (.cons rfl p.owns_nil)

/-- **A deed reports on its poller** and on nobody else. -/
theorem owns_entries (d : Deed) : p.Owns (p.entries paused now d) := by
  cases d with
  | operate o =>
      rw [entries]
      split
      next => exact p.owns_operateEntries paused o
      next => exact p.owns_nil
  | ask => exact p.owns_nil
  | ring k =>
      rw [entries, ringEntries]
      split
      · exact p.owns_nil
      · split
        · exact p.owns_alarmEntries paused _
        · exact p.owns_nil
  | accept run seq status => exact p.owns_acceptEntries run seq status
  | fail run error =>
      rw [entries, failEntries]
      split
      · exact .cons rfl (.cons rfl p.owns_nil)
      · exact p.owns_nil
  | conclude run current previous => exact p.owns_concludeEntries run

end Poller

/-- The entries that the effects of a fetch make: those of the gate for its signals, and what
it reports itself. -/
def effectEntries (now : Nat) (g : Backoff.Gate) : List Effect → List Entry
  | [] => []
  | .signal x :: rest => effectEntries now (g.tell now x).1 rest ++ (g.tell now x).2
  | .report e :: rest => effectEntries now g rest ++ [e]

/-- What the effects of a fetch add to a count that is none of the gate's is what they report
themselves. -/
theorem count_effectEntries (now : Nat) (g : Backoff.Gate) (effects : List Effect) {c : Counter}
    (hc : c.subject ≠ .gate) :
    Journal.count (effectEntries now g effects) c = effects.count (.report (.bump c)) := by
  induction effects generalizing g with
  | nil => rfl
  | cons e rest ih =>
      cases e with
      | signal x =>
          have hGate : ∀ e ∈ (g.tell now x).2, e.subject ≠ c.subject := by
            intro e he hSame
            exact hc (hSame.symm.trans (g.subject_tell now x e he))
          rw [effectEntries, Journal.count_append, ih, Journal.count_eq_zero hGate]
          simp
      | report e =>
          rw [effectEntries, Journal.count_append, ih, Journal.count_singleton, List.count_cons]
          simp

/-! ## The journal of a fleet -/

namespace Fleet

variable {ω : Type}

theorem journal_effects (effects : List Effect) (s : Fleet ω) :
    (effects.foldl effect s).journal = effectEntries s.now s.gate effects ++ s.journal := by
  induction effects generalizing s with
  | nil => rfl
  | cons e rest ih =>
      rw [List.foldl_cons, ih]
      cases e with
      | signal x =>
          show _ ++ ((s.gate.tell s.now x).2 ++ s.journal) = _
          rw [← List.append_assoc]
          rfl
      | report e =>
          rw [effectEntries, List.append_assoc]
          rfl

variable {s : Fleet ω} {i : Nat} {p : Poller}

theorem journal_stop (hp : s.pollers[i]? = some p) :
    (s.stop i).journal = p.stopEntries ++ s.journal := by
  unfold stop Poller.stopEntries
  rw [hp]
  dsimp only
  split <;> rfl

theorem journal_leaveActive (hp : s.pollers[i]? = some p) :
    (s.leaveActive i).journal = .line (.returnedToIdle p.name) :: s.journal := by
  unfold leaveActive
  rw [hp]
  rfl

theorem journal_accept (hp : s.pollers[i]? = some p) (run seq : Nat) (status : Option String) :
    (s.accept i run seq status).1.journal = p.acceptEntries run seq status ++ s.journal := by
  unfold accept Poller.acceptEntries
  rw [hp]
  dsimp only
  split
  next => rfl
  next =>
    split
    next => rfl
    next =>
      cases p.change? status <;> rfl

theorem journal_fail (hp : s.pollers[i]? = some p) (run : Nat) (error : String) :
    (s.fail i run error).journal = p.failEntries run error ++ s.journal := by
  unfold fail Poller.failEntries
  rw [hp]
  dsimp only
  split <;> rfl

theorem journal_conclude {r : Report} (hp : s.pollers[r.poller]? = some p) :
    (s.conclude r).journal = p.concludeEntries r.run ++ s.journal := by
  unfold conclude Poller.concludeEntries
  rw [hp]
  dsimp only
  -- The window is looked at after the news was published, which changes neither run nor mode.
  have hTold : ((s.record (.bump (.statusChange p.name))).emit r.poller p.name
      (.statusChanged r.current r.previous)).pollers[r.poller]?
      = some (p.publish (.statusChanged r.current r.previous)) := by
    simp [emit, record, modify, hp]
  unfold endWindow
  rw [hTold]
  dsimp only [Poller.publish]
  by_cases hMeant : p.run = r.run ∧ p.mode = .active
  · rw [if_pos hMeant, if_pos hMeant]
    have hLeft := journal_leaveActive hTold
    exact hLeft
  · rw [if_neg hMeant, if_neg hMeant]
    rfl

variable [FetchSource ω]

theorem journal_tick (hp : s.pollers[i]? = some p) :
    (s.tick i).journal = p.tickEntries s.gate.paused ++ s.journal := by
  unfold tick Poller.tickEntries
  rw [hp]
  dsimp only
  split <;> rfl

theorem journal_start (hp : s.pollers[i]? = some p) :
    (s.start i).journal = p.startEntries s.gate.paused ++ s.journal := by
  unfold start Poller.startEntries
  rw [hp]
  dsimp only
  split
  next => rfl
  next =>
    unfold begin
    rw [hp]
    have hBegun : ((s.modify i Poller.beginRun).log
        (.pollingStarted p.name p.cadence.idle)).pollers[i]? = some p.beginRun := by
      simp [modify, log, record, hp]
    have hTick := journal_tick hBegun
    rw [List.append_assoc]
    exact hTick

theorem journal_carryOut (hp : s.pollers[i]? = some p) (o : Operation) :
    (s.carryOut i o).journal = p.operateEntries s.gate.paused o ++ s.journal := by
  have hStart := journal_start hp
  cases o with
  | start => exact hStart
  | guard => exact hStart
  | enterActive =>
      show (s.enterActive i).journal = _
      unfold enterActive
      rw [hp]
      exact congrArg (Entry.line _ :: ·) hStart
  | exitActive =>
      show (s.exitActive i).journal = _
      unfold exitActive Poller.operateEntries
      rw [hp]
      dsimp only
      split
      next => exact journal_leaveActive hp
      next => rfl
  | stop => exact journal_stop hp
  | dropGuard => exact journal_stop hp
  | clone => rfl
  | dropMain => rfl
  | dropClone => rfl

theorem journal_onAlarm (hp : s.pollers[i]? = some p) (a : Alarm) :
    (s.onAlarm i a).journal = p.alarmEntries s.gate.paused a ++ s.journal := by
  cases a with
  | tick generation =>
      show (s.onTick i generation).journal = _
      unfold onTick Poller.alarmEntries
      rw [hp]
      dsimp only
      split
      next => exact journal_tick hp
      next => rfl
  | expiry generation =>
      show (s.onExpiry i generation).journal = _
      unfold onExpiry Poller.alarmEntries
      rw [hp]
      dsimp only
      split
      next =>
        have hLogged : (s.log (.windowElapsed p.name)).pollers[i]? = some p := hp
        exact journal_leaveActive hLogged
      next => rfl

theorem journal_ring (hp : s.pollers[i]? = some p) (k : Nat) :
    (s.ring i k).journal = p.ringEntries s.gate.paused s.now k ++ s.journal := by
  unfold ring Poller.ringEntries
  rw [hp]
  dsimp only
  cases p.timers.live[k]? with
  | none => rfl
  | some t =>
      dsimp only
      split
      next =>
        have hFired : (s.modify i fun p =>
            { p with timers := p.timers.afterFiring t s.now }).pollers[i]?
            = some { p with timers := p.timers.afterFiring t s.now } := by
          simp [modify, hp]
        have hAlarm := journal_onAlarm hFired t.action
        cases hAction : t.action <;> rw [hAction] at hAlarm <;> exact hAlarm
      next => rfl

end Fleet

/-! ## The journal of a scene -/

namespace Scene

variable {ω : Type}

/-- The entries of a deed of poller `i`, if it is there. -/
def writtenBy (s : Scene ω) (i : Nat) (d : Deed) : List Entry :=
  (s.fleet.pollers[i]?.map (·.entries s.fleet.gate.paused s.fleet.now d)).getD []

/-- What the gate reports when its timer fires, if it is due. -/
def resumeEntries (s : Scene ω) : List Entry :=
  ((s.fleet.gate.fire? s.fleet.now).map Prod.snd).getD []

theorem mem_resumeEntries {s : Scene ω} {e : Entry} (he : e ∈ s.resumeEntries) :
    ∃ x, s.fleet.gate.fire? s.fleet.now = some x ∧ e ∈ x.2 := by
  rw [resumeEntries] at he
  cases hFire : s.fleet.gate.fire? s.fleet.now with
  | none =>
      rw [hFire] at he
      cases he
  | some x =>
      rw [hFire] at he
      exact ⟨x, rfl, he⟩

/-- What a fetch reports when it lands. -/
def landEntries (s : Scene ω) (f : Flight) : List Entry :=
  effectEntries s.fleet.now s.fleet.gate f.effects

/-- The entries that a move makes. -/
def written (s : Scene ω) (m : Move ω) : List Entry :=
  match m with
  | .signal x => (s.fleet.gate.tell s.fleet.now x).2
  | .note e => [e]
  | .resume => s.resumeEntries
  | .call .. | .pass _ => []
  | .operate .. | .ask _ | .ring .. | .conclude _ =>
    ((s.deed? m).map fun x => s.writtenBy x.1 x.2).getD []
  | .land k =>
    ((s.deed? m).map fun x => s.writtenBy x.1 x.2).getD []
      ++ (s.fleet.flights[k]?.map s.landEntries).getD []

theorem writtenBy_of_some {s : Scene ω} {i : Nat} {p : Poller} (hp : s.fleet.pollers[i]? = some p)
    (d : Deed) : s.writtenBy i d = p.entries s.fleet.gate.paused s.fleet.now d := by
  rw [writtenBy, hp]
  rfl

theorem writtenBy_of_none {s : Scene ω} {i : Nat} (hp : s.fleet.pollers[i]? = none) (d : Deed) :
    s.writtenBy i d = [] := by
  rw [writtenBy, hp]
  rfl

/-- What is written when a fetch lands: the entries of its effects first, then those of its
result. The effects do not reach the poller, and a result does not ask the gate. -/
theorem journal_deliver {s : Scene ω} {k : Nat} {f : Flight} (hf : s.fleet.flights[k]? = some f) :
    ({ s.fleet with flights := s.fleet.flights.eraseIdx k }.deliver f).1.journal
      = s.written (.land k) ++ s.fleet.journal := by
  have hEffects := Fleet.journal_effects f.effects
    { s.fleet with flights := s.fleet.flights.eraseIdx k }
  obtain ⟨hPollers, -, -, -⟩ := Fleet.effects_frame f.effects
    { s.fleet with flights := s.fleet.flights.eraseIdx k }
  have hDeed : s.deed? (.land k) = f.deed? := by simp only [deed?, hf, Option.bind_some]
  simp only [written, hDeed, hf, Option.map_some, Option.getD_some, List.append_assoc]
  obtain ⟨due, purpose, effects, result⟩ := f
  cases purpose with
  | direct => exact hEffects
  | tick i run seq =>
      cases result with
      | ok status =>
          simp only [Flight.deed?, Option.map_some, Option.getD_some]
          show (Fleet.accept _ i run seq status).1.journal = _
          cases hp : s.fleet.pollers[i]? with
          | none =>
              rw [writtenBy_of_none hp, Fleet.accept, hPollers, hp]
              exact hEffects
          | some p =>
              rw [writtenBy_of_some hp, Fleet.journal_accept (hPollers ▸ hp), hEffects]
              rfl
      | error text =>
          simp only [Flight.deed?, Option.map_some, Option.getD_some]
          show (Fleet.fail _ i run text).journal = _
          cases hp : s.fleet.pollers[i]? with
          | none =>
              rw [writtenBy_of_none hp, Fleet.fail, hPollers, hp]
              exact hEffects
          | some p =>
              rw [writtenBy_of_some hp, Fleet.journal_fail (hPollers ▸ hp), hEffects]
              rfl

variable [FetchSource ω]

/-- **The journal after a move** has the entries of the move on top. -/
theorem journal_move (s : Scene ω) (m : Move ω) :
    (s.move m).fleet.journal = s.written m ++ s.fleet.journal := by
  cases m with
  | operate i o =>
      simp only [written, deed?, Option.map_some, Option.getD_some]
      show (s.fleet.operate i o).journal = _
      cases hp : s.fleet.pollers[i]? with
      | none =>
          rw [writtenBy_of_none hp, Fleet.operate, Fleet.allows, hp]
          rfl
      | some p =>
          rw [writtenBy_of_some hp, Fleet.operate, Fleet.allows_eq hp, Poller.entries]
          split
          · exact Fleet.journal_carryOut hp o
          · rfl
  | ask i =>
      simp only [written, deed?, Option.map_some, Option.getD_some]
      have hNone : s.writtenBy i .ask = [] := by
        unfold writtenBy
        cases s.fleet.pollers[i]? <;> rfl
      rw [hNone]
      show (s.fleet.ask i).journal = _
      unfold Fleet.ask
      split <;> rfl
  | ring i k =>
      simp only [written, deed?, Option.map_some, Option.getD_some]
      show (s.fleet.ring i k).journal = _
      cases hp : s.fleet.pollers[i]? with
      | none =>
          rw [writtenBy_of_none hp, Fleet.ring, hp]
          rfl
      | some p =>
          rw [writtenBy_of_some hp]
          exact Fleet.journal_ring hp k
  | land k =>
      cases hf : s.fleet.flights[k]? with
      | none => simp [move, written, deed?, hf]
      | some f =>
          rw [move, hf]
          exact journal_deliver hf
  | conclude k =>
      cases hr : s.reports[k]? with
      | none => simp [move, written, deed?, hr]
      | some r =>
          simp only [move, written, deed?, hr, Option.map_some, Option.getD_some]
          cases hp : s.fleet.pollers[r.poller]? with
          | none =>
              rw [writtenBy_of_none hp, Fleet.conclude, hp]
              rfl
          | some p =>
              rw [writtenBy_of_some hp]
              exact Fleet.journal_conclude hp
  | resume =>
      rw [move, Fleet.work, written, resumeEntries]
      cases s.fleet.gate.fire? s.fleet.now <;> rfl
  | call f source => rfl
  | signal x => rfl
  | note e => rfl
  | pass ms => rfl

end Scene

end Polling

end Lookout
