import Lookout.Polling.Fleet

set_option autoImplicit false

/-! # Nobody reads the journal

What a fleet does, it does whatever has been written so far. `Fleet.atop` puts an older journal
below that of a fleet; every function on fleets does the same with it, and leaves it below what it
writes itself. There is one lemma for each function, from the small changes to whole stretches of
time, and each is proved from those of the functions it calls.
-/

namespace Lookout.Polling.Fleet

open Backoff (Signal)
open Journal (Entry Line)

variable {ω : Type}

/-- The fleet atop an older journal, which lies below its own. -/
def atop (s : Fleet ω) (older : Journal) : Fleet ω := { s with journal := s.journal ++ older }

/-- The fleet, without its journal. -/
def unwritten (s : Fleet ω) : Fleet ω := { s with journal := [] }

variable (s : Fleet ω) (older : Journal)

@[simp] theorem now_atop : (s.atop older).now = s.now := rfl

@[simp] theorem gate_atop : (s.atop older).gate = s.gate := rfl

@[simp] theorem pollers_atop : (s.atop older).pollers = s.pollers := rfl

@[simp] theorem flights_atop : (s.atop older).flights = s.flights := rfl

@[simp] theorem source_atop : (s.atop older).source = s.source := rfl

theorem agenda_atop : (s.atop older).agenda = s.agenda := rfl

/-! ## Small changes -/

theorem modify_atop (i : Nat) (f : Poller → Poller) :
    (s.atop older).modify i f = (s.modify i f).atop older := rfl

theorem record_atop (e : Entry) : (s.atop older).record e = (s.record e).atop older := rfl

theorem log_atop (l : Line) : (s.atop older).log l = (s.log l).atop older := rfl

theorem emit_atop (i : Nat) (name : String) (e : TickEvent) :
    (s.atop older).emit i name e = (s.emit i name e).atop older := rfl

theorem putGate_atop (result : Backoff.Gate × List Entry) :
    (s.atop older).putGate result = (s.putGate result).atop older := by
  rw [putGate, atop, ← List.append_assoc]
  rfl

theorem tell_atop (x : Signal) : (s.atop older).tell x = (s.tell x).atop older :=
  s.putGate_atop older _

theorem effect_atop (e : Effect) : (s.atop older).effect e = (s.effect e).atop older := by
  cases e with
  | signal x => exact s.tell_atop older x
  | report e => rfl

theorem putSource_atop (source : ω) :
    ({ s.atop older with source := source } : Fleet ω) = atop { s with source := source } older :=
  rfl

theorem launch_atop (purpose : Purpose) (f : Fetch) :
    (s.atop older).launch purpose f = (s.launch purpose f).atop older := rfl

theorem ite_atop (older : Journal) (c : Prop) [Decidable c] (s t : Fleet ω) :
    (if c then s.atop older else t.atop older) = (if c then s else t).atop older :=
  (apply_ite (atop · older) c s t).symm

/-- What goes with an older journal one by one does so for a whole list. -/
theorem foldl_atop {α : Type} {op : Fleet ω → α → Fleet ω}
    (h : ∀ (s : Fleet ω) x, op (s.atop older) x = (op s x).atop older) (l : List α) :
    l.foldl op (s.atop older) = (l.foldl op s).atop older :=
  List.foldl_hom (·.atop older) fun s x => h s x

/-! ## What asks for no fetch -/

theorem leaveActive_atop (i : Nat) :
    (s.atop older).leaveActive i = (s.leaveActive i).atop older := by
  unfold leaveActive
  rw [pollers_atop]
  cases s.pollers[i]? <;> rfl

theorem exitActive_atop (i : Nat) :
    (s.atop older).exitActive i = (s.exitActive i).atop older := by
  unfold exitActive
  rw [pollers_atop, leaveActive_atop]
  cases s.pollers[i]? with
  | none => rfl
  | some p => exact ite_atop older _ _ _

theorem stop_atop (i : Nat) : (s.atop older).stop i = (s.stop i).atop older := by
  unfold stop
  rw [pollers_atop]
  cases s.pollers[i]? with
  | none => rfl
  | some p =>
      dsimp only
      split <;> rfl

theorem endWindow_atop (i run : Nat) :
    (s.atop older).endWindow i run = (s.endWindow i run).atop older := by
  unfold endWindow
  rw [pollers_atop, leaveActive_atop]
  cases s.pollers[i]? with
  | none => rfl
  | some p => exact ite_atop older _ _ _

theorem accept_atop (i run seq : Nat) (status : Option String) :
    (s.atop older).accept i run seq status
      = ((s.accept i run seq status).1.atop older, (s.accept i run seq status).2) := by
  unfold accept
  rw [pollers_atop]
  cases s.pollers[i]? with
  | none => rfl
  | some p =>
      dsimp only
      split
      next => rfl
      next =>
        split
        next => rfl
        next => cases p.change? status <;> rfl

theorem fail_atop (i run : Nat) (error : String) :
    (s.atop older).fail i run error = (s.fail i run error).atop older := by
  unfold fail
  rw [pollers_atop]
  cases s.pollers[i]? with
  | none => rfl
  | some p =>
      dsimp only
      split <;> rfl

theorem conclude_atop (r : Report) : (s.atop older).conclude r = (s.conclude r).atop older := by
  unfold conclude
  rw [pollers_atop]
  cases s.pollers[r.poller]? with
  | none => rfl
  | some p =>
      dsimp only
      rw [record_atop, emit_atop, endWindow_atop]
      rfl

theorem deliver_atop (f : Flight) :
    (s.atop older).deliver f = ((s.deliver f).1.atop older, (s.deliver f).2) := by
  unfold deliver
  rw [s.foldl_atop older (fun s e => s.effect_atop older e)]
  dsimp only
  split
  next => rfl
  next => exact accept_atop _ older _ _ _ _
  next => rw [fail_atop]

/-! ## What may ask for a fetch -/

variable [FetchSource ω]

theorem callFetch_atop (i : Nat) :
    (s.atop older).callFetch i = ((s.callFetch i).1, (s.callFetch i).2.atop older) := rfl

theorem tick_atop (i : Nat) : (s.atop older).tick i = (s.tick i).atop older := by
  unfold tick
  rw [pollers_atop]
  cases s.pollers[i]? with
  | none => rfl
  | some p =>
      dsimp only
      rw [gate_atop]
      split <;> rfl

theorem begin_atop (i : Nat) : (s.atop older).begin i = (s.begin i).atop older := by
  unfold begin
  rw [pollers_atop]
  cases s.pollers[i]? with
  | none => rfl
  | some p =>
      dsimp only
      rw [modify_atop, log_atop, tick_atop]
      rfl

theorem start_atop (i : Nat) : (s.atop older).start i = (s.start i).atop older := by
  unfold start
  rw [pollers_atop, begin_atop]
  cases s.pollers[i]? with
  | none => rfl
  | some p => exact ite_atop older _ _ _

theorem enterActive_atop (i : Nat) :
    (s.atop older).enterActive i = (s.enterActive i).atop older := by
  unfold enterActive
  rw [pollers_atop, start_atop]
  cases s.pollers[i]? <;> rfl

theorem react_atop (i : Nat) (current previous : String) (x : Reaction) :
    (s.atop older).react i current previous x = (s.react i current previous x).atop older := by
  -- Whether the main handle is there is not asked of the journal.
  have hOwned : ∀ op : Fleet ω → Nat → Fleet ω, op (s.atop older) i = (op s i).atop older →
      react.whileOwned (s.atop older) i op = (react.whileOwned s i op).atop older := by
    intro op h
    unfold react.whileOwned
    rw [pollers_atop, h]
    exact ite_atop older _ _ _
  cases x with
  | signal x => exact s.tell_atop older x
  | announce server => rfl
  | drop => rfl
  | start => exact hOwned _ (s.start_atop older i)
  | stop => exact hOwned _ (s.stop_atop older i)
  | enterActive => exact hOwned _ (s.enterActive_atop older i)
  | exitActive => exact hOwned _ (s.exitActive_atop older i)

theorem consult_atop (r : Report) : (s.atop older).consult r = (s.consult r).atop older := by
  unfold consult
  rw [pollers_atop]
  exact s.foldl_atop older (fun s x => s.react_atop older _ _ _ x) _

theorem land_atop (f : Flight) : (s.atop older).land f = (s.land f).atop older := by
  unfold land
  rw [deliver_atop]
  rcases s.deliver f with ⟨s', none | r⟩
  · rfl
  · dsimp only
    rw [consult_atop, conclude_atop]

/-! ## Time -/

theorem onAlarm_atop (i : Nat) (a : Alarm) :
    (s.atop older).onAlarm i a = (s.onAlarm i a).atop older := by
  cases a with
  | tick generation =>
      unfold onAlarm onTick
      rw [pollers_atop, tick_atop]
      cases s.pollers[i]? with
      | none => rfl
      | some p => exact ite_atop older _ _ _
  | expiry generation =>
      unfold onAlarm onExpiry
      rw [pollers_atop]
      cases s.pollers[i]? with
      | none => rfl
      | some p =>
          dsimp only
          rw [log_atop, leaveActive_atop]
          exact ite_atop older _ _ _

theorem work_atop (w : Work) : (s.atop older).work w = (s.work w).atop older := by
  cases w with
  | gate =>
      rw [work, work, gate_atop, now_atop]
      cases s.gate.fire? s.now with
      | none => rfl
      | some result => exact s.putGate_atop older result
  | timer i =>
      rw [work, work, pollers_atop, now_atop]
      cases s.pollers[i]?.bind fun p => p.timers.fire? s.now with
      | none => rfl
      | some fired =>
          exact (s.modify i fun p => { p with timers := fired.2 }).onAlarm_atop older i fired.1
  | flight k =>
      rw [work, work, flights_atop]
      cases s.flights[k]? with
      | none => rfl
      | some f => exact land_atop { s with flights := s.flights.eraseIdx k } older f

theorem step?_atop (target : Nat) :
    step? target (s.atop older) = (step? target s).map (·.atop older) := by
  unfold step?
  rw [agenda_atop]
  cases earliest s.agenda with
  | none => rfl
  | some x =>
      dsimp only
      split
      next => exact congrArg some (work_atop { s with now := max s.now x.1 } older x.2)
      next => rfl

/-- **A stretch of time** goes by in the same way whatever has been written before. -/
theorem runTo_atop (target ms : Nat) :
    (s.atop older).runTo target ms = (s.runTo target ms).atop older := by
  have hRun := exhaust_map (fun s : Fleet ω => s.step?_atop older target) (s.budget ms) s
  show { exhaust (step? target) (s.budget ms) (s.atop older) with now := target } = _
  rw [hRun]
  rfl

theorem settle_atop : (s.atop older).settle = s.settle.atop older := s.runTo_atop older _ _

theorem advance_atop (ms : Nat) : (s.atop older).advance ms = (s.advance ms).atop older :=
  s.runTo_atop older _ _

theorem await_atop (f : Fetch) : (s.atop older).await f = (s.await f).atop older := by
  rw [await, await, launch_atop, advance_atop]

end Lookout.Polling.Fleet
