import Lookout.Proofs.Backoff.Observers
import Lookout.Proofs.Polling.Apart
import Lookout.Proofs.Polling.Board
import Lookout.Proofs.Polling.Record
import Lookout.Proofs.Polling.Tally

set_option autoImplicit false

/-! # The log is a record of the state

Every deed of a poller and every operation of the gate writes lines that fit where they stand,
and reading them leads to what observers of the poller or the gate are shown (`Poller.Logs`,
`Gate.Logs`). So every move leads from the record of one scene to that of the next
(`reads_move`), and the log of a whole run to the record of where the run leads
(`log_is_faithful`). Since a record keeps all that was shown, and not the last of it only, no
change goes without its line.
-/

namespace Lookout

open Journal (Entry Line)

namespace Polling

/-! ## What a poller writes -/

namespace Poller

open Record (Reads)

/-- Reading the lines of `log`, each of which fits, leads from what `p` has shown to what `q` has
shown, for a reader who takes the gate to be paused if `paused` says so. -/
def Logs (paused : Bool) (p q : Poller) (log : List Line) : Prop :=
  ∀ r : Record, r.modes p.name = p.board → r.paused = paused → r.Reads log (r.put p.name q.board)

variable {paused : Bool} {now : Nat} {p q t : Poller}

theorem board_release (p : Poller) : p.release.board = p.board := by
  unfold release
  split <;> rfl

/-- What shows nothing writes nothing. -/
theorem logs_of_eq (hBoard : q.board = p.board) : Logs paused p q [] := by
  intro r hModes _
  rw [Record.put_self (hModes.trans hBoard.symm)]
  exact .nil r

theorem Logs.trans {log log' : List Line} (h : Logs paused p q log) (h' : Logs paused q t log')
    (hName : q.name = p.name) : Logs paused p t (log ++ log') := by
  intro r hModes hPaused
  have hMore := h' (r.put p.name q.board) (by rw [hName, Record.modes_put_self]) hPaused
  rw [hName, Record.put_put] at hMore
  exact (h r hModes hPaused).append hMore

/-- Only the name and the board matter. -/
theorem Logs.congr {log : List Line} (h : Logs paused p q log) {p' q' : Poller}
    (hName : p'.name = p.name) (hBefore : p'.board = p.board) (hAfter : q'.board = q.board) :
    Logs paused p' q' log := by
  intro r hModes hPaused
  rw [hName, hAfter]
  exact h r (by rw [← hName, hModes, hBefore]) hPaused

/-- A line that fits and tells of a new mode. -/
theorem logs_line {l : Line} {m : Mode} (hBoard : q.board = p.board.publishChange m)
    (hRead : ∀ r : Record, r.read l = r.enter p.name m)
    (hFits : ∀ r : Record, r.mode p.name = p.board.value → r.Fits l) : Logs paused p q [l] := by
  intro r hModes _
  have hRecord : r.put p.name q.board = r.read l := by
    rw [hRead, Record.enter, hModes, hBoard]
  rw [hRecord]
  exact .one (hFits r (congrArg Watch.value hModes))

/-- Lines that leave the mode alone. -/
theorem logs_still {log : List Line} (hBoard : q.board = p.board)
    (hReads : ∀ r : Record, r.mode p.name = p.board.value → r.paused = paused → r.Reads log r) :
    Logs paused p q log := by
  intro r hModes hPaused
  rw [Record.put_self (hModes.trans hBoard.symm)]
  exact hReads r (congrArg Watch.value hModes) hPaused

variable (hShown : p.board.value = p.mode)
include hShown

theorem logs_tick (hPolling : p.mode ≠ .stopped) :
    Logs paused p (p.tick paused now) (Journal.lines (p.tickEntries paused)) := by
  refine logs_still (still_tick p paused now).board fun r hMode hPaused => ?_
  unfold tickEntries
  split
  next hHeld =>
    have hFits : r.Fits (.pollSkipped p.name) :=
      ⟨by rw [hMode, hShown]; exact hPolling, hPaused.trans hHeld⟩
    exact .one hFits
  next => exact .nil r

theorem logs_start :
    Logs paused p (p.start paused now) (Journal.lines (p.startEntries paused)) := by
  unfold start startEntries
  split
  next => exact logs_of_eq rfl
  next hNot =>
    have hStopped : p.mode = .stopped := Mode.eq_stopped (Bool.eq_false_iff.mpr hNot)
    have hBegun : Logs paused p p.beginRun [.pollingStarted p.name p.cadence.idle] :=
      logs_line rfl (fun _ => rfl) fun r hMode => by
        show r.mode p.name = .stopped
        rw [hMode, hShown, hStopped]
    have hTicked : Logs paused p.beginRun
        ((p.beginRun.tick paused now).armTicks now p.cadence.idle)
        (Journal.lines (p.beginRun.tickEntries paused)) :=
      (logs_tick (p := p.beginRun) (Watch.value_publishChange p.board .idle)
        (by decide : Mode.idle ≠ .stopped)).congr rfl rfl rfl
    rw [Journal.lines_append]
    exact hBegun.trans hTicked rfl

theorem logs_openWindow (hPolling : p.mode ≠ .stopped) :
    Logs paused p (p.openWindow now)
      [.enteredActive p.name p.cadence.active p.cadence.window] :=
  logs_line rfl (fun _ => rfl) fun r hMode => by
    show r.mode p.name ≠ .stopped
    rw [hMode, hShown]
    exact hPolling

theorem logs_closeWindow (hActive : p.mode = .active) :
    Logs paused p (p.closeWindow now) [.returnedToIdle p.name] :=
  logs_line rfl (fun _ => rfl) fun r hMode => by
    show r.mode p.name = .active
    rw [hMode, hShown, hActive]

theorem logs_stop : Logs paused p p.stop (Journal.lines p.stopEntries) := by
  unfold stop stopEntries
  split
  next hPolling =>
    refine logs_line rfl (fun _ => rfl) fun r hMode => ?_
    show r.mode p.name ≠ .stopped
    rw [hMode, hShown]
    intro hStopped
    rw [hStopped] at hPolling
    cases hPolling
  next => exact logs_of_eq rfl

theorem logs_enterActive :
    Logs paused p ((p.start paused now).openWindow now) (Journal.lines (.line
      (.enteredActive p.name p.cadence.active p.cadence.window) :: p.startEntries paused)) := by
  have hAlike := p.alike_start paused now
  have hStarted := (shows_start paused now hShown).value hShown
  have hPolling : (p.start paused now).mode ≠ .stopped := by
    intro hStopped
    have hPolls := p.isPolling_start paused now
    rw [hStopped] at hPolls
    cases hPolls
  have hOpened : Logs paused (p.start paused now) ((p.start paused now).openWindow now) _ :=
    logs_openWindow hStarted hPolling
  rw [hAlike.name, hAlike.cadence] at hOpened
  have hLines := Journal.lines_append
    [.line (.enteredActive p.name p.cadence.active p.cadence.window)] (p.startEntries paused)
  rw [List.singleton_append] at hLines
  rw [hLines]
  exact (logs_start hShown).trans hOpened hAlike.name

theorem logs_exitActive : Logs paused p (p.exitActive now)
    (Journal.lines (if p.mode = .active then [.line (.returnedToIdle p.name)] else [])) := by
  unfold exitActive
  split
  next hActive => exact logs_closeWindow hShown hActive
  next => exact logs_of_eq rfl

theorem logs_operate (o : Operation) :
    Logs paused p (p.operate paused now o) (Journal.lines (p.operateEntries paused o)) := by
  cases o with
  | start => exact logs_start hShown
  | stop => exact logs_stop hShown
  | enterActive => exact logs_enterActive hShown
  | exitActive => exact logs_exitActive hShown
  | clone => exact logs_of_eq rfl
  | guard => exact (logs_start hShown).congr rfl rfl rfl
  | dropMain => exact logs_of_eq (board_release _)
  | dropClone => exact logs_of_eq (board_release _)
  | dropGuard => exact (logs_stop hShown).congr rfl rfl (board_release _)

theorem logs_onAlarm (a : Alarm) :
    Logs paused p (p.onAlarm paused now a) (Journal.lines (p.alarmEntries paused a)) := by
  cases a with
  | tick generation =>
      rw [onAlarm, alarmEntries]
      split
      next hMeant =>
        refine logs_tick hShown fun hStopped => ?_
        rw [hStopped] at hMeant
        cases hMeant.2
      next => exact logs_of_eq rfl
  | expiry generation =>
      rw [onAlarm, alarmEntries]
      split
      next hMeant =>
        -- The window has run out, and then the poller goes back.
        have hElapsed : Logs paused p p [.windowElapsed p.name] :=
          logs_still rfl fun r hMode _ => .one (l := .windowElapsed p.name)
            (show r.mode p.name = .active by rw [hMode, hShown, hMeant.2])
        exact hElapsed.trans (logs_closeWindow hShown hMeant.2) rfl
      next => exact logs_of_eq rfl

theorem logs_ring (k : Nat) :
    Logs paused p (p.ring paused now k) (Journal.lines (p.ringEntries paused now k)) := by
  unfold ring ringEntries
  cases p.timers.live[k]? with
  | none => exact logs_of_eq rfl
  | some t =>
    dsimp only
    split
    next =>
      have hFired := @logs_onAlarm paused now { p with timers := p.timers.afterFiring t now }
        hShown t.action
      cases hAction : t.action <;> rw [hAction] at hFired <;> exact hFired
    next => exact logs_of_eq rfl

omit hShown in
/-- What comes of a fetch is told of in lines that leave the mode alone. -/
theorem logs_accept (run seq : Nat) (status : Option String) :
    Logs paused p (p.accept run seq status) (Journal.lines (p.acceptEntries run seq status)) := by
  unfold accept acceptEntries
  split
  next => exact logs_of_eq rfl
  next =>
    split
    next => exact logs_still rfl fun r _ _ => .one (l := .staleResult p.name seq) trivial
    next =>
      cases p.change? status with
      | none => exact logs_of_eq rfl
      | some change =>
          exact logs_still rfl fun r _ _ =>
            .one (l := .statusChanged p.name change.2 change.1) trivial

omit hShown in
theorem logs_fail (run : Nat) (error : String) :
    Logs paused p (p.fail run error) (Journal.lines (p.failEntries run error)) := by
  unfold fail failEntries
  split
  next => exact logs_still rfl fun r _ _ => .one (l := .pollFailed p.name error) trivial
  next => exact logs_of_eq rfl

theorem logs_conclude (run : Nat) (current previous : String) :
    Logs paused p (p.conclude now run current previous)
      (Journal.lines (p.concludeEntries run)) := by
  have hBoard : (p.conclude now run current previous).board
      = (if p.run = run ∧ p.mode = .active then
          (p.publish (.statusChanged current previous)).closeWindow now
        else p.publish (.statusChanged current previous)).board := board_release _
  rw [concludeEntries, Journal.lines_append]
  show Logs paused p _ (Journal.lines _)
  by_cases hMeant : p.run = run ∧ p.mode = .active
  · rw [if_pos hMeant] at hBoard ⊢
    have hClosed : Logs paused p (p.closeWindow now) [.returnedToIdle p.name] :=
      logs_closeWindow hShown hMeant.2
    exact hClosed.congr rfl rfl hBoard
  · rw [if_neg hMeant] at hBoard ⊢
    exact logs_of_eq hBoard

/-- **Every deed of a poller is on record**: its lines fit, and lead to what the poller shows. -/
theorem logs_perform (d : Deed) :
    Logs paused p (p.perform paused now d) (Journal.lines (p.entries paused now d)) := by
  cases d with
  | operate o =>
      rw [perform, entries]
      split
      next => exact logs_operate hShown o
      next => exact logs_of_eq rfl
  | ask =>
      rw [perform]
      split <;> exact logs_of_eq rfl
  | ring k => exact logs_ring hShown k
  | accept run seq status => exact logs_accept run seq status
  | fail run error => exact logs_fail run error
  | conclude run current previous => exact logs_conclude hShown run current previous

end Poller

end Polling

/-! ## What the gate writes -/

namespace Backoff.Gate

open Polling (Record)

/-- What observers of a gate have seen of its pause. -/
def view (g : Gate) : Watch (Bool × Nat) where
  initial := (g.board.initial.paused, g.board.initial.level)
  sent := g.board.sent.map fun s => (s.paused, s.level)

theorem value_view {g : Gate} (hShown : g.board.value = g.snapshot) :
    g.view.value = (g.paused, g.level) := by
  have hValue : g.view.value = (g.board.value.paused, g.board.value.level) := by
    unfold view Watch.value
    cases g.board.sent <;> rfl
  rw [hValue, hShown]
  rfl

theorem view_publish {g g' : Gate} (h : g'.board = g.board.publish g'.snapshot) :
    g'.view = g.view.publish (g'.paused, g'.level) := by
  unfold view
  rw [h]
  rfl

/-- Reading the lines of `log`, each of which fits, leads from what `g` has shown to what `g'` has
shown. -/
def Logs (g g' : Gate) (log : List Line) : Prop :=
  ∀ r : Record, r.pause = g.view → r.Reads log { r with pause := g'.view }

theorem Logs.trans {g₁ g₂ g₃ : Gate} {log log' : List Line} (h : Logs g₁ g₂ log)
    (h' : Logs g₂ g₃ log') : Logs g₁ g₃ (log ++ log') :=
  fun r hPause => (h r hPause).append (h' { r with pause := g₂.view } rfl)

/-- What others write is nothing to the gate. -/
theorem logs_aside {g g' : Gate} {log : List Line} (hBoard : g'.board = g.board)
    (hAside : ∀ l ∈ log, l.Aside) : Logs g g' log := by
  intro r hPause
  have hSame : ({ r with pause := g'.view } : Record) = r := by
    rw [view, hBoard]
    exact congrArg (Record.mk r.modes) hPause.symm
  rw [hSame]
  exact .aside hAside

/-- A line that fits and tells what is published. -/
theorem logs_line {g g' : Gate} {l : Line} (hShown : g.board.value = g.snapshot)
    (hBoard : g'.board = g.board.publish g'.snapshot)
    (hLine : ∀ r : Record, r.paused = g.paused → r.level = g.level →
      r.Fits l ∧ r.read l = r.hold g'.paused g'.level) : Logs g g' [l] := by
  intro r hPause
  have hValue : r.pause.value = (g.paused, g.level) := by rw [hPause, value_view hShown]
  obtain ⟨hFits, hRead⟩ := hLine r (congrArg Prod.fst hValue) (congrArg Prod.snd hValue)
  have hRecord : ({ r with pause := g'.view } : Record) = r.read l := by
    rw [hRead, view_publish hBoard, ← hPause]
    rfl
  rw [hRecord]
  exact .one hFits

variable {g : Gate} (hShown : g.board.value = g.snapshot)
include hShown

theorem logs_trigger (now : Nat) :
    Logs g (g.trigger now).1 (Journal.lines (g.trigger now).2) :=
  logs_line hShown rfl fun _ _ hLevel => ⟨hLevel.symm, rfl⟩

theorem logs_reset : Logs g g.reset.1 (Journal.lines g.reset.2) := by
  unfold reset
  split
  next hPos =>
    exact logs_line hShown rfl fun r hPaused hLevel =>
      ⟨⟨hLevel.symm, hPos⟩, congrArg (r.hold · 0) hPaused⟩
  next => exact logs_aside rfl nofun

theorem logs_forceResume : Logs g g.forceResume.1 (Journal.lines g.forceResume.2) :=
  logs_line hShown rfl fun _ _ _ => ⟨trivial, rfl⟩

theorem logs_autoResume (generation : Nat) :
    Logs g (g.autoResume generation).1 (Journal.lines (g.autoResume generation).2) := by
  unfold autoResume
  split
  next hActs =>
    exact logs_line hShown rfl fun r hPaused hLevel =>
      ⟨⟨hLevel.symm, hPaused.trans hActs.2⟩, congrArg (r.hold false) hLevel⟩
  next => exact logs_aside rfl nofun

theorem logs_tell (now : Nat) (x : Signal) :
    Logs g (g.tell now x).1 (Journal.lines (g.tell now x).2) := by
  cases x with
  | trigger => exact logs_trigger hShown now
  | reset => exact logs_reset hShown
  | forceResume => exact logs_forceResume hShown

theorem logs_fire? {now : Nat} {result : Gate × List Entry} (h : g.fire? now = some result) :
    Logs g result.1 (Journal.lines result.2) := by
  obtain ⟨⟨generation, timers⟩, -, rfl⟩ := Option.map_eq_some_iff.mp h
  exact logs_autoResume (g := { g with timers := timers }) hShown generation

end Backoff.Gate

namespace Polling

open Backoff (Gate)

/-- The effects of a fetch are on record, if what it reports itself is none of the record's
business. -/
theorem logs_effects (now : Nat) {g : Gate} (hShown : g.board.value = g.snapshot)
    (effects : List Effect)
    (hAside : ∀ l ∈ Journal.lines (effects.filterMap Effect.report?), l.Aside) :
    let g' := hear now g (effects.filterMap Effect.signal?)
    g.Logs g' (Journal.lines (effectEntries now g effects)) ∧ g'.board.value = g'.snapshot := by
  induction effects generalizing g with
  | nil => exact ⟨Gate.logs_aside rfl nofun, hShown⟩
  | cons e rest ih =>
      cases e with
      | signal x =>
          obtain ⟨hRest, hAfter⟩ := ih ((g.announces_tell now x).value hShown) hAside
          rw [effectEntries, Journal.lines_append]
          exact ⟨(Gate.logs_tell hShown now x).trans hRest, hAfter⟩
      | report e =>
          have hReports : Journal.lines ((Effect.report e :: rest).filterMap Effect.report?)
              = Journal.lines (rest.filterMap Effect.report?) ++ Journal.lines [e] :=
            Journal.lines_append [e] _
          rw [hReports] at hAside
          obtain ⟨hRest, hAfter⟩ := ih hShown fun l hl => hAside l (List.mem_append_left _ hl)
          have hOwn : g.Logs g (Journal.lines [e]) :=
            Gate.logs_aside rfl fun l hl => hAside l (List.mem_append_right _ hl)
          rw [effectEntries, Journal.lines_append]
          exact ⟨hOwn.trans hRest, hAfter⟩

/-! ## Every run -/

namespace Scene

variable {ω : Type}

/-- The entries of a move that are not those of a deed: of the gate, and of what lands. -/
def gateEntries (s : Scene ω) : Move ω → List Entry
  | .signal x => (s.fleet.gate.tell s.fleet.now x).2
  | .note e => [e]
  | .resume => s.resumeEntries
  | .land k => (s.fleet.flights[k]?.map s.landEntries).getD []
  | .operate .. | .ask _ | .ring .. | .conclude _ | .call .. | .pass _ => []

/-- The entries of the deed that a move is, if it is one. -/
def deedEntries (s : Scene ω) (m : Move ω) : List Entry :=
  ((s.deed? m).map fun x => s.writtenBy x.1 x.2).getD []

/-- A deed comes last in the log. -/
theorem lines_written (s : Scene ω) (m : Move ω) :
    Journal.lines (s.written m)
      = Journal.lines (s.gateEntries m) ++ Journal.lines (s.deedEntries m) := by
  rw [← Journal.lines_append]
  refine congrArg Journal.lines ?_
  cases m with
  | land k => rfl
  | operate i o => exact (List.append_nil _).symm
  | ask i => exact (List.append_nil _).symm
  | ring i k => exact (List.append_nil _).symm
  | conclude k => exact (List.append_nil _).symm
  | call f source => rfl
  | signal x => rfl
  | note e => rfl
  | pass ms => rfl
  | resume => rfl

/-- **A record is that of a scene**: it has what the pollers and the gate have shown, each of them
shows its state, and no two pollers have the same name. -/
structure OnRecord (s : Scene ω) (r : Record) : Prop where
  modes : ∀ (i : Nat) (p : Poller), s.fleet.pollers[i]? = some p → r.modes p.name = p.board
  pause : r.pause = s.fleet.gate.view
  shown : ∀ (i : Nat) (p : Poller), s.fleet.pollers[i]? = some p → p.board.value = p.mode
  gate : s.fleet.gate.board.value = s.fleet.gate.snapshot
  apart : ∀ (i j : Nat) (p q : Poller), s.fleet.pollers[i]? = some p →
    s.fleet.pollers[j]? = some q → p.name = q.name → i = j

theorem Fresh.onRecord {s₀ : Scene ω} (h : s₀.Fresh) {delays : List Nat}
    (hGate : s₀.fleet.gate = (Gate.make delays).1)
    (hNames : (s₀.fleet.pollers.map Poller.name).Nodup) : s₀.OnRecord {} where
  modes i p hp := by
    obtain ⟨name, cadence, callback, rfl⟩ := h.pollers p (List.mem_of_getElem? hp)
    rfl
  pause := by rw [hGate]; rfl
  shown i p hp := (h.pollers p (List.mem_of_getElem? hp)).onBoard.value
  gate := by rw [hGate]; rfl
  apart i j p q hp hq hSame := by
    have hi : i < (s₀.fleet.pollers.map Poller.name).length := by
      rw [List.length_map]
      exact (List.getElem?_eq_some_iff.mp hp).1
    refine (List.getElem?_inj hi hNames).mp ?_
    rw [List.getElem?_map, List.getElem?_map, hp, hq, Option.map_some, Option.map_some, hSame]

/-- A poller keeps its name. -/
theorem name_turn (s : Scene ω) (m : Move ω) (i : Nat) (p : Poller) :
    (s.turn m i p).name = p.name := (s.alike_turn m i p).name

variable [FetchSource ω] {s : Scene ω} {r : Record} {m : Move ω}

/-- **What a move is to the gate** is on record. -/
theorem logs_gate (hShown : s.fleet.gate.board.value = s.fleet.gate.snapshot)
    (hAside : ∀ l ∈ Journal.lines (s.notes m), l.Aside) :
    s.fleet.gate.Logs (s.move m).fleet.gate (Journal.lines (s.gateEntries m)) ∧
      (s.move m).fleet.gate.board.value = (s.move m).fleet.gate.snapshot := by
  cases m with
  | resume =>
      show s.fleet.gate.Logs (s.fleet.work .gate).gate (Journal.lines s.resumeEntries) ∧
        (s.fleet.work .gate).gate.board.value = (s.fleet.work .gate).gate.snapshot
      rw [Fleet.work, resumeEntries]
      cases hFire : s.fleet.gate.fire? s.fleet.now with
      | none => exact ⟨Gate.logs_aside rfl (List.forall_mem_nil _), hShown⟩
      | some result =>
          exact ⟨Gate.logs_fire? hShown hFire,
            (s.fleet.gate.announces_fire? hFire).value hShown⟩
  | land k =>
      rw [gate_move s (m := .land k) (by simp)]
      cases hf : s.fleet.flights[k]? with
      | none =>
          simp only [gateEntries, signals, hf, Option.map_none, Option.getD_none]
          exact ⟨Gate.logs_aside rfl (List.forall_mem_nil _), hShown⟩
      | some f =>
          simp only [notes, hf, Option.map_some, Option.getD_some] at hAside
          simp only [gateEntries, signals, hf, Option.map_some, Option.getD_some]
          exact logs_effects s.fleet.now hShown f.effects hAside
  | signal x =>
      exact ⟨Gate.logs_tell hShown _ x, (s.fleet.gate.announces_tell _ x).value hShown⟩
  | note e => exact ⟨Gate.logs_aside rfl hAside, hShown⟩
  | operate i o =>
      rw [gate_move s (m := .operate i o) (by simp)]
      exact ⟨Gate.logs_aside rfl (List.forall_mem_nil _), hShown⟩
  | ask i =>
      rw [gate_move s (m := .ask i) (by simp)]
      exact ⟨Gate.logs_aside rfl (List.forall_mem_nil _), hShown⟩
  | ring i k =>
      rw [gate_move s (m := .ring i k) (by simp)]
      exact ⟨Gate.logs_aside rfl (List.forall_mem_nil _), hShown⟩
  | conclude k =>
      rw [gate_move s (m := .conclude k) (by simp)]
      exact ⟨Gate.logs_aside rfl (List.forall_mem_nil _), hShown⟩
  | call f source => exact ⟨Gate.logs_aside rfl (List.forall_mem_nil _), hShown⟩
  | pass ms => exact ⟨Gate.logs_aside rfl (List.forall_mem_nil _), hShown⟩

/-- **What a move is to a poller** is on record, for a reader who has read what it is to the
gate. A result that lands after the gate was told something does not ask the gate. -/
theorem logs_deed {i : Nat} {d : Deed} {p : Poller} (h : s.OnRecord r)
    (hDeed : s.deed? m = some (i, d)) (hp : s.fleet.pollers[i]? = some p) :
    Poller.Logs (s.move m).fleet.gate.paused p
      (p.perform s.fleet.gate.paused s.fleet.now d)
      (Journal.lines (p.entries s.fleet.gate.paused s.fleet.now d)) := by
  have hShown := h.shown i p hp
  have hSame : m ≠ .resume → s.signals m = [] →
      (s.move m).fleet.gate.paused = s.fleet.gate.paused := by
    intro hm hNone
    rw [gate_move s hm, hNone]
    rfl
  cases meets_of_deed hDeed with
  | operate o =>
      rw [hSame nofun rfl]
      exact Poller.logs_perform hShown _
  | ask =>
      rw [hSame nofun rfl]
      exact Poller.logs_perform hShown _
  | ring k =>
      rw [hSame nofun rfl]
      exact Poller.logs_perform hShown _
  | conclude k r =>
      rw [hSame nofun rfl]
      exact Poller.logs_perform hShown _
  | accept k f run seq status => exact Poller.logs_accept run seq status
  | fail k f run seq error => exact Poller.logs_fail run error

/-- **The lines of a move** fit, and lead from the record of the scene before it to that of the
scene after it. -/
theorem reads_move (h : s.OnRecord r) (hAside : ∀ l ∈ Journal.lines (s.notes m), l.Aside) :
    ∃ r', r.Reads (Journal.lines (s.written m)) r' ∧ (s.move m).OnRecord r' := by
  obtain ⟨hGate, hShown⟩ := logs_gate h.gate hAside
  have hFirst := hGate r h.pause
  have hPaused : ({ r with pause := (s.move m).fleet.gate.view } : Record).paused
      = (s.move m).fleet.gate.paused := congrArg Prod.fst (Gate.value_view hShown)
  -- It remains to say what is on record of the pollers.
  have hNext : ∀ r' : Record, r'.pause = (s.move m).fleet.gate.view →
      (∀ (i : Nat) (p : Poller), (s.move m).fleet.pollers[i]? = some p →
        r'.modes p.name = p.board) → (s.move m).OnRecord r' := by
    intro r' hPause hModes
    refine ⟨hModes, hPause, fun i q hq => ?_, hShown, fun i j p q hp hq hSame => ?_⟩
    · obtain ⟨p, hp, rfl⟩ := exists_of_move hq
      exact (shows_turn s m i (h.shown i p hp)).value (h.shown i p hp)
    · obtain ⟨p', hp', rfl⟩ := exists_of_move hp
      obtain ⟨q', hq', rfl⟩ := exists_of_move hq
      rw [name_turn, name_turn] at hSame
      exact h.apart i j p' q' hp' hq' hSame
  rw [lines_written]
  cases hDeed : s.deed? m with
  | none =>
      have hNone : s.deedEntries m = [] := by rw [deedEntries, hDeed]; rfl
      rw [hNone]
      refine ⟨_, hFirst.append (.nil _), hNext _ rfl fun i q hq => ?_⟩
      obtain ⟨p, hp, rfl⟩ := exists_of_move hq
      rw [turn_of_none hDeed]
      exact h.modes i p hp
  | some x =>
      obtain ⟨i, d⟩ := x
      have hWritten : s.deedEntries m = s.writtenBy i d := by rw [deedEntries, hDeed]; rfl
      rw [hWritten]
      cases hp : s.fleet.pollers[i]? with
      | none =>
          rw [writtenBy_of_none hp]
          refine ⟨_, hFirst.append (.nil _), hNext _ rfl fun j q hq => ?_⟩
          obtain ⟨p, hp', rfl⟩ := exists_of_move hq
          have hOther : i ≠ j := by
            rintro rfl
            rw [hp] at hp'
            cases hp'
          rw [turn_of_other hDeed hOther]
          exact h.modes j p hp'
      | some p =>
          rw [writtenBy_of_some hp]
          have hSecond := logs_deed h hDeed hp { r with pause := (s.move m).fleet.gate.view }
            (h.modes i p hp) hPaused
          refine ⟨_, hFirst.append hSecond, hNext _ rfl fun j q hq => ?_⟩
          obtain ⟨p', hp', rfl⟩ := exists_of_move hq
          by_cases hSame : i = j
          · subst hSame
            obtain rfl := Option.some.inj (hp.symm.trans hp')
            rw [name_turn, Record.modes_put_self, turn_of_deed hDeed]
          · -- The reader knows the pollers by their names.
            have hName : p'.name ≠ p.name := fun hEq => hSame (h.apart i j p p' hp hp' hEq.symm)
            rw [turn_of_other hDeed hSame, Record.modes_put_of_ne _ hName]
            exact h.modes j p' hp'

/-- The log of a run leads to the record of where the run leads. -/
theorem Fresh.reads {s₀ : Scene ω} (h : s₀.Fresh) {delays : List Nat}
    (hGate : s₀.fleet.gate = (Gate.make delays).1)
    (hNames : (s₀.fleet.pollers.map Poller.name).Nodup) (past : List (Move ω))
    (hAside : ∀ l ∈ Journal.lines (s₀.noted past), l.Aside) :
    ∃ r, ({} : Record).Reads (Journal.lines (s₀.after past).fleet.journal) r ∧
      (s₀.after past).OnRecord r := by
  induction past with
  | nil => exact ⟨{}, .aside hAside, h.onRecord hGate hNames⟩
  | cons m past ih =>
      rw [noted, Journal.lines_append] at hAside
      obtain ⟨r, hReads, hRecord⟩ := ih fun l hl => hAside l (List.mem_append_left _ hl)
      obtain ⟨r', hMore, hRecord'⟩ :=
        reads_move hRecord (m := m) fun l hl => hAside l (List.mem_append_right _ hl)
      rw [after, journal_move, Journal.lines_append]
      exact ⟨r', hReads.append hMore, hRecord'⟩

/-- **The log is a faithful record of the state.** After every run of pollers of distinct names,
whatever happened and in whatever order, a reader of the log who began with all pollers stopped and
the gate open knows the mode of every poller and whether and at what level the gate holds off; and
more than that, all that observers of a poller or the gate were ever shown, so that nothing was
shown without its line. Each line of the log fits where it stands: what it says of the state
before is so. And it has told the reader something new, unless it is one of those that say nothing
new there. Others may have written to the journal as well, but nothing about pollers or the
gate. -/
theorem log_is_faithful {s₀ : Scene ω} (hFresh : s₀.Fresh) {delays : List Nat}
    (hGate : s₀.fleet.gate = (Gate.make delays).1)
    (hNames : (s₀.fleet.pollers.map Poller.name).Nodup) (past : List (Move ω))
    (hAside : ∀ l ∈ Journal.lines (s₀.noted past), l.Aside) :
    let s := (s₀.after past).fleet
    let log := Journal.lines s.journal
    (∀ p ∈ s.pollers, (Record.ofLog log).mode p.name = p.mode ∧
      (Record.ofLog log).modes p.name = p.board) ∧
    ((Record.ofLog log).paused = s.gate.snapshot.paused ∧
      (Record.ofLog log).level = s.gate.snapshot.level ∧
      (Record.ofLog log).pause.sent = s.gate.board.sent.map fun x => (x.paused, x.level)) ∧
    ∀ (before after : List Line) (l : Line), log = before ++ l :: after →
      (Record.ofLog before).Fits l ∧
      ((Record.ofLog (before ++ [l])).shown = (Record.ofLog before).shown
        ↔ (Record.ofLog before).Stays l) := by
  intro s log
  obtain ⟨r, hReads, hRecord⟩ := hFresh.reads hGate hNames past hAside
  have hLog : Record.ofLog log = r := hReads.eq
  refine ⟨fun p hp => ?_, ?_, fun before after l hSplit => ?_⟩
  · obtain ⟨i, hi⟩ := List.getElem?_of_mem hp
    have hModes : r.modes p.name = p.board := hRecord.modes i p hi
    rw [hLog, Record.mode, hModes]
    exact ⟨hRecord.shown i p hi, rfl⟩
  · have hValue : r.pause.value = (s.gate.paused, s.gate.level) := by
      rw [hRecord.pause]
      exact Gate.value_view hRecord.gate
    rw [hLog]
    exact ⟨congrArg Prod.fst hValue, congrArg Prod.snd hValue, congrArg Watch.sent hRecord.pause⟩
  · have hWhole : Record.Reads {} (before ++ l :: after) r := by
      rw [← hSplit]
      exact hReads
    have hFits : (Record.ofLog before).Fits l := hWhole.fits
    have hRead : Record.ofLog (before ++ [l]) = (Record.ofLog before).read l := by
      rw [Record.ofLog, List.foldl_append]
      rfl
    rw [hRead]
    exact ⟨hFits, Record.same_iff hFits⟩

/-- A pause ends, and then the first of the pair is made active; the second has been stopped by its
callback. -/
def aftermath : List (Move Scripts) :=
  [.operate 0 .enterActive, .resume, .pass 2000, .signal .trigger] ++ crowd

theorem log_is_faithful_aftermath :
    let log := Journal.lines (pair.after aftermath).fleet.journal
    log = [.pollingStarted "one" 12000, .pollingStarted "two" 12000,
        .enteredActive "two" 2000 30000, .statusChanged "two" "up" "down", .pollingStopped "two",
        .rateLimited 2000 0, .backoffEnded 1, .enteredActive "one" 2000 30000] ∧
      (Record.ofLog log).mode "one" = .active ∧ (Record.ofLog log).mode "two" = .stopped ∧
      (Record.ofLog log).paused = false ∧ (Record.ofLog log).level = 1 ∧
      (Record.ofLog (log.take 6)).paused = true ∧ (Record.ofLog (log.take 6)).level = 1 := by
  intro log
  have hGate : pair.fleet.gate = (Gate.make []).1 := rfl
  have hNames : (pair.fleet.pollers.map Poller.name).Nodup := by decide
  have hAside : ∀ l ∈ Journal.lines (pair.noted aftermath), l.Aside := nofun
  obtain ⟨hModes, ⟨hPaused, hLevel, -⟩, hLines⟩ :=
    log_is_faithful pair_fresh hGate hNames aftermath hAside
  obtain ⟨p, q, hPollers, hp, hq⟩ : ∃ p q, (pair.after aftermath).fleet.pollers = [p, q] ∧
      (p.name = "one" ∧ p.mode = .active) ∧ (q.name = "two" ∧ q.mode = .stopped) :=
    ⟨_, _, rfl, ⟨rfl, rfl⟩, ⟨rfl, rfl⟩⟩
  rw [hPollers] at hModes
  have hOne := (hModes p List.mem_cons_self).1
  have hTwo := (hModes q (List.mem_cons_of_mem p List.mem_cons_self)).1
  rw [hp.1, hp.2] at hOne
  rw [hq.1, hq.2] at hTwo
  have hEnded := (hLines (log.take 6) (log.drop 7) (.backoffEnded 1) rfl).1
  exact ⟨rfl, hOne, hTwo, hPaused, hLevel, hEnded.2, hEnded.1.symm⟩

end Scene

end Polling

end Lookout
