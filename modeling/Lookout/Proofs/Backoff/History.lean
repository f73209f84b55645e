import Mathlib.Algebra.Ring.Nat
import Lookout.Proofs.Backoff.Pause

set_option autoImplicit false

/-! # The gate as a function of what it was told

A `History` is the list of the signals a gate was told, each with its time, newest first.
Pure functions of it say all there is to say about the gate: `triggers` counts the overload
signals since the last reset or forced resume, `level` is that count, held at the highest
level there is, and `resume?` is when the pause of the last overload signal ends.

`Clocked.Follows` is the invariant of a gate on a clock: its level is that of the history,
and it is paused for as long as the history says. Every command keeps it
(`Follows.perform`), with `History.after` telling how the history grows.
`gate_follows_history` is what this comes to for a whole run of a new gate.
-/

namespace Lookout.Backoff

/-- How much time a command takes. -/
def Command.duration : Command → Nat
  | .advance ms => ms
  | .jump ms => ms
  | .signal _ => 0
  | .look => 0

/-- Signals with the times at which they came, newest first. -/
abbrev History := List (Nat × Signal)

namespace History

/-- How many overload signals have come since the last reset or forced resume. -/
def triggers : History → Nat
  | [] => 0
  | (_, .trigger) :: earlier => triggers earlier + 1
  | (_, .reset) :: _ => 0
  | (_, .forceResume) :: _ => 0

/-- The level: the count of overload signals, which stays at the highest level there is. -/
def level (h : History) : Nat := min h.triggers maxLevel

/-- When the pause that a history asks for ends: that of the last overload signal, unless
the pause was lifted by force after it. -/
def resume? (d : Delays) : History → Option Nat
  | [] => none
  | (t, .trigger) :: earlier => some (t + d.delay (level earlier))
  | (_, .reset) :: earlier => resume? d earlier
  | (_, .forceResume) :: _ => none

/-- The history after a run of commands that begins at `now`. -/
def after (now : Nat) (h : History) : List Command → History
  | [] => h
  | .signal s :: rest => after now ((now, s) :: h) rest
  | .advance ms :: rest => after (now + ms) h rest
  | .jump ms :: rest => after (now + ms) h rest
  | .look :: rest => after now h rest

theorem after_cons (now : Nat) (h : History) (x : Command) (rest : List Command) :
    h.after now (x :: rest) = (h.after now [x]).after (now + x.duration) rest := by
  cases x with
  | signal s => rfl
  | advance ms => rfl
  | jump ms => rfl
  | look => rfl

@[simp] theorem level_trigger (t : Nat) (h : History) :
    level ((t, .trigger) :: h) = min (h.level + 1) maxLevel := by
  simp only [level, triggers]
  omega

@[simp] theorem level_reset (t : Nat) (h : History) : level ((t, .reset) :: h) = 0 := rfl

@[simp] theorem level_forceResume (t : Nat) (h : History) :
    level ((t, .forceResume) :: h) = 0 := rfl

@[simp] theorem resume?_trigger (d : Delays) (t : Nat) (h : History) :
    resume? d ((t, .trigger) :: h) = some (t + d.delay h.level) := rfl

@[simp] theorem resume?_reset (d : Delays) (t : Nat) (h : History) :
    resume? d ((t, .reset) :: h) = resume? d h := rfl

@[simp] theorem resume?_forceResume (d : Delays) (t : Nat) (h : History) :
    resume? d ((t, .forceResume) :: h) = none := rfl

/-- The pause of the last overload signal lasts unless it was lifted by force since. -/
theorem resume?_of_last {d : Delays} {since earlier : History} {t : Nat}
    (hLast : ∀ x ∈ since, x.2 ≠ .trigger) :
    resume? d (since ++ (t, .trigger) :: earlier)
      = if ∀ x ∈ since, x.2 ≠ .forceResume then some (t + d.delay (level earlier)) else none := by
  -- On what has come since: a reset is passed over, a forced resume settles it.
  induction since with
  | nil => simp
  | cons x since ih =>
      have hLast' : ∀ y ∈ since, y.2 ≠ .trigger := fun y hy => hLast y (List.mem_cons_of_mem _ hy)
      obtain ⟨t', s⟩ := x
      cases s with
      | trigger => exact absurd rfl (hLast (t', .trigger) List.mem_cons_self)
      | reset =>
          have hSame : (∀ y ∈ (t', Signal.reset) :: since, y.2 ≠ .forceResume)
              = ∀ y ∈ since, y.2 ≠ .forceResume := by
            simp
          rw [List.cons_append, resume?_reset, ih hLast']
          exact ite_congr hSame.symm (fun _ => rfl) fun _ => rfl
      | forceResume =>
          rw [if_neg fun hAll => hAll (t', .forceResume) List.mem_cons_self rfl]
          rfl

/-- No overload signal, no pause. -/
theorem resume?_of_calm {d : Delays} {h : History} (hCalm : ∀ x ∈ h, x.2 ≠ .trigger) :
    resume? d h = none := by
  induction h with
  | nil => rfl
  | cons x earlier ih =>
      have hCalm' : ∀ y ∈ earlier, y.2 ≠ .trigger :=
        fun y hy => hCalm y (List.mem_cons_of_mem _ hy)
      obtain ⟨t, s⟩ := x
      cases s with
      | trigger => exact absurd rfl (hCalm (t, .trigger) List.mem_cons_self)
      | reset => exact ih hCalm'
      | forceResume => rfl

end History

/-! ## Letting time pass -/

namespace Clocked

/-- **What falls due by `target`.** The pause is over if it ends by then; nothing else
happens to the gate. -/
theorem runTo_spec {c : Clocked} (hc : c.gate.Sound) (target : Nat) :
    (c.runTo target).now = target ∧ (c.runTo target).gate.Sound ∧
      (c.runTo target).gate.level = c.gate.level ∧
      (c.runTo target).gate.delays = c.gate.delays ∧
      (c.runTo target).gate.resumeAt = c.gate.resumeAt.filter (target < ·) ∧
      c.gate.Later (c.runTo target).gate := by
  have hDue := hc.due?_eq
  cases hAt : c.gate.resumeAt with
  | none =>
      have hIdle : step? target c = none := by simp [step?, hDue, hAt]
      rw [runTo, exhaust_of_none hIdle]
      exact ⟨rfl, hc, rfl, rfl, hAt, .refl _⟩
  | some t =>
      by_cases hLe : t ≤ target
      · -- The resume timer fires once, and no other timer is left.
        obtain ⟨g, entries, hFire, hg, hNone, hLevel, hDelays, hGeneration⟩ :=
          hc.fire?_of_due hAt (Nat.le_max_right c.now t)
        have hStep : step? target c =
            some (({ c with now := max c.now t } : Clocked).put (g, entries)) := by
          simp only [step?, hDue, hAt, if_pos hLe, hFire, Option.map_some]
        have hIdle : step? target (({ c with now := max c.now t } : Clocked).put (g, entries))
            = none := by
          simp [step?, put, hg.due?_eq, hNone]
        rw [runTo, exhaust_of_some hStep, exhaust_of_none hIdle]
        refine ⟨rfl, hg, hLevel, hDelays, ?_, .inr ⟨hGeneration.symm, .inl hNone⟩⟩
        have hOver : ¬ target < t := by omega
        simp [put, hNone, Option.filter_some, hOver]
      · -- The pause lasts beyond `target`, and nothing is due before.
        have hIdle : step? target c = none := by simp [step?, hDue, hAt, hLe]
        rw [runTo, exhaust_of_none hIdle]
        have hOn : target < t := by omega
        exact ⟨rfl, hc, rfl, rfl, by simp [hAt, Option.filter_some, hOn], .refl _⟩

/-! ## The invariant -/

/-- **A gate on a clock follows a history.** Its level is the history's, and it is paused
for as long as the history says. -/
structure Follows (c : Clocked) (h : History) : Prop where
  sound : c.gate.Sound
  level : c.gate.level = h.level
  pause : c.gate.resumeAt = (h.resume? c.gate.delays).filter (c.now < ·)

theorem follows_start (delays : List Nat) : (start delays).Follows [] where
  sound := Gate.sound_make delays
  level := rfl
  pause := rfl

/-- A gate that was told a signal follows the history with that signal, before anything
falls due. -/
theorem Follows.tell {c : Clocked} {h : History} (hc : c.Follows h) (s : Signal) :
    (c.put (c.gate.tell c.now s)).Follows ((c.now, s) :: h) := by
  obtain ⟨hSound, hLevel, hPause⟩ := hc
  refine ⟨hSound.tell c.now s, ?_, ?_⟩
  · cases s with
    | trigger => simp [put, Gate.tell, hLevel]
    | reset => simp [put, Gate.tell]
    | forceResume => simp [put, Gate.tell]
  · show (c.gate.tell c.now s).1.resumeAt
        = (History.resume? (c.gate.tell c.now s).1.delays ((c.now, s) :: h)).filter (c.now < ·)
    rw [Gate.tell_delays]
    cases s with
    | trigger =>
        -- No delay is zero, so the pause that begins now is still ahead.
        have hPos := c.gate.delays.delay_pos h.level
        simp [Gate.tell, hLevel, Option.filter_some, hPos]
    | reset => exact c.gate.reset_resumeAt.trans hPause
    | forceResume => simp [Gate.tell]

/-- Time passes, and whether the clock moved before or while things fell due, the pause of
the history is over if it has ended by then. -/
theorem Follows.runTo {c : Clocked} {h : History} (hc : c.Follows h) (c' : Clocked)
    (hGate : c'.gate = c.gate) {target : Nat} (hTarget : c.now ≤ target) :
    (c'.runTo target).Follows h := by
  obtain ⟨hSound, hLevel, hPause⟩ := hc
  rw [← hGate] at hSound hLevel hPause
  obtain ⟨hNow, hSound', hLevel', hDelays', hAt', -⟩ := runTo_spec hSound target
  refine ⟨hSound', hLevel'.trans hLevel, ?_⟩
  -- What is still ahead at `target` was so at `c.now`, so only `target` matters.
  rw [hAt', hPause, hNow, hDelays', Option.filter_filter]
  cases h.resume? c'.gate.delays with
  | none => rfl
  | some t =>
      by_cases hOn : target < t
      · have hBefore : c.now < t := by omega
        simp [Option.filter_some, hOn, hBefore]
      · simp [Option.filter_some, hOn]

/-- **One command.** It takes its time, the history grows by what it tells the gate, and
what was pending before is pending still, over, or replaced. -/
theorem Follows.perform {c : Clocked} {h : History} (hc : c.Follows h) (x : Command) :
    (c.perform x).Follows (h.after c.now [x]) ∧ (c.perform x).now = c.now + x.duration ∧
      (c.perform x).gate.delays = c.gate.delays ∧ c.gate.Later (c.perform x).gate := by
  cases x with
  | signal s =>
      have hTold := hc.tell s
      obtain ⟨hNow, -, -, hDelays, -, hLater⟩ := runTo_spec hTold.sound c.now
      exact ⟨hTold.runTo _ rfl (Nat.le_refl _), hNow, hDelays.trans (Gate.tell_delays _ _ _),
        (Gate.Later.tell _ _ _).trans hLater⟩
  | advance ms =>
      obtain ⟨hNow, -, -, hDelays, -, hLater⟩ := runTo_spec hc.sound (c.now + ms)
      exact ⟨hc.runTo c rfl (Nat.le_add_right _ _), hNow, hDelays, hLater⟩
  | jump ms =>
      obtain ⟨hNow, -, -, hDelays, -, hLater⟩ :=
        runTo_spec (show ({ c with now := c.now + ms } : Clocked).gate.Sound from hc.sound)
          (c.now + ms)
      exact ⟨hc.runTo { c with now := c.now + ms } rfl (Nat.le_add_right _ _), hNow, hDelays,
        hLater⟩
  | look => exact ⟨hc, rfl, rfl, .refl _⟩

/-- **A run of commands.** -/
theorem Follows.run {c : Clocked} {h : History} (hc : c.Follows h) (commands : List Command) :
    (commands.foldl Clocked.perform c).Follows (h.after c.now commands) ∧
      (commands.foldl Clocked.perform c).now = c.now + (commands.map Command.duration).sum ∧
      (commands.foldl Clocked.perform c).gate.delays = c.gate.delays ∧
      c.gate.Later (commands.foldl Clocked.perform c).gate := by
  induction commands generalizing c h with
  | nil => exact ⟨hc, rfl, rfl, .refl _⟩
  | cons x rest ih =>
      obtain ⟨hFollows, hNow, hDelays, hLater⟩ := hc.perform x
      obtain ⟨hFollows', hNow', hDelays', hLater'⟩ := ih hFollows
      refine ⟨?_, ?_, hDelays'.trans hDelays, hLater.trans hLater'⟩
      · rw [History.after_cons, ← hNow]
        exact hFollows'
      · calc ((x :: rest).foldl Clocked.perform c).now
            = (c.perform x).now + (rest.map Command.duration).sum := hNow'
          _ = c.now + x.duration + (rest.map Command.duration).sum := by rw [hNow]
          _ = c.now + ((x :: rest).map Command.duration).sum := by
              rw [List.map_cons, List.sum_cons, Nat.add_assoc]

/-- A gate on a clock after a run of commands, from a new gate on. -/
def ran (delays : List Nat) (commands : List Command) : Clocked :=
  commands.foldl perform (start delays)

end Clocked

/-! ## The refinement -/

/-- The schedule in effect is the given one if that is usable, else the default one. -/
theorem Delays.ofList_eq (delays : List Nat) :
    (Delays.ofList delays).toList = if Usable delays then delays else defaultDelays := by
  unfold Delays.ofList
  split <;> rfl

/-- The delay at a level is the entry of the schedule at that place, or the last one. -/
theorem Delays.getElem?_eq_delay (d : Delays) (level : Nat) :
    d.toList[min level (d.toList.length - 1)]? = some (d.delay level) :=
  List.getElem?_eq_getElem _

/-- **The gate is a function of its history.** After any run of commands from a new gate
the level is the number of overload signals since the last reset or forced resume, held at
the highest level. If the last overload signal came at `t`, after `earlier`, then the pause
it started ends at `t + w`, where `w` is the entry of the schedule in effect that the level
of `earlier` points to; the place always exists, and as long as the schedule is not longer
than there are levels it is that of the plain number of signals. The gate is paused exactly
if no forced resume has come since and that time is still ahead. A timer that was live at
any earlier point of the run and is not live any more would do nothing if it still rang. -/
theorem gate_follows_history (delays : List Nat) (commands : List Command) :
    let c := Clocked.ran delays commands
    let h := History.after 0 [] commands
    let schedule := if Usable delays then delays else defaultDelays
    c.now = (commands.map Command.duration).sum ∧
    c.gate.level = min h.triggers maxLevel ∧
    c.gate.paused = c.gate.resumeAt.isSome ∧
    (∀ (since earlier : History) (t : Nat), h = since ++ (t, .trigger) :: earlier →
      (∀ x ∈ since, x.2 ≠ .trigger) →
      ∃ w, schedule[min earlier.level (schedule.length - 1)]? = some w ∧
        (schedule.length ≤ maxLevel + 1 →
          schedule[min earlier.triggers (schedule.length - 1)]? = some w) ∧
        c.gate.resumeAt =
          if (∀ x ∈ since, x.2 ≠ .forceResume) ∧ c.now < t + w then some (t + w) else none) ∧
    ((∀ x ∈ h, x.2 ≠ .trigger) → c.gate.resumeAt = none) ∧
    (∀ before rest, commands = before ++ rest →
      ∀ x ∈ (Clocked.ran delays before).gate.timers.live, x ∉ c.gate.timers.live →
        c.gate.autoResume x.action = (c.gate, [])) := by
  intro c h schedule
  obtain ⟨hFollows, hNow, hDelays, -⟩ := (Clocked.follows_start delays).run commands
  have hSchedule : c.gate.delays.toList = schedule := by
    rw [show schedule = _ from (Delays.ofList_eq delays).symm]
    exact congrArg Delays.toList hDelays
  have hPause : c.gate.resumeAt = (h.resume? c.gate.delays).filter (c.now < ·) := hFollows.pause
  refine ⟨hNow.trans (Nat.zero_add _), hFollows.level, rfl, ?_, ?_, ?_⟩
  · -- the pause of the last overload signal
    intro since earlier t hSplit hLast
    refine ⟨c.gate.delays.delay earlier.level, ?_, ?_, ?_⟩
    · rw [← hSchedule]
      exact c.gate.delays.getElem?_eq_delay earlier.level
    · -- Beyond the highest level the place is the last one, for the count as for the level.
      intro hShort
      rw [← hSchedule] at hShort ⊢
      have hPlace : min earlier.triggers (c.gate.delays.toList.length - 1)
          = min earlier.level (c.gate.delays.toList.length - 1) := by
        unfold History.level
        omega
      rw [hPlace]
      exact c.gate.delays.getElem?_eq_delay earlier.level
    · rw [hPause, hSplit, History.resume?_of_last hLast]
      by_cases hLifted : ∀ x ∈ since, x.2 ≠ .forceResume
      · rw [if_pos hLifted, Option.filter_some]
        by_cases hOn : c.now < t + c.gate.delays.delay earlier.level
        · rw [if_pos (decide_eq_true hOn), if_pos ⟨hLifted, hOn⟩]
        · rw [if_neg (by simpa using hOn), if_neg fun hBoth => hOn hBoth.2]
      · rw [if_neg hLifted, if_neg (fun hBoth => hLifted hBoth.1), Option.filter_none]
  · -- no overload signal at all
    intro hCalm
    rw [hPause, History.resume?_of_calm hCalm]
    rfl
  · -- timers that were replaced or cancelled
    intro before rest hSplit x hx hGone
    obtain ⟨hFollows', -, -, -⟩ := (Clocked.follows_start delays).run before
    obtain ⟨-, -, -, hLater⟩ := hFollows'.run rest
    have hEnd : c = rest.foldl Clocked.perform (Clocked.ran delays before) := by
      show Clocked.ran delays commands = _
      rw [hSplit, Clocked.ran, List.foldl_append]
      rfl
    rw [hEnd] at hGone ⊢
    exact hLater.autoResume_of_gone hFollows'.sound hx hGone

end Lookout.Backoff
