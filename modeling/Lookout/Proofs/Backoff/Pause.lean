import Lookout.Backoff.Session

set_option autoImplicit false

/-! # The pause and its timer

A gate keeps two accounts of the pause in progress: `resumeAt` says when it ends, and a
timer is to end it. `Gate.Sound` says that the two agree. While the gate is paused exactly
one timer is live, the one whose handle the gate holds; it is due when the pause ends and
carries the current generation. Otherwise no timer is live.

Every operation keeps a gate sound, and what an operation does to level and pause is read
off in one lemma each; further on nobody unfolds an operation. `Gate.Later` compares two
gates of one history: either the generation has moved on, or the same timer is live still,
or it has done its work. Hence a timer that was replaced or cancelled does nothing any
more, even if it rings after all (`Later.autoResume_of_gone`).
-/

namespace Lookout.Backoff.Gate

/-- **The pause and its timer agree.** -/
inductive Sound (g : Gate) : Prop
  | running (resumeAt : g.resumeAt = none) (handle : g.resumeTimer = none)
      (live : g.timers.live = [])
  | paused (t h : Nat) (resumeAt : g.resumeAt = some t) (handle : g.resumeTimer = some h)
      (live : g.timers.live = [⟨h, t, none, g.generation⟩])

/-! ## What each operation does -/

@[simp] theorem trigger_level (g : Gate) (now : Nat) :
    (g.trigger now).1.level = min (g.level + 1) maxLevel := rfl

@[simp] theorem trigger_resumeAt (g : Gate) (now : Nat) :
    (g.trigger now).1.resumeAt = some (now + g.delays.delay g.level) := rfl

@[simp] theorem trigger_delays (g : Gate) (now : Nat) : (g.trigger now).1.delays = g.delays := rfl

@[simp] theorem trigger_generation (g : Gate) (now : Nat) :
    (g.trigger now).1.generation = g.generation + 1 := rfl

@[simp] theorem forceResume_level (g : Gate) : g.forceResume.1.level = 0 := rfl

@[simp] theorem forceResume_resumeAt (g : Gate) : g.forceResume.1.resumeAt = none := rfl

@[simp] theorem forceResume_delays (g : Gate) : g.forceResume.1.delays = g.delays := rfl

@[simp] theorem forceResume_generation (g : Gate) :
    g.forceResume.1.generation = g.generation + 1 := rfl

/-- A reset changes the level and what is published, and nothing else. -/
theorem reset_eq (g : Gate) :
    g.reset.1 = { g with level := 0, board := g.reset.1.board } := by
  unfold reset
  split
  · rfl
  · have hLevel : g.level = 0 := by omega
    rw [← hLevel]

@[simp] theorem reset_level (g : Gate) : g.reset.1.level = 0 := by rw [reset_eq]

@[simp] theorem reset_resumeAt (g : Gate) : g.reset.1.resumeAt = g.resumeAt := by rw [reset_eq]

@[simp] theorem reset_delays (g : Gate) : g.reset.1.delays = g.delays := by rw [reset_eq]

/-- No signal changes the schedule. -/
@[simp] theorem tell_delays (g : Gate) (now : Nat) (s : Signal) :
    (g.tell now s).1.delays = g.delays := by
  cases s with
  | trigger => exact g.trigger_delays now
  | reset => exact g.reset_delays
  | forceResume => exact g.forceResume_delays

/-! ## Every operation keeps a gate sound -/

theorem sound_make (delays : List Nat) : (make delays).1.Sound := .running rfl rfl rfl

/-- A sound gate that drops its timer has none left. -/
theorem Sound.live_disarm {g : Gate} (hg : g.Sound) : g.disarm.timers.live = [] := by
  cases hg with
  | running _ hHandle hLive => simp [disarm, Timers.cancel?, hHandle, hLive]
  | paused t h _ hHandle hLive => simp [disarm, Timers.cancel?, Timers.cancel, hHandle, hLive]

theorem Sound.trigger {g : Gate} (hg : g.Sound) (now : Nat) : (g.trigger now).1.Sound := by
  -- The timer of the pause before is dropped first, so the new one is alone.
  refine .paused (now + g.delays.delay g.level) g.disarm.timers.made rfl rfl ?_
  show g.disarm.timers.live ++ _ = _
  rw [hg.live_disarm]
  rfl

theorem Sound.reset {g : Gate} (hg : g.Sound) : g.reset.1.Sound := by
  rw [reset_eq]
  cases hg with
  | running hAt hHandle hLive => exact .running hAt hHandle hLive
  | paused t h hAt hHandle hLive => exact .paused t h hAt hHandle hLive

theorem Sound.forceResume {g : Gate} (hg : g.Sound) : g.forceResume.1.Sound :=
  .running rfl rfl hg.live_disarm

theorem Sound.tell {g : Gate} (hg : g.Sound) (now : Nat) (s : Signal) :
    (g.tell now s).1.Sound := by
  cases s with
  | trigger => exact hg.trigger now
  | reset => exact hg.reset
  | forceResume => exact hg.forceResume

/-! ## The resume timer -/

/-- The next timer of a sound gate is due when the pause ends, if there is one. -/
theorem Sound.due?_eq {g : Gate} (hg : g.Sound) : g.due? = g.resumeAt := by
  cases hg with
  | running hAt _ hLive => simp [due?, Timers.due?, Timers.next?, hLive, hAt, Timers.earliest]
  | paused t h hAt _ hLive => simp [due?, Timers.due?, Timers.next?, hLive, hAt, Timers.earliest]

/-- **The resume timer fires once the pause is over.** It ends the pause and leaves the
level, the schedule and the generation alone. -/
theorem Sound.fire?_of_due {g : Gate} (hg : g.Sound) {t now : Nat} (hAt : g.resumeAt = some t)
    (hDue : t ≤ now) :
    ∃ g' entries, g.fire? now = some (g', entries) ∧ g'.Sound ∧ g'.resumeAt = none ∧
      g'.level = g.level ∧ g'.delays = g.delays ∧ g'.generation = g.generation := by
  cases hg with
  | running hNone => rw [hNone] at hAt; cases hAt
  | paused t' h hAt' hHandle hLive =>
      -- There is one timer, so it is the one that fires, and it carries this generation.
      obtain rfl : t' = t := by rw [hAt'] at hAt; exact Option.some.inj hAt
      have hFire : g.timers.fire? now = some (g.generation, { g.timers with live := [] }) := by
        simp [Timers.fire?, Timers.next?, hLive, Timers.earliest, hDue, Timers.afterFiring,
          Timer.rearmed]
      have hResume : g.fire? now = some
          (autoResume { g with timers := { g.timers with live := [] } } g.generation) := by
        rw [fire?, hFire]; rfl
      rw [autoResume, if_pos ⟨rfl, by simp [hAt']⟩] at hResume
      refine ⟨_, _, hResume, .running rfl rfl ?_, rfl, rfl, rfl, rfl⟩
      simp [publish, Timers.cancel?, Timers.cancel, hHandle]

/-! ## Timers of the past -/

/-- `g'` comes after `g` in one history: its generation is a later one, or the pause of `g`
is over, or the timers are the same. -/
def Later (g g' : Gate) : Prop :=
  g.generation < g'.generation ∨
    (g.generation = g'.generation ∧
      (g'.resumeAt = none ∨ (g'.resumeAt = g.resumeAt ∧ g'.timers.live = g.timers.live)))

theorem Later.refl (g : Gate) : g.Later g := .inr ⟨rfl, .inr ⟨rfl, rfl⟩⟩

theorem Later.trans {g₁ g₂ g₃ : Gate} (h₁ : g₁.Later g₂) (h₂ : g₂.Later g₃) : g₁.Later g₃ := by
  -- A step to a later generation on either side settles it.
  rcases h₁ with hLt₁ | ⟨hEq₁, hSame₁⟩
  · rcases h₂ with hLt₂ | ⟨hEq₂, -⟩
    · exact .inl (Nat.lt_trans hLt₁ hLt₂)
    · exact .inl (hEq₂ ▸ hLt₁)
  · rcases h₂ with hLt₂ | ⟨hEq₂, hSame₂⟩
    · exact .inl (hEq₁ ▸ hLt₂)
    · refine .inr ⟨hEq₁.trans hEq₂, ?_⟩
      rcases hSame₂ with hOver | ⟨hAt, hLive⟩
      · exact .inl hOver
      · rcases hSame₁ with hOver | ⟨hAt', hLive'⟩
        · exact .inl (hAt.trans hOver)
        · exact .inr ⟨hAt.trans hAt', hLive.trans hLive'⟩

theorem Later.tell (g : Gate) (now : Nat) (s : Signal) : g.Later (g.tell now s).1 := by
  cases s with
  | trigger => exact .inl (by simp [Gate.tell])
  | reset =>
      show g.Later g.reset.1
      rw [reset_eq]
      exact .inr ⟨rfl, .inr ⟨rfl, rfl⟩⟩
  | forceResume => exact .inl (by simp [Gate.tell])

/-- A timer that was live once and is not any more does nothing if it rings after all: it
belongs to a generation that is over, or the pause it was to end has ended. -/
theorem Later.autoResume_of_gone {g g' : Gate} (hg : g.Sound) (hLater : g.Later g')
    {x : Timer Nat} (hx : x ∈ g.timers.live) (hGone : x ∉ g'.timers.live) :
    g'.autoResume x.action = (g', []) := by
  have hAction : x.action = g.generation := by
    cases hg with
    | running _ _ hLive => rw [hLive] at hx; cases hx
    | paused t h _ _ hLive =>
        rw [hLive, List.mem_singleton] at hx
        rw [hx]
  -- It would act only for the present generation and during a pause. But then the timers
  -- are those of `g`, and it would still be live.
  refine if_neg fun hActs => ?_
  rcases hLater with hLt | ⟨-, hOver | ⟨-, hLive⟩⟩
  · exact absurd (hActs.1.trans hAction) (Nat.ne_of_gt hLt)
  · simp [hOver] at hActs
  · exact hGone (hLive ▸ hx)

end Lookout.Backoff.Gate
