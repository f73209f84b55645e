import Lookout.Proofs.Backoff.History

set_option autoImplicit false

/-! # How long a pause lasts

An overload signal promises a pause up to a certain time. What comes after it may move the
end of the pause: a further overload signal replaces it by an end of its own. As long as
overload signals follow each other the end only moves away, for the level goes up and the
schedule never decreases; and a reset leaves it where it is. So a pause whose overload
signals all came before its resets lasts as long as was promised (`promise_kept`).

It is another matter once a reset was followed by an overload signal. The reset has taken
the level back to zero, so the pause that replaces the one in progress is one of the first
entry of the schedule, and may end earlier than the one it replaces (`promise_broken`).
-/

namespace Lookout.Backoff

/-- A higher level has no shorter delay. -/
theorem Delays.delay_mono (d : Delays) {a b : Nat} (h : a ≤ b) : d.delay a ≤ d.delay b := by
  have hSorted := List.pairwise_iff_getElem.mp d.usable.2.2
  have hPlace : min a (d.toList.length - 1) ≤ min b (d.toList.length - 1) := by omega
  rcases Nat.eq_or_lt_of_le hPlace with hSame | hLess
  · -- Both levels are past the end of the schedule, or they are the same.
    unfold Delays.delay
    simp only [hSame]
    exact Nat.le_refl _
  · exact hSorted _ _ _ _ hLess

namespace History

/-- The signals are in order of time. -/
def Ordered (h : History) : Prop := h.Pairwise fun newer older => older.1 ≤ newer.1

/-- A run of commands keeps the order, since the clock never goes back. -/
theorem ordered_after {now : Nat} {h : History} (hOrdered : h.Ordered)
    (hPast : ∀ x ∈ h, x.1 ≤ now) (commands : List Command) : (h.after now commands).Ordered := by
  induction commands generalizing now h with
  | nil => exact hOrdered
  | cons c rest ih =>
      have hLater : ∀ ms, ∀ x ∈ h, x.1 ≤ now + ms :=
        fun ms x hx => Nat.le_trans (hPast x hx) (Nat.le_add_right now ms)
      cases c with
      | signal s =>
          refine ih (List.pairwise_cons.mpr ⟨hPast, hOrdered⟩) fun x hx => ?_
          rcases List.mem_cons.mp hx with rfl | hOld
          · exact Nat.le_refl now
          · exact hPast x hOld
      | advance ms => exact ih hOrdered (hLater ms)
      | jump ms => exact ih hOrdered (hLater ms)
      | look => exact ih hOrdered hPast

/-- Overload signals only take the level up. -/
theorem level_le_append {since : History} (h : History) (hSince : ∀ x ∈ since, x.2 = .trigger) :
    h.level ≤ level (since ++ h) := by
  induction since with
  | nil => exact Nat.le_refl _
  | cons x since ih =>
      have hFewer := ih fun y hy => hSince y (List.mem_cons_of_mem x hy)
      have hCapped : level (since ++ h) ≤ maxLevel := Nat.min_le_right _ _
      obtain ⟨t, s⟩ := x
      obtain rfl : s = .trigger := hSince _ List.mem_cons_self
      rw [List.cons_append, level_trigger]
      omega

/-- Resets do not move the end of a pause. -/
theorem resume?_append (d : Delays) {since : History} (h : History)
    (hSince : ∀ x ∈ since, x.2 = .reset) : resume? d (since ++ h) = resume? d h := by
  induction since with
  | nil => rfl
  | cons x since ih =>
      obtain ⟨t, s⟩ := x
      obtain rfl : s = .reset := hSince _ List.mem_cons_self
      rw [List.cons_append, resume?_reset]
      exact ih fun y hy => hSince y (List.mem_cons_of_mem _ hy)

/-- The end of a pause only moves away while overload signals follow each other. -/
theorem exists_resume?_le (d : Delays) {triggers earlier : History} {t : Nat}
    (hOrdered : Ordered (triggers ++ (t, .trigger) :: earlier))
    (hTriggers : ∀ x ∈ triggers, x.2 = .trigger) :
    ∃ r, t + d.delay earlier.level ≤ r ∧
      resume? d (triggers ++ (t, .trigger) :: earlier) = some r := by
  cases triggers with
  | nil => exact ⟨_, Nat.le_refl _, rfl⟩
  | cons x rest =>
      obtain ⟨t', s⟩ := x
      obtain rfl : s = .trigger := hTriggers _ List.mem_cons_self
      refine ⟨_, ?_, rfl⟩
      have hTime : t ≤ t' :=
        (List.pairwise_cons.mp hOrdered).1 (t, .trigger)
          (List.mem_append_right _ List.mem_cons_self)
      have hLevel : earlier.level ≤ level (rest ++ (t, .trigger) :: earlier) := by
        have hRest : ∀ x ∈ rest ++ [(t, Signal.trigger)], x.2 = .trigger := by
          intro x hx
          rcases List.mem_append.mp hx with hOld | hNew
          · exact hTriggers x (List.mem_cons_of_mem _ hOld)
          · rw [List.mem_singleton.mp hNew]
        simpa using level_le_append earlier hRest
      exact Nat.add_le_add hTime (d.delay_mono hLevel)

end History

/-- **A promised pause is kept through overload signals and then through resets.** Suppose
that after some run of commands from a new gate all signals since the overload signal at `t`
were first overload signals and then resets. Then the pause goes on up to a time `r` that is
no earlier than what the signal at `t` promised. -/
theorem promise_kept (delays : List Nat) (commands : List Command)
    {resets triggers earlier : History} {t : Nat}
    (hSplit : History.after 0 [] commands = resets ++ (triggers ++ (t, .trigger) :: earlier))
    (hResets : ∀ x ∈ resets, x.2 = .reset) (hTriggers : ∀ x ∈ triggers, x.2 = .trigger) :
    let c := Clocked.ran delays commands
    ∃ r, t + (Delays.ofList delays).delay earlier.level ≤ r ∧
      c.gate.resumeAt = if c.now < r then some r else none := by
  intro c
  obtain ⟨hFollows, -, hDelays, -⟩ := (Clocked.follows_start delays).run commands
  have hOrdered : (History.after 0 [] commands).Ordered := History.ordered_after .nil nofun commands
  rw [show (Clocked.start delays).now = 0 from rfl, hSplit] at hFollows
  rw [hSplit] at hOrdered
  obtain ⟨r, hLe, hResume⟩ := History.exists_resume?_le (Delays.ofList delays)
    (List.pairwise_append.mp hOrdered).2.1 hTriggers
  refine ⟨r, hLe, ?_⟩
  have hPause := hFollows.pause
  rw [hDelays, History.resume?_append _ _ hResets] at hPause
  calc c.gate.resumeAt
      = (some r).filter (c.now < ·) := hPause.trans (congrArg _ hResume)
    _ = if c.now < r then some r else none := by rw [Option.filter_some]; simp

/-- A pause that was prolonged, and lasts although a reset has come. -/
theorem promise_kept_prolonged :
    ∃ r, 4000 ≤ r ∧ (Clocked.ran [] [.signal .trigger, .advance 500, .signal .trigger,
      .advance 500, .signal .trigger, .signal .reset, .advance 2999]).gate.resumeAt = some r := by
  -- The signal at 500 was followed by an overload signal and then by a reset.
  have hSplit : History.after 0 [] [.signal .trigger, .advance 500, .signal .trigger,
      .advance 500, .signal .trigger, .signal .reset, .advance 2999]
      = [(1000, .reset)] ++ ([(1000, .trigger)] ++ (500, .trigger) :: [(0, .trigger)]) := rfl
  obtain ⟨r, hLe, hPause⟩ := promise_kept [] _ hSplit (by decide) (by decide)
  refine ⟨r, Nat.le_trans (by decide) hLe, hPause.trans (if_pos ?_)⟩
  exact Nat.lt_of_lt_of_le (by decide) hLe

/-- **A promised pause may be cut short** by an overload signal that follows a reset, though
nobody has lifted the pause by force. -/
theorem promise_broken :
    ¬ ∀ (delays : List Nat) (commands : List Command),
      (∀ x ∈ commands, x ≠ .signal .forceResume) →
      ∀ (since earlier : History) (t : Nat),
        History.after 0 [] commands = since ++ (t, .trigger) :: earlier →
        (Clocked.ran delays commands).now < t + (Delays.ofList delays).delay earlier.level →
        (Clocked.ran delays commands).gate.paused = true := by
  intro hKept
  -- The second signal promises a pause up to 4000; it is over at 2000.
  have hPaused := hKept [] [.signal .trigger, .signal .trigger, .signal .reset, .signal .trigger,
    .advance 2000] (by decide) [(0, .trigger), (0, .reset)] [(0, .trigger)] 0 rfl (by decide)
  revert hPaused
  decide

end Lookout.Backoff
