import Lookout.Proofs.Timer.Bench

set_option autoImplicit false

/-! # One timer among others

A run of a bench can be cut down to the moves that are about the timer of one handle
(`Bench.ownRun`). On a bench that never has another timer these moves do to it what the whole run
does among the others (`Bench.Only`): it fires at the same times.
-/

namespace Lookout.Timers.Bench

variable {α : Type}

/-- What of a move is about the timer of handle `h`. Time passes for every timer. -/
def own (b : Bench α) (h : Nat) : Move α → List (Move α)
  | .after delay action => if b.timers.made = h then [.after delay action] else []
  | .every period action => if b.timers.made = h then [.every period action] else []
  | .cancel handle => if handle = h then [.cancel handle] else []
  | .pass ms => [.pass ms]
  | .ring k => if b.fires h (.ring k) then [.ring 0] else []

/-- What of a run is about the timer of handle `h`. -/
def ownRun (b₀ : Bench α) (h : Nat) : List (Move α) → List (Move α)
  | [] => []
  | m :: past => (b₀.after past).own h m ++ b₀.ownRun h past

/-- A bench without timers, the first of which will have the handle `h`. -/
def alone (b₀ : Bench α) (h : Nat) : Bench α := { now := b₀.now, timers := { made := h } }

/-- On the bench `a` there is only the timer of handle `h`, as it is on `b`. -/
structure Only (a b : Bench α) (h : Nat) : Prop where
  now : a.now = b.now
  live : a.timers.live = b.timers.live.filter (·.handle = h)
  made : b.timers.made ≤ h → a.timers.made = h

theorem after_append (b₀ : Bench α) (newer past : List (Move α)) :
    b₀.after (newer ++ past) = (b₀.after past).after newer := by
  induction newer with
  | nil => rfl
  | cons m newer ih => exact congrArg (Bench.move · m) ih

theorem firings_append (b₀ : Bench α) (h : Nat) (newer past : List (Move α)) :
    b₀.firings h (newer ++ past) = (b₀.after past).firings h newer ++ b₀.firings h past := by
  induction newer with
  | nil => rfl
  | cons m newer ih =>
      rw [List.cons_append, firings, firings, after_append, ih]
      split <;> rfl

variable {a b : Bench α} {h : Nat}

/-- The making of a timer, seen by one. -/
theorem Only.add (hOnly : Only a b h) (period : Option Nat) (wait : Nat) (action : α)
    (hMine : b.timers.made = h) :
    Only { a with timers := a.timers.add (a.now + wait) period action }
      { b with timers := b.timers.add (b.now + wait) period action } h where
  now := hOnly.now
  live := by
    show a.timers.live ++ [Timer.mk a.timers.made (a.now + wait) period action] =
      (b.timers.live ++ [Timer.mk b.timers.made (b.now + wait) period action]).filter _
    rw [List.filter_append, List.filter_cons_of_pos (by simpa using hMine), List.filter_nil,
      hOnly.live, hOnly.now, hOnly.made hMine.le, hMine]
  made := fun hLess => absurd hLess (by show ¬ b.timers.made + 1 ≤ h; omega)

theorem Only.add_other (hOnly : Only a b h) (period : Option Nat) (deadline : Nat) (action : α)
    (hOther : b.timers.made ≠ h) :
    Only a { b with timers := b.timers.add deadline period action } h where
  now := hOnly.now
  live := by
    show _ = (b.timers.live ++ [Timer.mk b.timers.made deadline period action]).filter _
    rw [List.filter_append, List.filter_cons_of_neg (by simpa using hOther), List.filter_nil,
      List.append_nil, hOnly.live]
  made := fun hLess => hOnly.made (Nat.le_of_succ_le hLess)

theorem Only.cancel (hOnly : Only a b h) :
    Only { a with timers := a.timers.cancel h } { b with timers := b.timers.cancel h } h where
  now := hOnly.now
  live := by
    show a.timers.live.filter _ = (b.timers.live.filter _).filter _
    rw [hOnly.live, List.filter_comm]
  made := hOnly.made

theorem Only.cancel_other (hOnly : Only a b h) {handle : Nat} (hOther : handle ≠ h) :
    Only a { b with timers := b.timers.cancel handle } h where
  now := hOnly.now
  live := by
    show _ = (b.timers.live.filter _).filter _
    rw [List.filter_comm, hOnly.live, eq_comm, List.filter_eq_self]
    intro t ht
    have hHandle : t.handle = h := by simpa using (List.mem_filter.mp ht).2
    simpa [hHandle] using hOther.symm
  made := hOnly.made

/-- A firing of the timer of handle `h` is one on its own bench too. -/
theorem Only.fires (hOnly : Only a b h) (hb : b.Distinct) {k : Nat}
    (hFires : b.fires h (.ring k) = true) :
    Only (a.move (.ring 0)) (b.move (.ring k)) h ∧ a.fires h (.ring 0) = true := by
  obtain ⟨t, ht, rfl, hDue⟩ := fires_ring.mp hFires
  have hMem : t ∈ a.timers.live := by
    rw [hOnly.live]
    exact List.mem_filter.mpr ⟨List.mem_of_getElem? ht, by simp⟩
  have hAll : ∀ x ∈ a.timers.live, x = t := by
    intro x hx
    rw [hOnly.live] at hx
    obtain ⟨hLive, hSame⟩ := List.mem_filter.mp hx
    exact hb.eq hLive (List.mem_of_getElem? ht) (by simpa using hSame)
  have hFirst : a.timers.live[0]? = some t := by
    obtain ⟨x, rest, hLive⟩ := List.exists_cons_of_ne_nil (List.ne_nil_of_mem hMem)
    rw [hLive, List.getElem?_cons_zero, hAll x (hLive ▸ .head _)]
  have hDueAlone : t.deadline ≤ a.now := hOnly.now ▸ hDue
  refine ⟨?_, fires_ring.mpr ⟨t, hFirst, rfl, hDueAlone⟩⟩
  rw [move_ring hFirst hDueAlone, move_ring ht hDue]
  refine ⟨hOnly.now, ?_, hOnly.made⟩
  show (a.timers.afterFiring t a.now).live = (b.timers.afterFiring t b.now).live.filter _
  rw [filter_afterFiring, ← hOnly.live, hOnly.now]
  rfl

/-- Of any other firing its bench knows nothing. -/
theorem Only.silent (hOnly : Only a b h) {k : Nat} (hFires : b.fires h (.ring k) = false) :
    Only a (b.move (.ring k)) h := by
  rcases move_ring_cases b k with ⟨hSame, -⟩ | ⟨x, -, -, hRung, hWho⟩
  · rw [hSame]
    exact hOnly
  · have hOther : x.handle ≠ h := by simpa [hFires] using (hWho h).symm
    rw [hRung]
    refine ⟨hOnly.now, ?_, hOnly.made⟩
    show _ = (b.timers.afterFiring x b.now).live.filter _
    rw [filter_afterFiring, ← hOnly.live, afterFiring]
    refine Eq.symm ((List.filterMap_congr fun t ht => if_neg ?_).trans List.filterMap_some)
    rw [hOnly.live] at ht
    have hHandle : t.handle = h := by simpa using (List.mem_filter.mp ht).2
    exact fun hSame => hOther (hSame.symm.trans hHandle)

/-- **One move** is the same for the timer with and without the others. -/
theorem Only.move (hOnly : Only a b h) (hb : b.Distinct) (m : Move α) :
    Only (a.after (b.own h m)) (b.move m) h ∧
      a.firings h (b.own h m) = if b.fires h m then [b.now] else [] := by
  cases m with
  | after delay action =>
      rw [own]
      split
      next hMine => exact ⟨hOnly.add none delay action hMine, rfl⟩
      next hOther => exact ⟨hOnly.add_other none _ action hOther, rfl⟩
  | every period action =>
      rw [own]
      split
      next hMine => exact ⟨hOnly.add (some period) period action hMine, rfl⟩
      next hOther => exact ⟨hOnly.add_other (some period) _ action hOther, rfl⟩
  | cancel handle =>
      rw [own]
      split
      next hMine =>
        subst hMine
        exact ⟨hOnly.cancel, rfl⟩
      next hOther => exact ⟨hOnly.cancel_other hOther, rfl⟩
  | pass ms => exact ⟨⟨congrArg (· + ms) hOnly.now, hOnly.live, hOnly.made⟩, rfl⟩
  | ring k =>
      rw [own]
      split
      next hFires =>
        obtain ⟨hNext, hAlone⟩ := hOnly.fires hb hFires
        refine ⟨hNext, ?_⟩
        rw [firings, firings, after, if_pos hAlone, hOnly.now]
      next hSilent => exact ⟨hOnly.silent (Bool.eq_false_iff.mpr hSilent), rfl⟩

/-- **A run** is the same for the timer of handle `h` with and without the others: it fires at the
same times, and time passes continuously for it too. -/
theorem only_after {b₀ : Bench α} (hEmpty : b₀.timers.live = []) (h : Nat)
    (past : List (Move α)) :
    Only ((b₀.alone h).after (b₀.ownRun h past)) (b₀.after past) h ∧
      (b₀.alone h).firings h (b₀.ownRun h past) = b₀.firings h past := by
  induction past with
  | nil => exact ⟨⟨rfl, by rw [after, hEmpty]; rfl, fun _ => rfl⟩, rfl⟩
  | cons m past ih =>
      obtain ⟨hOnly, hFirings⟩ := ih
      obtain ⟨hNext, hFires⟩ := hOnly.move (distinct_after hEmpty past) m
      rw [ownRun, after_append, firings_append, hFires, hFirings]
      refine ⟨hNext, ?_⟩
      rw [firings]
      split <;> rfl

/-- A move holds one move for a timer, or none. -/
theorem own_cases (b : Bench α) (h : Nat) (m : Move α) :
    b.own h m = [] ∨ ∃ mine, b.own h m = [mine] := by
  cases m with
  | pass ms => exact .inr ⟨_, rfl⟩
  | after | every | cancel | ring =>
      rw [own]
      split
      next => exact .inr ⟨_, rfl⟩
      next => exact .inl rfl

theorem continuous_ownRun {b₀ : Bench α} (hEmpty : b₀.timers.live = []) (h : Nat)
    {past : List (Move α)} (hContinuous : b₀.Continuous past) :
    (b₀.alone h).Continuous (b₀.ownRun h past) := by
  induction past with
  | nil => trivial
  | cons m past ih =>
      have hNext := (only_after hEmpty h (m :: past)).1
      have hOnTime : ((b₀.alone h).after (b₀.ownRun h (m :: past))).OnTime := by
        intro t ht
        rw [hNext.live] at ht
        rw [hNext.now]
        exact hContinuous.2 t (List.mem_filter.mp ht).1
      rw [ownRun] at hOnTime ⊢
      rcases own_cases (b₀.after past) h m with hNone | ⟨mine, hOne⟩
      · rw [hNone]
        exact ih hContinuous.1
      · rw [hOne] at hOnTime ⊢
        exact ⟨ih hContinuous.1, hOnTime⟩

end Lookout.Timers.Bench
