import Lookout.Proofs.Timer.Due

set_option autoImplicit false

/-! # Everything that can happen to timers

A `Bench` is a table of timers with a clock, and a `Move` is one thing that can happen to it: a
timer is made, one is cancelled by its handle, time passes, one that is due fires. Dropping a handle
is cancelling, and replacing a timer is making one and cancelling another. What a timer does when it
fires may again be moves of the bench, so they may also come between two firings at one instant.

Every list of moves, newest first, is a run. Time passes continuously in a run if no timer is ever
overdue (`Bench.Continuous`); in other runs the clock jumps. `Bench.firings` lists when the timer of
a handle fired in a run.
-/

namespace Lookout.Timers

variable {α : Type}

/-- Timers on a clock. -/
structure Bench (α : Type) where
  now : Nat := 0
  timers : Timers α := {}

/-- What can happen on a bench. -/
inductive Move (α : Type)
  | after (delay : Nat) (action : α)
  | every (period : Nat) (action : α)
  | cancel (handle : Nat)
  /-- The clock goes on. -/
  | pass (ms : Nat)
  /-- The `k`-th of the live timers fires, if it is due. -/
  | ring (k : Nat)

namespace Bench

/-- What a move makes of a bench. -/
def move (b : Bench α) : Move α → Bench α
  | .after delay action => { b with timers := b.timers.scheduleAfter b.now delay action }
  | .every period action => { b with timers := b.timers.scheduleEvery b.now period action }
  | .cancel handle => { b with timers := b.timers.cancel handle }
  | .pass ms => { b with now := b.now + ms }
  | .ring k =>
    match b.timers.live[k]? with
    | none => b
    | some t =>
      if t.deadline ≤ b.now then { b with timers := b.timers.afterFiring t b.now } else b

/-- Where a list of moves leads, the newest of them first. -/
def after (b : Bench α) : List (Move α) → Bench α
  | [] => b
  | m :: past => (b.after past).move m

/-- Whether the timer of handle `h` fires with a move. -/
def fires (b : Bench α) (h : Nat) : Move α → Bool
  | .ring k => b.timers.live[k]?.any fun t => t.handle == h && decide (t.deadline ≤ b.now)
  | .after .. | .every .. | .cancel _ | .pass _ => false

/-- When the timer of handle `h` fired in a run of moves, newest first. -/
def firings (b₀ : Bench α) (h : Nat) : List (Move α) → List Nat
  | [] => []
  | m :: past =>
    if (b₀.after past).fires h m then (b₀.after past).now :: b₀.firings h past
    else b₀.firings h past

/-- No timer is overdue. -/
def OnTime (b : Bench α) : Prop := b.timers.NotBefore b.now

/-- No timer is left to fire. -/
def Settled (b : Bench α) : Prop := b.timers.NotBefore (b.now + 1)

/-- Time passes continuously in a run of moves: the clock never runs past the deadline of a timer
that has yet to fire. -/
def Continuous (b₀ : Bench α) : List (Move α) → Prop
  | [] => True
  | m :: past => b₀.Continuous past ∧ (b₀.after (m :: past)).OnTime

instance (b : Bench α) : Decidable b.OnTime :=
  inferInstanceAs (Decidable (∀ t ∈ b.timers.live, b.now ≤ t.deadline))

instance (b : Bench α) : Decidable b.Settled :=
  inferInstanceAs (Decidable (∀ t ∈ b.timers.live, b.now + 1 ≤ t.deadline))

instance decidableContinuous (b₀ : Bench α) : (past : List (Move α)) → Decidable (b₀.Continuous past)
  | [] => .isTrue trivial
  | _ :: past => @instDecidableAnd _ _ (decidableContinuous b₀ past) inferInstance

theorem Continuous.onTime {b₀ : Bench α} (hEmpty : b₀.timers.live = []) {past : List (Move α)}
    (hContinuous : b₀.Continuous past) : (b₀.after past).OnTime := by
  cases past with
  | nil => intro t ht; rw [after, hEmpty] at ht; exact nomatch ht
  | cons m past => exact hContinuous.2

/-! ## The table after a firing -/

/-- A timer that is armed again keeps its handle. -/
theorem handle_of_rearmed {x y : Timer α} {now : Nat} (h : x.rearmed now = some y) :
    y.handle = x.handle := by
  obtain ⟨p, -, rfl⟩ := Option.map_eq_some_iff.mp h
  rfl

theorem mem_afterFiring {t : Timers α} {x y : Timer α} {now : Nat} :
    y ∈ (t.afterFiring x now).live ↔
      (∃ z ∈ t.live, z.handle = x.handle ∧ z.rearmed now = some y) ∨
        (y ∈ t.live ∧ y.handle ≠ x.handle) := by
  rw [afterFiring, List.mem_filterMap]
  constructor
  · rintro ⟨z, hz, hy⟩
    split at hy
    next hSame => exact .inl ⟨z, hz, hSame, hy⟩
    next hOther =>
      obtain rfl := Option.some.inj hy
      exact .inr ⟨hz, hOther⟩
  · rintro (⟨z, hz, hSame, hy⟩ | ⟨hy, hOther⟩)
    · exact ⟨z, hz, by rw [if_pos hSame, hy]⟩
    · exact ⟨y, hy, if_neg hOther⟩

/-- A firing makes no handle that was not there. -/
theorem handles_afterFiring (t : Timers α) (x : Timer α) (now : Nat) :
    ((t.afterFiring x now).live.map Timer.handle).Sublist (t.live.map Timer.handle) := by
  rw [afterFiring]
  induction t.live with
  | nil => exact .slnil
  | cons y rest ih =>
      rw [List.filterMap_cons]
      split
      next => exact ih.cons _
      next z hz =>
        have hHandle : z.handle = y.handle := by
          split at hz
          next => exact handle_of_rearmed hz
          next => rw [Option.some.inj hz]
        rw [List.map_cons, List.map_cons, hHandle]
        exact ih.cons_cons _

/-- Seen from the timer of one handle, a firing is one of that timer, or nothing. -/
theorem filter_afterFiring (t : Timers α) (x : Timer α) (now h : Nat) :
    (t.afterFiring x now).live.filter (·.handle = h)
      = (({ t with live := t.live.filter (·.handle = h) } : Timers α).afterFiring x now).live := by
  rw [afterFiring, afterFiring]
  induction t.live with
  | nil => rfl
  | cons y rest ih =>
      have hKept : ∀ z, (if y.handle = x.handle then y.rearmed now else some y) = some z →
          z.handle = y.handle := by
        intro z hz
        split at hz
        next => exact handle_of_rearmed hz
        next => rw [Option.some.inj hz]
      by_cases hMine : y.handle = h
      · rw [List.filter_cons_of_pos (by simpa using hMine), List.filterMap_cons, List.filterMap_cons]
        split
        next => exact ih
        next z hz =>
          rw [List.filter_cons_of_pos (by simpa using (hKept z hz).trans hMine)]
          exact congrArg (z :: ·) ih
      · rw [List.filter_cons_of_neg (by simpa using hMine), List.filterMap_cons]
        split
        next => exact ih
        next z hz =>
          rw [List.filter_cons_of_neg (by simpa [hKept z hz] using hMine)]
          exact ih

/-! ## Handles are never given twice -/

/-- The handles of the live timers are all different, and none of them is yet to be given. -/
structure Distinct (b : Bench α) : Prop where
  nodup : (b.timers.live.map Timer.handle).Nodup
  made : ∀ t ∈ b.timers.live, t.handle < b.timers.made

/-- One handle belongs to one timer. -/
theorem Distinct.eq {b : Bench α} (hb : b.Distinct) {t t' : Timer α} (ht : t ∈ b.timers.live)
    (ht' : t' ∈ b.timers.live) (hSame : t.handle = t'.handle) : t = t' :=
  List.inj_on_of_nodup_map hb.nodup ht ht' hSame

theorem Distinct.add {b : Bench α} (hb : b.Distinct) (deadline : Nat) (period : Option Nat)
    (action : α) :
    Distinct { b with timers := b.timers.add deadline period action } where
  nodup := by
    show ((b.timers.live ++ [_]).map Timer.handle).Nodup
    rw [List.map_append, List.map_singleton, List.nodup_append]
    refine ⟨hb.nodup, List.nodup_singleton _, fun x hx y hy hSame => ?_⟩
    obtain ⟨t, ht, rfl⟩ := List.mem_map.mp hx
    have hOlder := hb.made t ht
    rw [hSame, List.mem_singleton.mp hy] at hOlder
    exact Nat.lt_irrefl _ hOlder
  made := by
    intro t ht
    rcases List.mem_append.mp ht with hOld | hNew
    · exact Nat.lt_succ_of_lt (hb.made t hOld)
    · rw [List.mem_singleton.mp hNew]
      exact Nat.lt_succ_self _

theorem Distinct.sub {b : Bench α} (hb : b.Distinct) {t : Timers α}
    (hHandles : (t.live.map Timer.handle).Sublist (b.timers.live.map Timer.handle))
    (hMade : t.made = b.timers.made) : Distinct { b with timers := t } where
  nodup := hHandles.nodup hb.nodup
  made := by
    intro x hx
    obtain ⟨y, hy, hSame⟩ := List.mem_map.mp (hHandles.subset (List.mem_map_of_mem hx))
    show x.handle < t.made
    rw [hMade, ← hSame]
    exact hb.made y hy

theorem Distinct.move {b : Bench α} (hb : b.Distinct) (m : Move α) : (b.move m).Distinct := by
  cases m with
  | after delay action => exact hb.add _ _ _
  | every period action => exact hb.add _ _ _
  | cancel handle => exact hb.sub (List.filter_sublist.map _) rfl
  | pass ms => exact ⟨hb.nodup, hb.made⟩
  | ring k =>
      rw [Bench.move]
      split
      next => exact hb
      next t _ =>
        split
        next => exact hb.sub (handles_afterFiring _ _ _) rfl
        next => exact hb

/-- **Handles stay distinct** in every run from a bench without timers. -/
theorem distinct_after {b₀ : Bench α} (hEmpty : b₀.timers.live = []) (past : List (Move α)) :
    (b₀.after past).Distinct := by
  induction past with
  | nil => exact ⟨by rw [after, hEmpty]; exact .nil, by rw [after, hEmpty]; exact nofun⟩
  | cons m past ih => exact ih.move m

/-- A firing that is due, and whose it is. -/
theorem fires_ring {b : Bench α} {h k : Nat} :
    b.fires h (.ring k) = true ↔
      ∃ t, b.timers.live[k]? = some t ∧ t.handle = h ∧ t.deadline ≤ b.now := by
  rw [fires]
  cases b.timers.live[k]? with
  | none => simp
  | some t => simp

/-- A timer that is due rings. -/
theorem move_ring {b : Bench α} {k : Nat} {t : Timer α} (ht : b.timers.live[k]? = some t)
    (hDue : t.deadline ≤ b.now) :
    b.move (.ring k) = { b with timers := b.timers.afterFiring t b.now } := by
  simp only [Bench.move, ht, if_pos hDue]

/-- What rings is a timer that is due, or nothing. -/
theorem move_ring_cases (b : Bench α) (k : Nat) :
    b.move (.ring k) = b ∧ (∀ h, b.fires h (.ring k) = false) ∨
      ∃ t, b.timers.live[k]? = some t ∧ t.deadline ≤ b.now ∧
        b.move (.ring k) = { b with timers := b.timers.afterFiring t b.now } ∧
        ∀ h, b.fires h (.ring k) = decide (t.handle = h) := by
  cases ht : b.timers.live[k]? with
  | none => exact .inl ⟨by simp only [Bench.move, ht], fun h => by simp [fires, ht]⟩
  | some t =>
      by_cases hDue : t.deadline ≤ b.now
      · refine .inr ⟨t, rfl, hDue, move_ring ht hDue, fun h => ?_⟩
        simp only [fires, ht, Option.any_some, decide_eq_true hDue, Bool.and_true]
        exact Bool.beq_eq_decide_eq _ _
      · exact .inl ⟨by simp only [Bench.move, ht, if_neg hDue], fun h => by simp [fires, ht, hDue]⟩

end Bench

end Lookout.Timers
