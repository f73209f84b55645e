import Mathlib.Algebra.Order.Floor.Div
import Mathlib.GroupTheory.GroupAction.Ring
import Mathlib.Order.Bounds.Basic
import Lookout.Proofs.Backoff.Promise

set_option autoImplicit false

/-! # How long a pause still lasts

A gate that is paused shows how many seconds are left. The count is rounded up, so that it
never shows zero while the pause goes on, and it is kept in 64 bits, so that it is right only
as long as no pause is too long for them. `Gate.Pending` says what a gate has to do for that:
the end of its pause is ahead, and no further away than the last entry of its schedule. A gate
that follows a history of the past is so (`History.resume?_le`), and of such a gate the count
agrees with the pause in every respect (`Gate.Counts`, from `Pending.counts`).
-/

namespace Lookout.Backoff

/-! ## The longest delay -/

/-- No delay of a schedule is longer than the last. -/
theorem Delays.delay_le_last (d : Delays) (level : Nat) : d.delay level ≤ d.last := by
  have hLast : d.delay (max level d.toList.length) = d.last := by
    have hPlace : min (max level d.toList.length) (d.toList.length - 1) = d.toList.length - 1 := by
      omega
    unfold delay last
    simp only [hPlace, List.get_eq_getElem]
    exact (List.getLast_eq_getElem d.usable.1).symm
  rw [← hLast]
  exact d.delay_mono (Nat.le_max_left _ _)

/-- The pause that a history of the past asks for ends no later than its longest delay from
now. -/
theorem History.resume?_le {d : Delays} {h : History} {now r : Nat} (hPast : ∀ x ∈ h, x.1 ≤ now)
    (hEnd : h.resume? d = some r) : r ≤ now + d.last := by
  induction h with
  | nil => cases hEnd
  | cons x earlier ih =>
      obtain ⟨t, s⟩ := x
      cases s with
      | trigger =>
          obtain rfl := Option.some.inj hEnd
          have hTime : t ≤ now := hPast (t, .trigger) List.mem_cons_self
          exact Nat.add_le_add hTime (d.delay_le_last (level earlier))
      | reset => exact ih (fun y hy => hPast y (List.mem_cons_of_mem _ hy)) hEnd
      | forceResume => cases hEnd

/-- After a run of commands everything a gate was told is past. -/
theorem History.le_of_mem_after {now : Nat} {h : History} (hPast : ∀ x ∈ h, x.1 ≤ now)
    (commands : List Command) :
    ∀ x ∈ h.after now commands, x.1 ≤ now + (commands.map Command.duration).sum := by
  induction commands generalizing now h with
  | nil => exact hPast
  | cons c rest ih =>
      have hNext : ∀ x ∈ h.after now [c], x.1 ≤ now + c.duration := by
        cases c with
        | signal s => exact List.forall_mem_cons.mpr ⟨Nat.le_refl now, hPast⟩
        | advance ms | jump ms => exact fun x hx => Nat.le_add_right_of_le (hPast x hx)
        | look => exact hPast
      rw [after_cons, List.map_cons, List.sum_cons, ← Nat.add_assoc]
      exact ih hNext

/-! ## The count of seconds -/

namespace Gate

variable {g : Gate} {now : Nat}

/-- **The end of the pause is ahead**, and no further away than the longest delay. -/
structure Pending (g : Gate) (now : Nat) : Prop where
  ahead : ∀ t, g.resumeAt = some t → now < t
  near : ∀ t, g.resumeAt = some t → t ≤ now + g.delays.last

/-- **The seconds that are shown agree with the pause.** -/
structure Counts (g : Gate) (now : Nat) : Prop where
  /-- Some are left exactly while the gate is paused. -/
  pos_iff : 0 < g.remainingSeconds now ↔ g.paused = true
  /-- They are the least number of seconds that reaches the end of the pause. -/
  least : ∀ t, g.resumeAt = some t → IsLeast {n | t ≤ now + n * 1000} (g.remainingSeconds now)
  /-- They are no more than the longest delay has. -/
  bound : g.remainingSeconds now ≤ g.delays.last ⌈/⌉ 1000
  /-- None of them is lost in 64 bits. -/
  whole : ∀ t, g.resumeAt = some t →
    g.remainingSeconds now = ((t - now) * 1000000) ⌈/⌉ 1000000000
  /-- Neither is anything of a delay. -/
  delays : ∀ d ∈ g.delays.toList, d % UInt64.size = d

/-- As long as 64 bits are enough, the seconds are the milliseconds that are left, rounded up. -/
theorem remainingSeconds_eq {t : Nat} (hAt : g.resumeAt = some t)
    (hShort : t - now < UInt64.size) :
    g.remainingSeconds now = ((t - now) * 1000000) ⌈/⌉ 1000000000 := by
  have hCeil : ((t - now) * 1000000) ⌈/⌉ 1000000000
      = ((t - now) * 1000000 + 999999999) / 1000000000 := by
    rw [Nat.ceilDiv_eq_add_pred_div]
    omega
  have hWord : ((t - now) * 1000000 + 999999999) / 1000000000 < UInt64.size := by
    unfold UInt64.size at hShort ⊢
    omega
  rw [remainingSeconds, hAt, hCeil]
  exact Nat.mod_eq_of_lt hWord

/-- A gate whose pause is ahead counts its seconds right, if its delays have room in 64 bits. -/
theorem Pending.counts (h : g.Pending now) (hWords : ∀ d ∈ g.delays.toList, d < UInt64.size) :
    g.Counts now := by
  have hLast : g.delays.last < UInt64.size := hWords _ (List.getLast_mem g.delays.usable.1)
  have hWhole : ∀ t, g.resumeAt = some t →
      g.remainingSeconds now = ((t - now) * 1000000) ⌈/⌉ 1000000000 := by
    intro t hAt
    have hNear := h.near t hAt
    exact remainingSeconds_eq hAt (by omega)
  have hDelays : ∀ d ∈ g.delays.toList, d % UInt64.size = d :=
    fun d hd => Nat.mod_eq_of_lt (hWords d hd)
  cases hAt : g.resumeAt with
  | none =>
      have hZero : g.remainingSeconds now = 0 := by rw [remainingSeconds, hAt]
      have hFree : g.paused = false := by rw [paused, hAt]; rfl
      exact ⟨by simp [hZero, hFree], by simp [hAt], by simp [hZero], hWhole, hDelays⟩
  | some t =>
      have hAhead := h.ahead t hAt
      have hNear := h.near t hAt
      have hPaused : g.paused = true := by rw [paused, hAt]; rfl
      have hSeconds := hWhole t hAt
      rw [Nat.ceilDiv_eq_add_pred_div] at hSeconds
      refine ⟨?_, fun t' hAt' => ?_, ?_, hWhole, hDelays⟩
      · have hPos : 0 < g.remainingSeconds now := by omega
        simp [hPos, hPaused]
      · obtain rfl : t = t' := Option.some.inj (hAt.symm.trans hAt')
        refine ⟨?_, fun n hn => ?_⟩
        · show t ≤ now + g.remainingSeconds now * 1000
          omega
        · have hEnough : t ≤ now + n * 1000 := hn
          omega
      · rw [Nat.ceilDiv_eq_add_pred_div]
        omega

/-- While the end of a pause stays where it is, or the pause is over, no second is added. -/
theorem Counts.le_of_later {g' : Gate} {later : Nat} (h : g.Counts now) (h' : g'.Counts later)
    (hLater : now ≤ later) (hSame : g'.resumeAt = none ∨ g'.resumeAt = g.resumeAt) :
    g'.remainingSeconds later ≤ g.remainingSeconds now := by
  cases hAt : g'.resumeAt with
  | none =>
      rw [remainingSeconds, hAt]
      exact Nat.zero_le _
  | some t =>
      have hBefore : g.resumeAt = some t := by
        rcases hSame with hOver | hSame
        · rw [hOver] at hAt
          cases hAt
        · exact hSame.symm.trans hAt
      -- What was enough before is enough now.
      have hEnough : t ≤ now + g.remainingSeconds now * 1000 := (h.least t hBefore).1
      exact (h'.least t hAt).2 (hEnough.trans (Nat.add_le_add_right hLater _))

end Gate

/-! ## A gate on a clock -/

namespace Clocked

/-- A gate that follows a history of the past is paused for what is ahead. -/
theorem Follows.pending {c : Clocked} {h : History} (hc : c.Follows h)
    (hPast : ∀ x ∈ h, x.1 ≤ c.now) : c.gate.Pending c.now := by
  have hBoth : ∀ t, c.gate.resumeAt = some t → h.resume? c.gate.delays = some t ∧ c.now < t := by
    intro t hAt
    rw [hc.pause, Option.filter_eq_some_iff] at hAt
    exact ⟨hAt.1, of_decide_eq_true hAt.2⟩
  exact ⟨fun t hAt => (hBoth t hAt).2, fun t hAt => History.resume?_le hPast (hBoth t hAt).1⟩

/-- After any run of commands from a new gate. -/
theorem pending_ran (delays : List Nat) (commands : List Command) :
    (ran delays commands).gate.Pending (ran delays commands).now := by
  obtain ⟨hFollows, hNow, -, -⟩ := (follows_start delays).run commands
  refine Follows.pending hFollows ?_
  rw [show (ran delays commands).now = _ from hNow]
  exact History.le_of_mem_after (h := []) (fun x hx => absurd hx List.not_mem_nil) commands

theorem delays_ran (delays : List Nat) (commands : List Command) :
    (ran delays commands).gate.delays = Delays.ofList delays :=
  ((follows_start delays).run commands).2.2.1

/-- While only time passes, a pause stays as it is until it is over. -/
theorem resumeAt_of_passing {c : Clocked} (hc : c.gate.Sound) {passing : List Command}
    (hPassing : ∀ x ∈ passing, ∀ s, x ≠ .signal s) :
    c.now ≤ (passing.foldl perform c).now ∧
      ((passing.foldl perform c).gate.resumeAt = none ∨
        (passing.foldl perform c).gate.resumeAt = c.gate.resumeAt) := by
  induction passing generalizing c with
  | nil => exact ⟨Nat.le_refl _, .inr rfl⟩
  | cons x rest ih =>
      have hRest : ∀ y ∈ rest, ∀ s, y ≠ .signal s := fun y hy => hPassing y (List.mem_cons_of_mem _ hy)
      have hOne : (c.perform x).gate.Sound ∧ c.now ≤ (c.perform x).now ∧
          ((c.perform x).gate.resumeAt = none ∨ (c.perform x).gate.resumeAt = c.gate.resumeAt) := by
        have hRun : ∀ c' : Clocked, c'.gate = c.gate → ∀ target, c.now ≤ target →
            (c'.runTo target).gate.Sound ∧ c.now ≤ (c'.runTo target).now ∧
              ((c'.runTo target).gate.resumeAt = none ∨
                (c'.runTo target).gate.resumeAt = c.gate.resumeAt) := by
          intro c' hGate target hTarget
          obtain ⟨hNow, hSound, -, -, hAt, -⟩ := runTo_spec (hGate ▸ hc) target
          refine ⟨hSound, hNow ▸ hTarget, ?_⟩
          rw [hAt, hGate]
          cases c.gate.resumeAt with
          | none => exact .inl rfl
          | some t => by_cases hOn : target < t <;> simp [Option.filter_some, hOn]
        cases x with
        | signal s => exact absurd rfl (hPassing _ List.mem_cons_self s)
        | advance ms => exact hRun c rfl _ (Nat.le_add_right _ _)
        | jump ms => exact hRun { c with now := c.now + ms } rfl _ (Nat.le_add_right _ _)
        | look => exact ⟨hc, Nat.le_refl _, .inr rfl⟩
      obtain ⟨hSound, hNow, hAt⟩ := hOne
      obtain ⟨hNow', hAt'⟩ := ih hSound hRest
      refine ⟨hNow.trans hNow', ?_⟩
      rcases hAt' with hOver | hSame
      · exact .inl hOver
      · exact hAt.imp hSame.trans hSame.trans

end Clocked

end Lookout.Backoff
