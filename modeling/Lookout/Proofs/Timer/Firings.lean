import Lookout.Proofs.Timer.Single

set_option autoImplicit false

/-! # When timers fire

A `Life` says what is promised of a timer: when it was made, how long it waits, whether it recurs,
and when it was cancelled. Once the life of a timer is read off the moves of a run (`Bench.life`),
its firings are known too, as long as time passes continuously: they are all that were promised
while the timer lived (`Life.Kept`). The one at the very instant that the life has reached may be
missing, for the timer may have been cancelled before its turn came, or its turn may yet come.
-/

namespace Lookout.Timers

variable {α : Type}

/-- What a timer was made for, and when it was cancelled. -/
structure Life where
  since : Nat
  wait : Nat
  recurs : Bool
  ended : Option Nat := none
  deriving Repr, DecidableEq

namespace Life

/-- The life of a timer that is cancelled at `now`, unless it was before. -/
def finish (l : Life) (now : Nat) : Life := { l with ended := some (l.ended.getD now) }

/-- The first `n` firings of a timer that goes on waiting, newest first. -/
def due (l : Life) : Nat → List Nat
  | 0 => []
  | n + 1 => (l.since + (n + 1) * l.wait) :: l.due n

/-- How many firings are promised by the time `t`. -/
def count (l : Life) (t : Nat) : Nat :=
  if l.recurs then (t - l.since) / l.wait else if l.since + l.wait ≤ t then 1 else 0

/-- The firings that are promised by the time `t`, newest first. -/
def promised (l : Life) (t : Nat) : List Nat := l.due (l.count t)

/-- What is promised by the time `t` is kept, but perhaps for a firing at `t` itself. -/
def Kept (l : Life) (t : Nat) (firings : List Nat) : Prop :=
  firings = l.promised t ∨ firings = (l.promised t).filter (· < t)

theorem mem_due {l : Life} {n x : Nat} :
    x ∈ l.due n ↔ ∃ k < n, x = l.since + (k + 1) * l.wait := by
  induction n with
  | zero => exact ⟨nofun, fun ⟨_, hk, _⟩ => absurd hk (Nat.not_lt_zero _)⟩
  | succ n ih =>
      rw [due, List.mem_cons, ih]
      constructor
      · rintro (rfl | ⟨k, hk, rfl⟩)
        · exact ⟨n, Nat.lt_succ_self n, rfl⟩
        · exact ⟨k, Nat.lt_succ_of_lt hk, rfl⟩
      · rintro ⟨k, hk, rfl⟩
        rcases Nat.lt_succ_iff_lt_or_eq.mp hk with hLess | rfl
        · exact .inr ⟨k, hLess, rfl⟩
        · exact .inl rfl

/-- **What is promised of a recurring timer**: a firing at the end of each period. -/
theorem mem_promised_of_recurs {l : Life} (hRecurs : l.recurs = true) (hWait : 0 < l.wait)
    {t x : Nat} : x ∈ l.promised t ↔ ∃ k, x = l.since + (k + 1) * l.wait ∧ x ≤ t := by
  rw [promised, count, if_pos hRecurs, mem_due]
  have hFits : ∀ k, k < (t - l.since) / l.wait ↔ l.since + (k + 1) * l.wait ≤ t := by
    intro k
    rw [Nat.lt_iff_add_one_le, Nat.le_div_iff_mul_le hWait]
    have hPos : 0 < (k + 1) * l.wait := Nat.mul_pos (Nat.succ_pos k) hWait
    omega
  constructor
  · rintro ⟨k, hk, rfl⟩
    exact ⟨k, rfl, (hFits k).mp hk⟩
  · rintro ⟨k, rfl, hk⟩
    exact ⟨k, (hFits k).mpr hk, rfl⟩

/-- What is promised of a one-shot timer: one firing, when it has waited. -/
theorem promised_of_once {l : Life} (hOnce : l.recurs = false) (t : Nat) :
    l.promised t = if l.since + l.wait ≤ t then [l.since + l.wait] else [] := by
  rw [promised, count, if_neg (by simp [hOnce])]
  split
  next => rw [due, due, Nat.zero_add, Nat.one_mul]
  next => rfl

/-! ## A timer that waits

A recurring timer with `n` firings behind it waits for the end of its next period, a one-shot timer
with none behind it for the end of its only one. -/

/-- Before the next firing, all are done that are promised. -/
theorem count_waiting {l : Life} {n t : Nat} (hOnce : l.recurs = false → n = 0)
    (hPast : l.since + n * l.wait ≤ t) (hNext : t < l.since + (n + 1) * l.wait) :
    l.count t = n := by
  rw [count]
  split
  next => exact Nat.div_eq_of_lt_le (by omega) (by omega)
  next hFalse =>
    obtain rfl := hOnce (Bool.eq_false_iff.mpr hFalse)
    exact if_neg (by omega)

/-- At the next firing, it is promised as well. -/
theorem count_next {l : Life} {n : Nat} (hWait : l.recurs = true → 0 < l.wait)
    (hOnce : l.recurs = false → n = 0) :
    l.count (l.since + (n + 1) * l.wait) = n + 1 := by
  rw [count]
  split
  next hRecurs => rw [Nat.add_sub_cancel_left, Nat.mul_div_cancel _ (hWait hRecurs)]
  next hFalse =>
    obtain rfl := hOnce (Bool.eq_false_iff.mpr hFalse)
    exact if_pos (by omega)

/-- What is due before the next firing has come before it. -/
theorem filter_due {l : Life} {n : Nat} (hWait : l.recurs = true → 0 < l.wait)
    (hOnce : l.recurs = false → n = 0) :
    (l.due (n + 1)).filter (· < l.since + (n + 1) * l.wait) = l.due n := by
  rw [due, List.filter_cons_of_neg (by simp), List.filter_eq_self]
  intro x hx
  obtain ⟨k, hk, rfl⟩ := mem_due.mp hx
  have hRecurs : l.recurs = true := by
    by_contra hFalse
    rw [hOnce (Bool.eq_false_iff.mpr hFalse)] at hk
    exact Nat.not_lt_zero k hk
  have hLess : (k + 1) * l.wait < (n + 1) * l.wait :=
    Nat.mul_lt_mul_of_pos_right (Nat.succ_lt_succ hk) (hWait hRecurs)
  exact decide_eq_true (Nat.add_lt_add_left hLess _)

/-- A timer that waits has kept its promise. -/
theorem kept_waiting {l : Life} {n t : Nat} (hWait : l.recurs = true → 0 < l.wait)
    (hOnce : l.recurs = false → n = 0) (hPast : l.since + n * l.wait ≤ t)
    (hNext : t ≤ l.since + (n + 1) * l.wait) : l.Kept t (l.due n) := by
  rcases Nat.lt_or_eq_of_le hNext with hBefore | rfl
  · exact .inl (congrArg l.due (count_waiting hOnce hPast hBefore).symm)
  · refine .inr ?_
    rw [promised, count_next hWait hOnce, filter_due hWait hOnce]

/-- Its end changes nothing about what was promised. -/
theorem kept_finish {l : Life} {now t : Nat} {fired : List Nat} :
    (l.finish now).Kept t fired ↔ l.Kept t fired := by
  have hDue : ∀ n, (l.finish now).due n = l.due n := by
    intro n
    induction n with
    | zero => rfl
    | succ n ih => exact congrArg (_ :: ·) ih
  have hPromised : (l.finish now).promised t = l.promised t := hDue _
  rw [Kept, Kept, hPromised]

end Life

namespace Bench

/-- What a move makes of the life of the timer of handle `h`. -/
def markLife (b : Bench α) (h : Nat) (life : Option Life) : Move α → Option Life
  | .after delay _ => if b.timers.made = h then some ⟨b.now, delay, false, none⟩ else life
  | .every period _ => if b.timers.made = h then some ⟨b.now, period, true, none⟩ else life
  | .cancel handle => if handle = h then life.map (·.finish b.now) else life
  | .pass _ | .ring _ => life

/-- The life of the timer of handle `h` in a run, if the run makes it. -/
def life (b₀ : Bench α) (h : Nat) : List (Move α) → Option Life
  | [] => none
  | m :: past => (b₀.after past).markLife h (b₀.life h past) m

/-! ## What a move is to one timer -/

/-- The timer of handle `h` is in `b'` what it is in `b`, and no time is lost. -/
structure Aside (b b' : Bench α) (h : Nat) : Prop where
  now : b.now ≤ b'.now
  made : b.timers.made ≤ b'.timers.made
  live : ∀ t, t.handle = h → (t ∈ b'.timers.live ↔ t ∈ b.timers.live)

/-- **What a move is to the timer of handle `h`**: it makes the timer, or cancels it, or the timer
fires, or it is about something else. -/
inductive Touch (b : Bench α) (h : Nat) (m : Move α) : Prop
  | aside (aside : b.Aside (b.move m) h) (life : ∀ life, b.markLife h life m = life)
      (fires : b.fires h m = false)
  | made (wait : Nat) (recurs : Bool) (action : α) (made : b.timers.made = h)
      (recurring : recurs = true → m = .every wait action)
      (move : b.move m = { b with
        timers := b.timers.add (b.now + wait) (if recurs then some wait else none) action })
      (life : ∀ life, b.markLife h life m = some ⟨b.now, wait, recurs, none⟩)
      (fires : b.fires h m = false)
  | cancels (move : b.move m = { b with timers := b.timers.cancel h })
      (life : ∀ life, b.markLife h life m = life.map (·.finish b.now))
      (fires : b.fires h m = false)
  | rings (t : Timer α) (live : t ∈ b.timers.live) (handle : t.handle = h) (due : t.deadline ≤ b.now)
      (move : b.move m = { b with timers := b.timers.afterFiring t b.now })
      (life : ∀ life, b.markLife h life m = life) (fires : b.fires h m = true)

section Touch

variable {b : Bench α} {h : Nat}

/-- The making of another timer is nothing to this one. -/
theorem aside_add (hOther : b.timers.made ≠ h) (deadline : Nat) (period : Option Nat) (action : α) :
    b.Aside { b with timers := b.timers.add deadline period action } h := by
  refine ⟨Nat.le_refl _, Nat.le_succ _, fun t hMine => ⟨fun ht => ?_, List.mem_append_left _⟩⟩
  rcases List.mem_append.mp ht with hOld | hNew
  · exact hOld
  · rw [List.mem_singleton.mp hNew] at hMine
    exact absurd hMine hOther

/-- Nor is the cancelling of another one. -/
theorem aside_cancel {handle : Nat} (hOther : handle ≠ h) :
    b.Aside { b with timers := b.timers.cancel handle } h := by
  refine ⟨Nat.le_refl _, Nat.le_refl _, fun t hMine => ⟨fun ht => ?_, fun ht => ?_⟩⟩
  · exact (List.mem_filter.mp ht).1
  · exact List.mem_filter.mpr ⟨ht, by simpa [hMine] using hOther.symm⟩

/-- Nor is the firing of another one. -/
theorem aside_afterFiring {x : Timer α} (hOther : x.handle ≠ h) :
    b.Aside { b with timers := b.timers.afterFiring x b.now } h := by
  refine ⟨Nat.le_refl _, Nat.le_refl _, fun t hMine => ⟨fun ht => ?_, fun ht => ?_⟩⟩
  · rcases mem_afterFiring.mp ht with ⟨z, -, hSame, hRearmed⟩ | ⟨hOld, -⟩
    · exact absurd (hSame.symm.trans ((handle_of_rearmed hRearmed).symm.trans hMine)) hOther
    · exact hOld
  · exact mem_afterFiring.mpr (.inr ⟨ht, fun hSame => hOther (hSame.symm.trans hMine)⟩)

theorem touch (b : Bench α) (h : Nat) (m : Move α) : b.Touch h m := by
  cases m with
  | after delay action =>
      by_cases hMine : b.timers.made = h
      · exact .made delay false action hMine nofun rfl (fun _ => if_pos hMine) rfl
      · exact .aside (aside_add hMine _ _ _) (fun _ => if_neg hMine) rfl
  | every period action =>
      by_cases hMine : b.timers.made = h
      · exact .made period true action hMine (fun _ => rfl) rfl (fun _ => if_pos hMine) rfl
      · exact .aside (aside_add hMine _ _ _) (fun _ => if_neg hMine) rfl
  | cancel handle =>
      by_cases hMine : handle = h
      · exact .cancels (by rw [hMine]; rfl) (fun _ => if_pos hMine) rfl
      · exact .aside (aside_cancel hMine) (fun _ => if_neg hMine) rfl
  | pass ms =>
      exact .aside ⟨Nat.le_add_right _ _, Nat.le_refl _, fun _ _ => Iff.rfl⟩ (fun _ => rfl) rfl
  | ring k =>
      rcases move_ring_cases b k with ⟨hSame, hSilent⟩ | ⟨t, ht, hDue, hMove, hWho⟩
      · refine .aside ?_ (fun _ => rfl) (hSilent h)
        rw [hSame]
        exact ⟨Nat.le_refl _, Nat.le_refl _, fun _ _ => Iff.rfl⟩
      · by_cases hMine : t.handle = h
        · exact .rings t (List.mem_of_getElem? ht) hMine hDue hMove (fun _ => rfl)
            ((hWho h).trans (decide_eq_true hMine))
        · refine .aside ?_ (fun _ => rfl) ((hWho h).trans (decide_eq_false hMine))
          rw [hMove]
          exact aside_afterFiring hMine

end Touch

/-! ## The promise along a run -/

/-- The timer `t`, with `n` firings behind it, waits for the next. -/
structure Waits (b : Bench α) (l : Life) (n : Nat) (t : Timer α) : Prop where
  live : t ∈ b.timers.live
  lives : l.ended = none
  wait : l.recurs = true → 0 < l.wait
  once : l.recurs = false → n = 0
  period : t.period = if l.recurs then some l.wait else none
  deadline : t.deadline = l.since + (n + 1) * l.wait
  past : l.since + n * l.wait ≤ b.now

/-- The timer of handle `h` was made, and is there no more. -/
structure Over (b : Bench α) (h : Nat) : Prop where
  made : h < b.timers.made
  absent : ∀ t ∈ b.timers.live, t.handle ≠ h

/-- A timer that is not there is not there afterwards. -/
theorem Aside.absent {b b' : Bench α} {h : Nat} (hAside : b.Aside b' h)
    (hAbsent : ∀ t ∈ b.timers.live, t.handle ≠ h) : ∀ t ∈ b'.timers.live, t.handle ≠ h :=
  fun t ht hMine => hAbsent t ((hAside.live t hMine).mp ht) hMine

theorem Aside.over {b b' : Bench α} {h : Nat} (hAside : b.Aside b' h) (hOver : b.Over h) :
    b'.Over h :=
  ⟨hOver.made.trans_le hAside.made, hAside.absent hOver.absent⟩

theorem absent_cancel (t : Timers α) (h : Nat) : ∀ x ∈ (t.cancel h).live, x.handle ≠ h := by
  intro x hx
  simpa using (List.mem_filter.mp hx).2

/-- Where a timer stands whose life and firings so far are known. -/
inductive Owes (b : Bench α) (h : Nat) : Option Life → List Nat → Prop
  | unmade (absent : ∀ t ∈ b.timers.live, t.handle ≠ h) : Owes b h none []
  | waits (l : Life) (n : Nat) (t : Timer α) (handle : t.handle = h) (waits : b.Waits l n t) :
      Owes b h (some l) (l.due n)
  /-- It was to fire once and has. -/
  | spent (l : Life) (lives : l.ended = none) (once : l.recurs = false)
      (past : l.since + l.wait ≤ b.now) (finished : b.Over h) : Owes b h (some l) [l.since + l.wait]
  /-- It was cancelled. -/
  | gone (l : Life) (last : Nat) (fired : List Nat) (ended : l.ended = some last)
      (kept : l.Kept last fired) (finished : b.Over h) : Owes b h (some l) fired

variable {b b' : Bench α} {h n : Nat} {l : Life} {t : Timer α} {life : Option Life}
  {fired : List Nat}

theorem Waits.kept (hWaits : b.Waits l n t) (hOnTime : b.OnTime) : l.Kept b.now (l.due n) :=
  l.kept_waiting hWaits.wait hWaits.once hWaits.past (hWaits.deadline ▸ hOnTime t hWaits.live)

/-- **What is not about a timer** changes nothing about what it owes. -/
theorem Owes.aside (hOwes : Owes b h life fired) (hAside : b.Aside b' h) :
    Owes b' h life fired := by
  cases hOwes with
  | unmade absent => exact .unmade (hAside.absent absent)
  | waits l n t handle waits =>
      exact .waits l n t handle { waits with
        live := (hAside.live t handle).mpr waits.live
        past := waits.past.trans hAside.now }
  | spent l lives once past finished =>
      exact .spent l lives once (past.trans hAside.now) (hAside.over finished)
  | gone l last fired ended kept finished => exact .gone l last fired ended kept (hAside.over finished)

/-- A timer is made that waits for the end of its first period. -/
theorem owes_made (l : Life) (hNow : l.since = b.now) (hLives : l.ended = none)
    (hWait : l.recurs = true → 0 < l.wait) (action : α) :
    let period := if l.recurs then some l.wait else none
    Owes { b with timers := b.timers.add (b.now + l.wait) period action } b.timers.made
      (some l) [] := by
  refine .waits l 0
    ⟨b.timers.made, b.now + l.wait, if l.recurs then some l.wait else none, action⟩ rfl
    { live := List.mem_append_right _ (List.mem_singleton_self _)
      lives := hLives
      wait := hWait
      once := fun _ => rfl
      period := rfl
      deadline := ?_
      past := ?_ }
  · show b.now + l.wait = _
    rw [hNow, Nat.zero_add, Nat.one_mul]
  · show l.since + 0 * l.wait ≤ b.now
    omega

/-- A handle that is still to be given has no life yet. -/
theorem Owes.fresh (hOwes : Owes b b.timers.made life fired) (hb : b.Distinct) : fired = [] := by
  cases hOwes with
  | unmade absent => rfl
  | waits l n t handle waits =>
      exact absurd (hb.made t waits.live) (handle ▸ Nat.lt_irrefl _)
  | spent l lives once past finished => exact absurd finished.made (Nat.lt_irrefl _)
  | gone l last fired ended kept finished => exact absurd finished.made (Nat.lt_irrefl _)

/-- Cancelling a timer ends its life, for the first time. -/
theorem Owes.cancel (hOwes : Owes b h life fired) (hb : b.Distinct) (hOnTime : b.OnTime) :
    Owes { b with timers := b.timers.cancel h } h (life.map (·.finish b.now)) fired := by
  have hAbsent := absent_cancel b.timers h
  have hEnds : ∀ l : Life, l.ended = none → (l.finish b.now).ended = some b.now := by
    intro l hLives
    show some (l.ended.getD b.now) = some b.now
    rw [hLives, Option.getD_none]
  cases hOwes with
  | unmade absent => exact .unmade hAbsent
  | waits l n t handle waits =>
      exact .gone _ b.now _ (hEnds l waits.lives) (Life.kept_finish.mpr (waits.kept hOnTime))
        ⟨handle ▸ hb.made t waits.live, hAbsent⟩
  | spent l lives once past finished =>
      refine .gone _ b.now _ (hEnds l lives) (Life.kept_finish.mpr (.inl ?_)) ⟨finished.made, hAbsent⟩
      rw [Life.promised_of_once once, if_pos past]
  | gone l last fired ended kept finished =>
      refine .gone _ last _ ?_ (Life.kept_finish.mpr kept) ⟨finished.made, hAbsent⟩
      show some (l.ended.getD b.now) = some last
      rw [ended, Option.getD_some]

/-- **A timer that fires on time** waits for the end of the next period if it recurs, and is spent
if it does not. -/
theorem Waits.fires (hWaits : b.Waits l n t) (hb : b.Distinct) (hExact : b.now = t.deadline) :
    Owes { b with timers := b.timers.afterFiring t b.now } t.handle (some l)
      (b.now :: l.due n) := by
  have hNow : b.now = l.since + (n + 1) * l.wait := hExact.trans hWaits.deadline
  cases hRecurs : l.recurs with
  | true =>
      have hPeriod : t.period = some l.wait := by rw [hWaits.period, if_pos hRecurs]
      have hCount : b.now :: l.due n = l.due (n + 1) := by rw [hNow, Life.due]
      rw [hCount]
      refine .waits l (n + 1) { t with deadline := Timer.following l.wait t.deadline b.now } rfl
        { live := mem_afterFiring.mpr (.inl ⟨t, hWaits.live, rfl, ?_⟩)
          lives := hWaits.lives
          wait := hWaits.wait
          once := fun hFalse => absurd hRecurs (by simp [hFalse])
          period := hWaits.period
          deadline := ?_
          past := hNow.ge }
      · rw [Timer.rearmed, hPeriod, Option.map_some]
      · -- It is not late, so the next period begins where this one ended.
        show Timer.following l.wait t.deadline b.now = _
        rw [Timer.following, if_neg (by omega), hWaits.deadline, Nat.succ_mul (n + 1) l.wait]
        omega
  | false =>
      obtain rfl := hWaits.once hRecurs
      have hPeriod : t.period = none := by rw [hWaits.period, if_neg (by simp [hRecurs])]
      have hOver : b.now = l.since + l.wait := by omega
      rw [hOver]
      refine .spent l hWaits.lives hRecurs (Nat.le_refl _) ⟨hb.made t hWaits.live, fun y hy => ?_⟩
      rcases mem_afterFiring.mp hy with ⟨z, hz, hSame, hRearmed⟩ | ⟨-, hOther⟩
      · rw [hb.eq hz hWaits.live hSame, Timer.rearmed, hPeriod] at hRearmed
        cases hRearmed
      · exact hOther

/-- **One move** keeps the promise. -/
theorem Owes.move (hOwes : Owes b h life fired) (hb : b.Distinct) (hOnTime : b.OnTime)
    {m : Move α} (hPeriod : ∀ period action, m = .every period action → 0 < period) :
    Owes (b.move m) h (b.markLife h life m) (if b.fires h m then b.now :: fired else fired) := by
  cases touch b h m with
  | aside aside hLife hSilent =>
      rw [hLife, hSilent]
      exact hOwes.aside aside
  | made wait recurs action made recurring hMove hLife hSilent =>
      subst made
      rw [hLife, hMove, hSilent, hOwes.fresh hb]
      exact owes_made ⟨b.now, wait, recurs, none⟩ rfl rfl
        (fun hRecurs => hPeriod wait action (recurring hRecurs)) action
  | cancels hMove hLife hSilent =>
      rw [hLife, hMove, hSilent]
      exact hOwes.cancel hb hOnTime
  | rings x live hMine hDue hMove hLife hFires =>
      rw [hLife, hMove, if_pos hFires]
      cases hOwes with
      | unmade absent => exact absurd hMine (absent x live)
      | waits l n t handle waits =>
          obtain rfl : x = t := hb.eq live waits.live (hMine.trans handle.symm)
          rw [← handle]
          exact waits.fires hb (Nat.le_antisymm (hOnTime x live) hDue)
      | spent l lives once past finished => exact absurd hMine (finished.absent x live)
      | gone l last fired ended kept finished => exact absurd hMine (finished.absent x live)

/-- **The promise along a run** in which time passes continuously. -/
theorem owes_after {b₀ : Bench α} (hEmpty : b₀.timers.live = []) {past : List (Move α)}
    (hPeriods : ∀ period action, .every period action ∈ past → 0 < period)
    (hContinuous : b₀.Continuous past) (h : Nat) :
    Owes (b₀.after past) h (b₀.life h past) (b₀.firings h past) := by
  induction past with
  | nil => exact .unmade fun t ht => by rw [after, hEmpty] at ht; cases ht
  | cons m past ih =>
      have hBefore := ih (fun period action hMem => hPeriods period action (.tail _ hMem))
        hContinuous.1
      exact hBefore.move (distinct_after hEmpty past) (hContinuous.1.onTime hEmpty)
        fun period action hSame => hPeriods period action (hSame ▸ .head _)

/-- A timer that is never made never fires. -/
theorem Owes.unmade_fired (hOwes : Owes b h none fired) : fired = [] := by
  cases hOwes with
  | unmade absent => rfl

/-- A timer that is made has kept its promise for as long as it lives. -/
theorem Owes.kept (hOwes : Owes b h (some l) fired) (hOnTime : b.OnTime) :
    l.Kept (l.ended.getD b.now) fired := by
  cases hOwes with
  | waits _ n t handle waits =>
      rw [waits.lives]
      exact waits.kept hOnTime
  | spent _ lives once past finished =>
      rw [lives]
      refine .inl ?_
      rw [Life.promised_of_once once, Option.getD_none, if_pos past]
  | gone _ last _ ended kept finished =>
      rw [ended]
      exact kept

/-- Once nothing is left to fire, nothing is missing. -/
theorem Owes.settled (hOwes : Owes b h (some l) fired) (hLives : l.ended = none)
    (hSettled : b.Settled) : fired = l.promised b.now := by
  cases hOwes with
  | waits _ n t handle waits =>
      have hNext : b.now < l.since + (n + 1) * l.wait :=
        waits.deadline ▸ hSettled t waits.live
      exact congrArg l.due (l.count_waiting waits.once waits.past hNext).symm
  | spent _ lives once past finished => rw [Life.promised_of_once once, if_pos past]
  | gone _ last _ ended kept finished => exact nomatch hLives.symm.trans ended

/-! ## Promises are kept -/

/-- **Timers fire when promised, each as if it were the only one.** In a run in which time passes
continuously and the periods are positive, a timer that is never made never fires. One that is made
has fired whenever it was promised to while it lived, and at no other time; a firing at the very
instant its life has reached may be missing, but not if it lives on and nothing is left to fire. And
it fires as it does on a bench of its own. -/
theorem firings_of_life {b₀ : Bench α} (hEmpty : b₀.timers.live = []) {past : List (Move α)}
    (hPeriods : ∀ period action, .every period action ∈ past → 0 < period)
    (hContinuous : b₀.Continuous past) (h : Nat) :
    (b₀.life h past = none → b₀.firings h past = []) ∧
      (∀ l, b₀.life h past = some l →
        l.Kept (l.ended.getD (b₀.after past).now) (b₀.firings h past) ∧
          (l.ended = none → (b₀.after past).Settled →
            b₀.firings h past = l.promised (b₀.after past).now)) ∧
      (b₀.alone h).Continuous (b₀.ownRun h past) ∧
      (b₀.alone h).firings h (b₀.ownRun h past) = b₀.firings h past := by
  have hOwes := owes_after hEmpty hPeriods hContinuous h
  refine ⟨fun hNone => ?_, fun l hLife => ?_, continuous_ownRun hEmpty h hContinuous,
    (only_after hEmpty h past).2⟩
  · rw [hNone] at hOwes
    exact hOwes.unmade_fired
  · rw [hLife] at hOwes
    exact ⟨hOwes.kept (hContinuous.onTime hEmpty), hOwes.settled⟩

/-- A recurring timer, a one-shot timer, and two more that are cancelled: one at the very instant at
which it is due, before its turn comes, and one before. -/
def bustle : List (Move String) :=
  [.ring 0, .pass 7, .cancel 3, .pass 3, .after 4 "early", .cancel 2, .ring 0, .pass 5,
    .after 5 "last moment", .ring 1, .pass 5, .after 5 "once", .every 10 "again"]

theorem firings_of_life_bustle :
    let b₀ : Bench String := {}
    b₀.timers.live = [] ∧ (∀ period action, .every period action ∈ bustle → 0 < period) ∧
      b₀.Continuous bustle ∧
      (b₀.firings 0 bustle = [20, 10] ∧ b₀.firings 1 bustle = [5] ∧ b₀.firings 2 bustle = [] ∧
        b₀.firings 3 bustle = []) ∧
      (b₀.life 2 bustle = some ⟨5, 5, false, some 10⟩ ∧
        Life.Kept ⟨5, 5, false, some 10⟩ 10 (b₀.firings 2 bustle)) ∧
      (b₀.life 0 bustle = some ⟨0, 10, true, none⟩ ∧
        b₀.firings 0 bustle = Life.promised ⟨0, 10, true, none⟩ 20) ∧
      b₀.ownRun 1 bustle = [.pass 7, .pass 3, .pass 5, .ring 0, .pass 5, .after 5 "once"] ∧
      (b₀.alone 1).firings 1 (b₀.ownRun 1 bustle) = b₀.firings 1 bustle := by
  have hPeriods : ∀ period action, Move.every period action ∈ bustle → 0 < period := by
    simp [bustle]
  have hContinuous : ({} : Bench String).Continuous bustle := by decide
  have hSettled : (({} : Bench String).after bustle).Settled := by decide
  refine ⟨rfl, hPeriods, hContinuous, by decide, ⟨by decide, ?_⟩, ⟨by decide, ?_⟩, rfl, ?_⟩
  · exact ((firings_of_life rfl hPeriods hContinuous 2).2.1 _ (by decide)).1
  · exact ((firings_of_life rfl hPeriods hContinuous 0).2.1 _ (by decide)).2 rfl hSettled
  · exact (firings_of_life rfl hPeriods hContinuous 1).2.2.2

end Bench

end Lookout.Timers
