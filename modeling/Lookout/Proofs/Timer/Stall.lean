import Mathlib.Data.List.Chain
import Lookout.Proofs.Timer.Firings

set_option autoImplicit false

/-! # When the clock stands still

A clock that jumps finds timers overdue. A recurring timer that is late by no more than
`Timer.tolerance` keeps its rhythm, so if its period is short it may fire several times at the instant
to which the clock has jumped. `Spaced` says what is left of the rhythm in every run, however the
clock goes: no firing comes before its time, two that follow each other are at most the tolerance
closer than a period, and those at one instant together take up no more than the tolerance. The
invariant behind it, `OnBeat`, ties the firings to the next deadline.
-/

namespace Lookout.Timers

open Timer (tolerance following)

/-- **Firings that do not come in a burst**, newest first, of a recurring timer armed at `since`. -/
structure Spaced (since period : Nat) (fired : List Nat) : Prop where
  not_early : ∀ k x, fired.reverse[k]? = some x → since + (k + 1) * period ≤ x
  apart : fired.IsChain fun newer older => older + (period - tolerance) ≤ newer
  at_once : ∀ t, (fired.count t - 1) * period ≤ tolerance

/-- **Where a recurring timer stands** that was armed at `since`, has fired at some times, newest
first, and is due at `deadline`. -/
structure OnBeat (since period now deadline : Nat) (fired : List Nat) : Prop where
  spaced : Spaced since period fired
  past : ∀ x ∈ fired, x ≤ now
  /-- The next firing is not early. -/
  next : since + (fired.length + 1) * period ≤ deadline
  /-- It is due one period after the last one at the latest. -/
  reach : deadline ≤ fired.headD since + period
  /-- Those at one instant have moved it on by a period each. -/
  moved : ∀ x ∈ fired, x + fired.count x * period ≤ deadline + tolerance

variable {since period now deadline : Nat} {fired : List Nat}

theorem spaced_nil : Spaced since period [] := ⟨nofun, .nil, by simp⟩

theorem Spaced.cons (h : Spaced since period fired) {x : Nat}
    (hTime : since + (fired.length + 1) * period ≤ x)
    (hLast : ∀ y ∈ fired.head?, y + (period - tolerance) ≤ x)
    (hSame : fired.count x * period ≤ tolerance) : Spaced since period (x :: fired) where
  not_early := by
    intro k y hy
    rw [List.reverse_cons] at hy
    rcases Nat.lt_or_ge k fired.reverse.length with hOld | hNew
    · rw [List.getElem?_append_left hOld] at hy
      exact h.not_early k y hy
    · obtain ⟨hk, rfl⟩ : k - fired.reverse.length = 0 ∧ x = y := by
        rw [List.getElem?_append_right hNew, List.getElem?_singleton] at hy
        split at hy
        next hFirst => exact ⟨hFirst, Option.some.inj hy⟩
        next => cases hy
      rw [List.length_reverse] at hk hNew
      rwa [show k = fired.length by omega]
  apart := List.isChain_cons.mpr ⟨hLast, h.apart⟩
  at_once := by
    intro t
    by_cases hHere : x = t
    · rw [← hHere, List.count_cons_self, Nat.add_sub_cancel]
      exact hSame
    · rw [List.count_cons_of_ne hHere]
      exact h.at_once t

/-- A timer that has just been armed. -/
theorem onBeat_new (now period : Nat) : OnBeat now period now (now + period) [] where
  spaced := spaced_nil
  past := nofun
  next := by simp
  reach := Nat.le_refl _
  moved := nofun

theorem OnBeat.later (h : OnBeat since period now deadline fired) {now' : Nat} (hNow : now ≤ now') :
    OnBeat since period now' deadline fired :=
  { h with past := fun x hx => (h.past x hx).trans hNow }

/-- **A firing**, on time or late, keeps the beat. -/
theorem OnBeat.fires (h : OnBeat since period now deadline fired) (hDue : deadline ≤ now) :
    OnBeat since period now (following period deadline now) (now :: fired) := by
  -- If the timer has fired at this instant before, it is not late by more than the tolerance.
  have hAgain : 0 < fired.count now → now + fired.count now * period ≤ deadline + tolerance :=
    fun hPos => h.moved now (List.count_pos_iff.mp hPos)
  have hSame : fired.count now * period ≤ tolerance := by
    rcases Nat.eq_zero_or_pos (fired.count now) with hNone | hPos
    · simp [hNone]
    · have := hAgain hPos
      omega
  have hFollowing : deadline + period ≤ following period deadline now
      ∧ following period deadline now ≤ now + period
      ∧ now + (fired.count now + 1) * period ≤ following period deadline now + tolerance := by
    rw [following, Nat.add_one_mul]
    split
    next hLate =>
      have hNone : fired.count now = 0 := by
        by_contra hSome
        have := hAgain (Nat.pos_of_ne_zero hSome)
        omega
      rw [hNone]
      omega
    next hInTime =>
      rcases Nat.eq_zero_or_pos (fired.count now) with hNone | hPos
      · rw [hNone]
        omega
      · have := hAgain hPos
        omega
  obtain ⟨hLow, hHigh, hNow⟩ := hFollowing
  constructor
  case spaced =>
    refine h.spaced.cons (h.next.trans hDue) (fun y hy => ?_) hSame
    have hMem : y ∈ fired := List.mem_of_mem_head? hy
    have hOne : period ≤ fired.count y * period :=
      Nat.le_mul_of_pos_left period (List.count_pos_iff.mpr hMem)
    have := h.moved y hMem
    have := h.past y hMem
    omega
  case past => exact List.forall_mem_cons.mpr ⟨Nat.le_refl now, h.past⟩
  case next =>
    have := h.next
    rw [List.length_cons, Nat.add_one_mul (fired.length + 1)]
    omega
  case reach => exact hHigh
  case moved =>
    intro x hx
    by_cases hHere : x = now
    · rw [hHere, List.count_cons_self]
      exact hNow
    · have := h.moved x ((List.mem_cons.mp hx).resolve_left hHere)
      rw [List.count_cons_of_ne (Ne.symm hHere)]
      omega

/-- **After a stall** of a period and more, a timer that has nothing left to do has fired once, and
more often only if those firings fit into the tolerance. -/
theorem OnBeat.after_stall (h : OnBeat since period now deadline fired) (hDone : now < deadline)
    {older earlier : List Nat} {n : Nat} (hAll : fired ++ older = List.replicate n now ++ earlier)
    (hOlder : now ∉ older) (hSince : since + period ≤ now)
    (hBefore : ∀ x ∈ earlier.head?, x + period ≤ now) :
    0 < n ∧ (n - 1) * period ≤ tolerance := by
  constructor
  · by_contra hZero
    obtain rfl : n = 0 := by omega
    rw [List.replicate_zero, List.nil_append] at hAll
    have hReach := h.reach
    cases fired with
    | nil =>
        rw [List.headD_nil] at hReach
        omega
    | cons x rest =>
        have := hBefore x (by rw [← hAll]; rfl)
        rw [List.headD_cons] at hReach
        omega
  · have hCount : n ≤ fired.count now := by
      have hSame := congrArg (List.count now) hAll
      rw [List.count_append, List.count_append, List.count_replicate_self,
        List.count_eq_zero.mpr hOlder] at hSame
      omega
    calc (n - 1) * period ≤ (fired.count now - 1) * period :=
          Nat.mul_le_mul_right period (Nat.sub_le_sub_right hCount 1)
      _ ≤ tolerance := h.spaced.at_once now

/-! ## On a bench -/

namespace Bench

variable {α : Type} {b b' : Bench α} {h : Nat} {life : Option Life}

/-- **Where a timer stands** whose life and firings so far are known, however the clock has gone. Of
one that fires once nothing is said. -/
inductive Beats (b : Bench α) (h : Nat) : Option Life → List Nat → Prop
  | unmade (absent : ∀ t ∈ b.timers.live, t.handle ≠ h) : Beats b h none []
  | once (l : Life) (fired : List Nat) (once : l.recurs = false) (made : h < b.timers.made) :
      Beats b h (some l) fired
  | beats (l : Life) (t : Timer α) (fired : List Nat) (live : t ∈ b.timers.live)
      (handle : t.handle = h) (lives : l.ended = none) (recurs : l.recurs = true)
      (period : t.period = some l.wait)
      (onBeat : OnBeat l.since l.wait b.now t.deadline fired) : Beats b h (some l) fired
  | gone (l : Life) (last : Nat) (fired : List Nat) (ended : l.ended = some last)
      (spaced : Spaced l.since l.wait fired) (finished : b.Over h) : Beats b h (some l) fired

theorem Beats.aside (hBeats : Beats b h life fired) (hAside : b.Aside b' h) :
    Beats b' h life fired := by
  cases hBeats with
  | unmade absent => exact .unmade (hAside.absent absent)
  | once l fired once made => exact .once l fired once (made.trans_le hAside.made)
  | beats l t fired live handle lives recurs period onBeat =>
      exact .beats l t fired ((hAside.live t handle).mpr live) handle lives recurs period
        (onBeat.later hAside.now)
  | gone l last fired ended spaced finished =>
      exact .gone l last fired ended spaced (hAside.over finished)

/-- A handle that is still to be given has not fired. -/
theorem Beats.fresh (hBeats : Beats b b.timers.made life fired) (hb : b.Distinct) : fired = [] := by
  cases hBeats with
  | unmade absent => rfl
  | once l fired once made => exact absurd made (Nat.lt_irrefl _)
  | beats l t fired live handle => exact absurd (hb.made t live) (handle ▸ Nat.lt_irrefl _)
  | gone l last fired ended spaced finished => exact absurd finished.made (Nat.lt_irrefl _)

theorem Beats.cancel (hBeats : Beats b h life fired) (hb : b.Distinct) :
    Beats { b with timers := b.timers.cancel h } h (life.map (·.finish b.now)) fired := by
  have hAbsent := absent_cancel b.timers h
  cases hBeats with
  | unmade absent => exact .unmade hAbsent
  | once l fired once made => exact .once _ fired once made
  | beats l t fired live handle lives recurs period onBeat =>
      exact .gone _ _ fired rfl onBeat.spaced ⟨handle ▸ hb.made t live, hAbsent⟩
  | gone l last fired ended spaced finished =>
      exact .gone _ _ fired rfl spaced ⟨finished.made, hAbsent⟩

/-- **A timer that fires**, early or late, goes on with its beat. -/
theorem Beats.rings (hBeats : Beats b h life fired) (hb : b.Distinct) {t : Timer α}
    (ht : t ∈ b.timers.live) (hMine : t.handle = h) (hDue : t.deadline ≤ b.now) :
    Beats { b with timers := b.timers.afterFiring t b.now } h life (b.now :: fired) := by
  cases hBeats with
  | unmade absent => exact absurd hMine (absent t ht)
  | once l fired once made => exact .once l _ once made
  | beats l x fired live handle lives recurs period onBeat =>
      obtain rfl : t = x := hb.eq ht live (hMine.trans handle.symm)
      refine .beats l { t with deadline := Timer.following l.wait t.deadline b.now } _ ?_ handle
        lives recurs period (onBeat.fires hDue)
      refine mem_afterFiring.mpr (.inl ⟨t, ht, rfl, ?_⟩)
      rw [Timer.rearmed, period, Option.map_some]
  | gone l last fired ended spaced finished => exact absurd hMine (finished.absent t ht)

/-- **One move** keeps the beat. -/
theorem Beats.move (hBeats : Beats b h life fired) (hb : b.Distinct) (m : Move α) :
    Beats (b.move m) h (b.markLife h life m) (if b.fires h m then b.now :: fired else fired) := by
  cases touch b h m with
  | aside aside hLife hSilent =>
      rw [hLife, hSilent]
      exact hBeats.aside aside
  | made wait recurs action made recurring hMove hLife hSilent =>
      subst made
      rw [hLife, hMove, hSilent, hBeats.fresh hb]
      cases recurs with
      | false => exact .once _ _ rfl (Nat.lt_succ_self _)
      | true =>
          exact .beats _ ⟨b.timers.made, b.now + wait, some wait, action⟩ _
            (List.mem_append_right _ (List.mem_singleton_self _)) rfl rfl rfl rfl
            (onBeat_new b.now wait)
  | cancels hMove hLife hSilent =>
      rw [hLife, hMove, hSilent]
      exact hBeats.cancel hb
  | rings t live hMine hDue hMove hLife hFires =>
      rw [hLife, hMove, if_pos hFires]
      exact hBeats.rings hb live hMine hDue

/-- Every timer keeps its beat in every run. -/
theorem beats_after {b₀ : Bench α} (hEmpty : b₀.timers.live = []) (h : Nat)
    (past : List (Move α)) :
    Beats (b₀.after past) h (b₀.life h past) (b₀.firings h past) := by
  induction past with
  | nil => exact .unmade fun t ht => by rw [after, hEmpty] at ht; cases ht
  | cons m past ih => exact ih.move (distinct_after hEmpty past) m

/-- **The firings of a recurring timer never come in a burst**, whatever else happens and however the
clock goes. -/
theorem spaced_firings {b₀ : Bench α} (hEmpty : b₀.timers.live = []) {h : Nat}
    {past : List (Move α)} {l : Life} (hLife : b₀.life h past = some l) (hRecurs : l.recurs = true) :
    Spaced l.since l.wait (b₀.firings h past) := by
  have hBeats := beats_after hEmpty h past
  rw [hLife] at hBeats
  cases hBeats with
  | once _ _ once => rw [hRecurs] at once; cases once
  | beats _ t _ live handle lives recurs period onBeat => exact onBeat.spaced
  | gone _ _ _ ended spaced => exact spaced

end Bench

end Lookout.Timers
