import Mathlib.Data.List.Nodup
import Lookout.Proofs.Polling.Armed

set_option autoImplicit false

/-! # Results are applied in the order of their fetches

Fetches land in any order, and some never. `Scene.runLog` keeps book, from the moves alone,
of the run of a poller that is going on: which fetches belong to it (those with a number
above `base`), and which of them have succeeded so far, in the order in which they landed.
`RunLog.Kept` is the invariant that ties the poller to this record: its status is that of
the success with the greatest number, and what it has published are the successes that were
records when they landed (`records`).
-/

namespace Lookout.Polling

/-! ## The fetches of one poller -/

/-- The run and the number of a fetch that poller `i` waits for. -/
def Purpose.mark? (i : Nat) : Purpose → Option (Nat × Nat)
  | .direct => none
  | .tick j run seq => if j = i then some (run, seq) else none

/-- A list around one of its entries, and without it. -/
theorem exists_split {α : Type} {l : List α} {k : Nat} {x : α} (h : l[k]? = some x) :
    ∃ front back, l = front ++ x :: back ∧ l.eraseIdx k = front ++ back := by
  obtain ⟨hk, rfl⟩ := List.getElem?_eq_some_iff.mp h
  refine ⟨l.take k, l.drop (k + 1), ?_, List.eraseIdx_eq_take_drop_succ l k⟩
  rw [← List.drop_eq_getElem_cons, List.take_append_drop]

namespace Scene

variable {ω : Type}

/-- The runs and numbers of the fetches of poller `i` that are in flight, in the order in
which they were started. -/
def inFlight (s : Scene ω) (i : Nat) : List (Nat × Nat) :=
  s.fleet.purposes.filterMap (Purpose.mark? i)

theorem mem_inFlight {s : Scene ω} {i run seq : Nat} :
    (run, seq) ∈ s.inFlight i ↔ .tick i run seq ∈ s.fleet.purposes := by
  rw [inFlight, List.mem_filterMap]
  constructor
  · rintro ⟨x, hx, hMark⟩
    cases x with
    | direct => cases hMark
    | tick j run' seq' =>
        rw [Purpose.mark?] at hMark
        split at hMark
        next hj =>
          obtain ⟨rfl, rfl⟩ := Prod.mk.inj (Option.some.inj hMark)
          exact hj ▸ hx
        next => cases hMark
  · exact fun hx => ⟨_, hx, if_pos rfl⟩

/-- At first no fetch is in flight. -/
theorem Fresh.inFlight_eq_nil {s : Scene ω} (h : s.Fresh) (i : Nat) : s.inFlight i = [] := by
  rw [inFlight, List.filterMap_eq_nil_iff]
  intro x hx
  obtain ⟨f, hf, rfl⟩ := List.mem_map.mp hx
  rw [h.flights f hf]
  rfl

/-- What a move is to the fetches that poller `i` has in flight, where `p` is the poller
before it and `q` after it. -/
inductive Traffic (s s' : Scene ω) (i : Nat) (p q : Poller) : Prop
  | none (issued : q.issued = p.issued) (same : s'.inFlight i = s.inFlight i)
  | takesOff (issued : q.issued = p.issued + 1) (polling : q.mode.isPolling = true)
      (more : s'.inFlight i = s.inFlight i ++ [(q.run, q.issued)])
  | lands (earlier later : List (Nat × Nat)) (x : Nat × Nat) (issued : q.issued = p.issued)
      (before : s.inFlight i = earlier ++ x :: later) (after : s'.inFlight i = earlier ++ later)

/-- What takes off with a deed of another poller is not for poller `i`. -/
theorem mark?_launches {i j : Nat} (hj : j ≠ i) (p : Poller) (paused : Bool) (now : Nat)
    (d : Deed) : (p.launches paused now j d).filterMap (Purpose.mark? i) = [] := by
  cases p.takesOff paused now j d with
  | nothing _ none => rw [none]; rfl
  | direct _ one => rw [one]; rfl
  | tick _ _ one => simp [one, Purpose.mark?, hj]

/-- A move that starts no fetch for anybody. -/
theorem issued_turn {s : Scene ω} {m : Move ω} {i : Nat} {p : Poller}
    (hNone : ∀ d, s.Meets i m d →
      p.launches s.fleet.gate.paused s.fleet.now i d = []) :
    (s.turn m i p).issued = p.issued := by
  rcases s.turn_cases m i p with hSame | ⟨d, hDeed, hTurn⟩
  · rw [hSame]
  · rw [hTurn]
    have hNothing := hNone d (meets_of_deed hDeed)
    cases p.takesOff s.fleet.gate.paused s.fleet.now i d with
    | nothing issued => exact issued
    | direct issued => exact issued
    | tick _ _ one => simp [hNothing] at one

variable [FetchSource ω]

/-- A fetch that lands is taken from those in flight. -/
theorem inFlight_land {s : Scene ω} {i k run seq : Nat}
    (h : s.fleet.purposes[k]? = some (.tick i run seq)) :
    ∃ earlier later, s.inFlight i = earlier ++ (run, seq) :: later ∧
      (s.move (.land k)).inFlight i = earlier ++ later := by
  obtain ⟨front, back, hSplit, hErase⟩ := exists_split h
  have hMark : (Purpose.tick i run seq).mark? i = some (run, seq) := if_pos rfl
  refine ⟨front.filterMap (Purpose.mark? i), back.filterMap (Purpose.mark? i), ?_, ?_⟩
  · rw [inFlight, hSplit, List.filterMap_append, List.filterMap_cons_some hMark]
  · rw [inFlight, purposes_move, launched, List.append_nil, remaining, hErase,
      List.filterMap_append]

/-- A deed that starts its fetches itself. -/
theorem traffic_of_launches {s : Scene ω} {m : Move ω} {i j : Nat} {p : Poller} {d : Deed}
    (hp : s.fleet.pollers[i]? = some p) (hDeed : s.deed? m = some (j, d))
    (hPurposes : (s.move m).fleet.purposes = s.fleet.purposes ++ s.launchedBy j d) :
    s.Traffic (s.move m) i p (s.turn m i p) := by
  have hFlight : (s.move m).inFlight i
      = s.inFlight i ++ (s.launchedBy j d).filterMap (Purpose.mark? i) := by
    rw [inFlight, hPurposes, List.filterMap_append]
    rfl
  by_cases hj : j = i
  · subst hj
    rw [launchedBy, hp, Option.map_some, Option.getD_some] at hFlight
    rw [turn_of_deed hDeed]
    cases p.takesOff s.fleet.gate.paused s.fleet.now j d with
    | nothing issued none => exact .none issued (by rw [hFlight, none]; simp)
    | direct issued one => exact .none issued (by rw [hFlight, one]; simp [Purpose.mark?])
    | tick issued polling one =>
        exact .takesOff issued polling (by rw [hFlight, one]; simp [Purpose.mark?])
  · rw [turn_of_other hDeed hj]
    refine .none rfl ?_
    rw [hFlight, launchedBy]
    cases s.fleet.pollers[j]? with
    | none => exact List.append_nil _
    | some p' =>
        rw [Option.map_some, Option.getD_some, mark?_launches hj]
        exact List.append_nil _

/-- **What a move is to the fetches in flight of a poller**: at most one takes off, with the
newest number, or one lands. -/
theorem traffic (s : Scene ω) (m : Move ω) {i : Nat} {p : Poller}
    (hp : s.fleet.pollers[i]? = some p) : s.Traffic (s.move m) i p (s.turn m i p) := by
  have hQuiet : (∀ d, s.Meets i m d → p.launches s.fleet.gate.paused s.fleet.now i d = []) →
      (s.move m).inFlight i = s.inFlight i → s.Traffic (s.move m) i p (s.turn m i p) :=
    fun hNone hSame => .none (issued_turn hNone) hSame
  have hPurposes := s.purposes_move m
  cases m with
  | operate j o => exact traffic_of_launches hp rfl hPurposes
  | ask j => exact traffic_of_launches hp rfl hPurposes
  | ring j k => exact traffic_of_launches hp rfl hPurposes
  | land k =>
      have hNone : ∀ d, s.Meets i (.land k) d →
          p.launches s.fleet.gate.paused s.fleet.now i d = [] := by
        intro d hMeets
        cases hMeets <;> rfl
      cases hx : s.fleet.purposes[k]? with
      | none =>
          refine hQuiet hNone ?_
          have hLong : s.fleet.purposes.length ≤ k := List.getElem?_eq_none_iff.mp hx
          rw [inFlight, hPurposes, launched, List.append_nil, remaining,
            List.eraseIdx_of_length_le hLong]
          rfl
      | some x =>
          cases hMark : x.mark? i with
          | none =>
              refine hQuiet hNone ?_
              obtain ⟨front, back, hSplit, hErase⟩ := exists_split hx
              rw [inFlight, hPurposes, launched, List.append_nil, remaining, hErase,
                List.filterMap_append, inFlight, hSplit, List.filterMap_append,
                List.filterMap_cons_none hMark]
          | some mark =>
              cases x with
              | direct => cases hMark
              | tick j run seq =>
                  rw [Purpose.mark?] at hMark
                  split at hMark
                  next hj =>
                    obtain ⟨earlier, later, hBefore, hAfter⟩ := inFlight_land (hj ▸ hx)
                    exact .lands earlier later _ (issued_turn hNone) hBefore hAfter
                  next => cases hMark
  | conclude k =>
      refine hQuiet (fun d hMeets => ?_) ?_
      · cases hMeets
        rfl
      · rw [inFlight, hPurposes, launched, List.append_nil]
        rfl
  | call f source =>
      refine hQuiet (fun d hMeets => by cases hMeets) ?_
      rw [inFlight, hPurposes, launched, List.filterMap_append]
      simp [remaining, inFlight, Purpose.mark?]
  | signal x => exact hQuiet (fun d hMeets => by cases hMeets) rfl
  | note e => exact hQuiet (fun d hMeets => by cases hMeets) rfl
  | pass ms => exact hQuiet (fun d hMeets => by cases hMeets) rfl
  | resume =>
      refine hQuiet (fun d hMeets => by cases hMeets) ?_
      rw [inFlight, hPurposes, launched, List.append_nil]
      rfl

omit [FetchSource ω] in
theorem Traffic.issued_le {s s' : Scene ω} {i : Nat} {p q : Poller} (h : s.Traffic s' i p q) :
    p.issued ≤ q.issued := by
  cases h with
  | none issued => omega
  | takesOff issued => omega
  | lands _ _ _ issued => omega

omit [FetchSource ω] in
/-- A fetch in flight after a move was so before it, or is the newest of all. -/
theorem Traffic.mem {s s' : Scene ω} {i : Nat} {p q : Poller} (h : s.Traffic s' i p q)
    {x : Nat × Nat} (hx : x ∈ s'.inFlight i) :
    x ∈ s.inFlight i ∨ x = (q.run, q.issued) ∧ q.issued = p.issued + 1 := by
  cases h with
  | none _ same => exact .inl (same ▸ hx)
  | takesOff issued _ more =>
      rw [more, List.mem_append, List.mem_singleton] at hx
      exact hx.imp_right fun hNew => ⟨hNew, issued⟩
  | lands earlier later y _ before after =>
      left
      rw [after, List.mem_append] at hx
      rw [before, List.mem_append]
      exact hx.imp_right (List.mem_cons_of_mem y)

/-- The numbers of a poller's fetches in flight grow in the order in which they were
started. -/
theorem Fresh.sorted {s₀ : Scene ω} (h : s₀.Fresh) (past : List (Move ω)) (i : Nat) {p : Poller}
    (hp : (s₀.after past).fleet.pollers[i]? = some p) :
    (((s₀.after past).inFlight i).map Prod.snd).Pairwise (· < ·) := by
  induction past generalizing p with
  | nil =>
      rw [after, h.inFlight_eq_nil]
      exact .nil
  | cons m past ih =>
      obtain ⟨q, hq, rfl⟩ := exists_of_move hp
      have hSorted := ih hq
      have hMarked := h.marked past hq
      cases (s₀.after past).traffic m hq with
      | none _ same =>
          rw [after, same]
          exact hSorted
      | takesOff issued _ more =>
          -- Numbers are given out in order, so the newest is above all that are in flight.
          rw [after, more, List.map_append, List.pairwise_append]
          refine ⟨hSorted, List.pairwise_singleton _ _, fun a ha b hb => ?_⟩
          obtain ⟨⟨run, seq⟩, hMem, rfl⟩ := List.mem_map.mp ha
          have hIssued := (hMarked.flights run seq (mem_inFlight.mp hMem)).issued
          have hNew := List.mem_singleton.mp hb
          dsimp only at hNew ⊢
          omega
      | lands earlier later x _ before after =>
          have hFewer : (earlier ++ later).Sublist (earlier ++ x :: later) :=
            (List.Sublist.refl earlier).append (List.sublist_cons_self x later)
          rw [before] at hSorted
          rw [Scene.after, after]
          exact hSorted.sublist (hFewer.map Prod.snd)

end Scene

/-! ## What a run has seen -/

/-- What a run of a poller has seen. -/
structure RunLog where
  /-- How many fetches had been started before it. -/
  base : Nat
  /-- The statuses of the successes published before it, newest first. -/
  before : List (Option String)
  /-- Its successes, each with the number of its fetch, the last to land first. -/
  landed : List (Nat × Option String) := []

namespace RunLog

/-- A success has landed; it is one of this run if its fetch was started in it. -/
def add (log : RunLog) (x : Nat × Option String) : RunLog :=
  if log.base < x.1 then { log with landed := x :: log.landed } else log

/-- The statuses of the successes that were the newest of all when they landed. -/
def records : List (Nat × Option String) → List (Option String)
  | [] => []
  | x :: earlier =>
    if ∀ y ∈ earlier, y.1 < x.1 then x.2 :: records earlier else records earlier

/-- **What the poller `p`, which waits for the fetches `flying`, has to do with the record of
its run.** -/
structure Kept (log : RunLog) (p : Poller) (flying : List (Nat × Nat)) : Prop where
  polling : p.mode.isPolling = true
  base_le : log.base ≤ p.issued
  runs : ∀ x ∈ flying, x.1 = p.run ↔ log.base < x.2
  nodup : (log.landed.map Prod.fst).Nodup
  landed : ∀ x ∈ log.landed, x.1 ≤ p.issued ∧ x.1 ∉ flying.map Prod.snd
  newest : ∀ x ∈ log.landed, x.1 ≤ p.applied
  status : (log.landed = [] ∧ p.applied ≤ log.base ∧ p.lastStatus = none) ∨
    (p.applied, p.lastStatus) ∈ log.landed
  fetched : p.fetched = records log.landed ++ log.before

variable {log : RunLog} {p q : Poller} {flying flying' : List (Nat × Nat)}

/-- What is nothing to the run is nothing to its record. -/
theorem Kept.quiet (h : log.Kept p flying) (hQuiet : p.Quiet q) (hIssued : p.issued ≤ q.issued)
    (hFlying : ∀ x ∈ flying', x ∈ flying ∨ x = (q.run, q.issued) ∧ q.issued = p.issued + 1) :
    log.Kept q flying' where
  polling := hQuiet.polling.trans h.polling
  base_le := Nat.le_trans h.base_le hIssued
  runs := by
    intro x hx
    rcases hFlying x hx with hOld | ⟨rfl, hNew⟩
    · rw [hQuiet.run]
      exact h.runs x hOld
    · have hBase := h.base_le
      dsimp only
      exact iff_of_true rfl (by omega)
  nodup := h.nodup
  landed := by
    intro x hx
    obtain ⟨hLe, hLanded⟩ := h.landed x hx
    refine ⟨Nat.le_trans hLe hIssued, fun hMem => ?_⟩
    obtain ⟨y, hy, hSame⟩ := List.mem_map.mp hMem
    rcases hFlying y hy with hOld | ⟨rfl, hNew⟩
    · exact hLanded (List.mem_map.mpr ⟨y, hOld, hSame⟩)
    · dsimp only at hSame
      omega
  newest := by
    rw [hQuiet.applied]
    exact h.newest
  status := by
    rw [hQuiet.applied, hQuiet.lastStatus]
    exact h.status
  fetched := hQuiet.fetched.trans h.fetched

/-- The record of a run that begins is empty. -/
theorem Kept.begins (hBegins : p.Begins q) (hStatus : p.lastStatus = none)
    (hApplied : p.applied ≤ p.issued) (hIssued : p.issued ≤ q.issued)
    (hOld : ∀ x ∈ flying, p.Awaits x.1 x.2)
    (hFlying : ∀ x ∈ flying', x ∈ flying ∨ x = (q.run, q.issued) ∧ q.issued = p.issued + 1) :
    Kept { base := p.issued, before := p.fetched } q flying' where
  polling := hBegins.polling
  base_le := hIssued
  runs := by
    have hRun := hBegins.run
    intro x hx
    dsimp only
    rcases hFlying x hx with hBefore | ⟨rfl, hNew⟩
    · -- The run has just begun, so what was in flight before is of an earlier one.
      have hAwaits := hOld x hBefore
      have hBegan := hAwaits.began.le
      have hNumber := hAwaits.issued
      exact iff_of_false (by omega) (by omega)
    · exact iff_of_true rfl (by dsimp only; omega)
  nodup := .nil
  landed := nofun
  newest := nofun
  status := .inl ⟨rfl, by rw [hBegins.applied]; exact hApplied, hBegins.lastStatus.trans hStatus⟩
  fetched := hBegins.fetched

/-- The poller's status is that of the success of the run that was issued last. -/
theorem Kept.lastStatus_eq (h : log.Kept p flying) {x : Nat × Option String} (hx : x ∈ log.landed)
    (hLast : ∀ y ∈ log.landed, y.1 ≤ x.1) : p.lastStatus = x.2 := by
  rcases h.status with ⟨hNone, -, -⟩ | hMem
  · rw [hNone] at hx
    cases hx
  · have hSame : x.1 = p.applied := Nat.le_antisymm (h.newest x hx) (hLast _ hMem)
    rw [List.inj_on_of_nodup_map h.nodup hx hMem hSame]

/-- Two runs that have seen the same successes have the same status, in whatever order they
have seen them. -/
theorem Kept.lastStatus_perm {log' : RunLog} (h : log.Kept p flying) (h' : log'.Kept q flying')
    (hPerm : log.landed.Perm log'.landed) : q.lastStatus = p.lastStatus := by
  -- The success that `p` has its status from is one of `q` too, and the last to be issued.
  rcases h.status with ⟨hNone, -, hStatus⟩ | hMem
  · rw [hNone] at hPerm
    rcases h'.status with ⟨-, -, hStatus'⟩ | hMem'
    · rw [hStatus, hStatus']
    · rw [hPerm.symm.eq_nil] at hMem'
      cases hMem'
  · exact h'.lastStatus_eq (hPerm.mem_iff.mp hMem)
      fun y hy => h.newest y (hPerm.mem_iff.mpr hy)

/-- A fetch that lands and changes nothing leaves the record as it is. -/
theorem Kept.fewer (h : log.Kept p flying) (hFewer : ∀ x ∈ flying', x ∈ flying) :
    log.Kept p flying' :=
  h.quiet (.refl p) (Nat.le_refl _) fun x hx => .inl (hFewer x hx)

/-- A success that goes into the record is not in flight any more. -/
theorem Kept.landed_cons (h : log.Kept p flying) {seq : Nat} (hLe : seq ≤ p.issued)
    (hFewer : ∀ x ∈ flying', x ∈ flying ∧ x.2 ≠ seq) (status : Option String) :
    ∀ x ∈ (seq, status) :: log.landed, x.1 ≤ p.issued ∧ x.1 ∉ flying'.map Prod.snd := by
  intro x hx
  rcases List.mem_cons.mp hx with rfl | hx
  · refine ⟨hLe, fun hMem => ?_⟩
    obtain ⟨y, hy, hSame⟩ := List.mem_map.mp hMem
    exact (hFewer y hy).2 hSame
  · exact (h.fewer fun y hy => (hFewer y hy).1).landed x hx

/-- A success of the run that is newer than all before it. -/
theorem Kept.accept_of_counts (h : log.Kept p flying) {run seq : Nat} (hCounts : p.Counts run seq)
    (hLe : seq ≤ p.issued) (hFewer : ∀ x ∈ flying', x ∈ flying ∧ x.2 ≠ seq)
    (status : Option String) :
    Kept { log with landed := (seq, status) :: log.landed } (p.accept run seq status) flying' := by
  obtain ⟨hRun, hMode, hApplied, hStatus, hFetched⟩ := Poller.accept_of_counts hCounts status
  have hIssued := p.issued_accept run seq status
  have hOlder : ∀ y ∈ log.landed, y.1 < seq :=
    fun y hy => Nat.lt_of_le_of_lt (h.newest y hy) hCounts.2.2.2
  exact {
    polling := by
      rw [hMode]
      exact h.polling
    base_le := by
      rw [hIssued]
      exact h.base_le
    runs := by
      intro x hx
      rw [hRun]
      exact h.runs x (hFewer x hx).1
    nodup := by
      refine List.nodup_cons.mpr ⟨fun hMem => ?_, h.nodup⟩
      obtain ⟨y, hy, hSame⟩ := List.mem_map.mp hMem
      exact Nat.ne_of_lt (hOlder y hy) hSame
    landed := by
      rw [hIssued]
      exact h.landed_cons hLe hFewer status
    newest := by
      intro x hx
      rw [hApplied]
      rcases List.mem_cons.mp hx with rfl | hx
      · exact Nat.le_refl _
      · exact Nat.le_of_lt (hOlder x hx)
    status := by
      rw [hApplied, hStatus]
      exact .inr List.mem_cons_self
    fetched := by
      -- It is newer than all before it, so it is a record.
      rw [hFetched, h.fetched, records, if_pos hOlder]
      rfl }

/-- A success of the run that comes after a newer one. -/
theorem Kept.late (h : log.Kept p flying) {seq : Nat} (hSeq : seq ∈ flying.map Prod.snd)
    (hBase : log.base < seq) (hLate : seq ≤ p.applied) (hLe : seq ≤ p.issued)
    (hFewer : ∀ x ∈ flying', x ∈ flying ∧ x.2 ≠ seq) (status : Option String) :
    Kept { log with landed := (seq, status) :: log.landed } p flying' := by
  have hFewerKept := h.fewer fun x hx => (hFewer x hx).1
  -- The run has applied a result before this one, for the number applied is above `base`.
  have hApplied : (p.applied, p.lastStatus) ∈ log.landed := by
    rcases h.status with ⟨-, hNone, -⟩ | hMem
    · omega
    · exact hMem
  have hNewer : ¬ ∀ y ∈ log.landed, y.1 < seq :=
    fun hAll => Nat.not_lt_of_le hLate (hAll _ hApplied)
  exact { hFewerKept with
    nodup := by
      refine List.nodup_cons.mpr ⟨fun hMem => ?_, h.nodup⟩
      obtain ⟨y, hy, hSame⟩ := List.mem_map.mp hMem
      exact (h.landed y hy).2 (hSame ▸ hSeq)
    landed := h.landed_cons hLe hFewer status
    newest := by
      intro x hx
      rcases List.mem_cons.mp hx with rfl | hx
      · exact hLate
      · exact h.newest x hx
    status := .inr (List.mem_cons_of_mem _ hApplied)
    fetched := by
      rw [h.fetched, records, if_neg hNewer] }

/-- **A success that lands** goes into the record if its fetch was started in this run, and
then counts exactly if it is newer than all that landed before. -/
theorem Kept.accept {earlier later : List (Nat × Nat)} {run seq : Nat}
    (h : log.Kept p (earlier ++ (run, seq) :: later)) (hAlive : p.alive = true)
    (hSorted : ((earlier ++ (run, seq) :: later).map Prod.snd).Nodup) (hLe : seq ≤ p.issued)
    (status : Option String) :
    (log.add (seq, status)).Kept (p.accept run seq status) (earlier ++ later) := by
  have hMem : (run, seq) ∈ earlier ++ (run, seq) :: later :=
    List.mem_append_right _ List.mem_cons_self
  have hFewer : ∀ x ∈ earlier ++ later, x ∈ earlier ++ (run, seq) :: later ∧ x.2 ≠ seq := by
    intro x hx
    have hOthers : ((run, seq) :: (earlier ++ later)).Perm (earlier ++ (run, seq) :: later) :=
      List.perm_middle.symm
    have hNodup := (hOthers.map Prod.snd).nodup_iff.mpr hSorted
    rw [List.map_cons, List.nodup_cons] at hNodup
    exact ⟨hOthers.mem_iff.mp (List.mem_cons_of_mem _ hx),
      fun hSame => hNodup.1 (List.mem_map.mpr ⟨x, hx, hSame⟩)⟩
  -- Of this run or of an earlier one, the number tells; of this run, it is newer than the
  -- newest applied, or too late.
  have hRun : run = p.run ↔ log.base < seq := h.runs (run, seq) hMem
  unfold add
  by_cases hBase : log.base < seq
  · rw [if_pos hBase]
    by_cases hNew : p.applied < seq
    · exact h.accept_of_counts ⟨hAlive, (hRun.mpr hBase).symm, h.polling, hNew⟩ hLe hFewer status
    · rw [Poller.accept_of_not_counts fun hCounts => hNew hCounts.2.2.2]
      exact h.late (List.mem_map.mpr ⟨_, hMem, rfl⟩) hBase (Nat.le_of_not_lt hNew) hLe hFewer status
  · rw [if_neg hBase,
      Poller.accept_of_not_counts fun hCounts => hBase (hRun.mp hCounts.2.1.symm)]
    exact h.fewer fun x hx => (hFewer x hx).1

end RunLog

namespace Scene

variable {ω : Type}

/-- Whether poller `i` polls. -/
def polls (s : Scene ω) (i : Nat) : Bool := s.fleet.pollers[i]?.any (·.mode.isPolling)

/-- The success that a move hands over to poller `i`: the number of its fetch, and its status. -/
def success? (s : Scene ω) (i : Nat) (m : Move ω) : Option (Nat × Option String) :=
  match s.deed? m with
  | some (j, .accept _ seq status) => if j = i then some (seq, status) else none
  | _ => none

/-- A move that begins a run. -/
theorem begins_of_polls {s : Scene ω} {m : Move ω} {i : Nat} {p : Poller}
    (hStopped : p.mode.isPolling = false) (hPolls : (s.turn m i p).mode.isPolling = true) :
    p.Begins (s.turn m i p) := by
  rcases s.turn_cases m i p with hSame | ⟨d, -, hTurn⟩
  · rw [hSame, hStopped] at hPolls
    cases hPolls
  · rw [hTurn] at hPolls ⊢
    have hAccept : ∀ run seq status, d ≠ .accept run seq status := by
      rintro run seq status rfl
      have hNot : ¬ p.Counts run seq := fun hCounts => by
        have hPolling := hCounts.2.2.1
        rw [hStopped] at hPolling
        cases hPolling
      rw [Poller.perform, Poller.accept_of_not_counts hNot, hStopped] at hPolls
      cases hPolls
    rcases p.perform_cases s.fleet.gate.paused s.fleet.now d hAccept with hQuiet | hBegins | hEnds
    · rw [hQuiet.polling, hStopped] at hPolls
      cases hPolls
    · exact hBegins
    · rw [hEnds.polling] at hPolls
      cases hPolls

variable [FetchSource ω]

/-- The record of the run of poller `i` that is going on after a list of moves. A run goes on
for as long as the poller polls. -/
def runLog (s₀ : Scene ω) (i : Nat) : List (Move ω) → Option RunLog
  | [] => none
  | m :: past =>
    let s := s₀.after past
    if (s.move m).polls i then
      match s₀.runLog i past with
      | some log => some (((s.success? i m).map log.add).getD log)
      | none => s.fleet.pollers[i]?.map fun p => { base := p.issued, before := p.fetched }
    else none

/-- The record of a run is kept, and there is one while the poller polls. -/
structure Keeps (s₀ : Scene ω) (i : Nat) (past : List (Move ω)) (p : Poller) : Prop where
  stopped : s₀.runLog i past = none → p.mode.isPolling = false
  kept : ∀ log, s₀.runLog i past = some log → log.Kept p ((s₀.after past).inFlight i)

/-- A move that hands over no success, made while a run is going on that does not end. -/
theorem kept_of_quiet {s : Scene ω} {m : Move ω} {i : Nat} {p : Poller} {log : RunLog}
    (h : log.Kept p (s.inFlight i)) (hp : s.fleet.pollers[i]? = some p)
    (hSuccess : s.success? i m = none) (hPolls : (s.turn m i p).mode.isPolling = true) :
    log.Kept (s.turn m i p) ((s.move m).inFlight i) := by
  have hTraffic := s.traffic m hp
  refine h.quiet ?_ hTraffic.issued_le fun x hx => hTraffic.mem hx
  rcases s.turn_cases m i p with hSame | ⟨d, hDeed, hTurn⟩
  · rw [hSame]
    exact .refl p
  · rw [hTurn] at hPolls ⊢
    have hAccept : ∀ run seq status, d ≠ .accept run seq status := by
      rintro run seq status rfl
      simp [success?, hDeed] at hSuccess
    rcases p.perform_cases s.fleet.gate.paused s.fleet.now d hAccept with hQuiet | hBegins | hEnds
    · exact hQuiet
    · have hPolling := h.polling
      rw [hBegins.before] at hPolling
      cases hPolling
    · rw [hEnds.polling] at hPolls
      cases hPolls

/-- A move that hands over a success, made while a run is going on. -/
theorem kept_of_success {s₀ : Scene ω} (hFresh : s₀.Fresh) {past : List (Move ω)} {m : Move ω}
    {i : Nat} {p : Poller} {log : RunLog} {x : Nat × Option String}
    (h : log.Kept p ((s₀.after past).inFlight i))
    (hp : (s₀.after past).fleet.pollers[i]? = some p) (hAlive : p.alive = true)
    (hSuccess : (s₀.after past).success? i m = some x) :
    (log.add x).Kept ((s₀.after past).turn m i p) (((s₀.after past).move m).inFlight i) := by
  obtain ⟨run, hDeed⟩ : ∃ run, (s₀.after past).deed? m = some (i, .accept run x.1 x.2) := by
    unfold success? at hSuccess
    split at hSuccess
    next j run seq status hDeed =>
      split at hSuccess
      next hj =>
        obtain rfl := Option.some.inj hSuccess
        exact ⟨run, hj ▸ hDeed⟩
      next => cases hSuccess
    next => cases hSuccess
  obtain ⟨seq, status⟩ := x
  rw [turn_of_deed hDeed]
  cases meets_of_deed hDeed with
  | accept k f run seq status flight purpose result =>
      have hPurpose := getElem?_purposes flight
      rw [purpose] at hPurpose
      obtain ⟨earlier, later, hBefore, hAfter⟩ := inFlight_land hPurpose
      have hSorted := (hFresh.sorted past i hp).imp Nat.ne_of_lt
      have hLe := ((hFresh.marked past hp).flights run seq (List.mem_of_getElem? hPurpose)).issued
      rw [hBefore] at h hSorted
      rw [hAfter]
      exact h.accept hAlive hSorted hLe status

/-- **Every move keeps the record.** -/
theorem Keeps.move {s₀ : Scene ω} (hFresh : s₀.Fresh) {past : List (Move ω)} {i : Nat}
    {p : Poller} (h : s₀.Keeps i past p) (hp : (s₀.after past).fleet.pollers[i]? = some p)
    (hAlive : p.alive = true) (m : Move ω) :
    s₀.Keeps i (m :: past) ((s₀.after past).turn m i p) := by
  have hPolls : ((s₀.after past).move m).polls i
      = ((s₀.after past).turn m i p).mode.isPolling := by
    rw [polls, getElem?_move, hp]
    rfl
  have hTraffic := (s₀.after past).traffic m hp
  by_cases hPolling : ((s₀.after past).turn m i p).mode.isPolling = true
  · refine ⟨fun hNone => ?_, fun log hLog => ?_⟩
    · simp only [runLog, hPolls, hPolling, if_true] at hNone
      split at hNone
      next => cases hNone
      next => simp [hp] at hNone
    · simp only [runLog, hPolls, hPolling, if_true] at hLog
      split at hLog
      next log' hBefore =>
        -- The run goes on: it gets one success more, or what happens is nothing to it.
        obtain rfl := Option.some.inj hLog
        have hKept := h.kept log' hBefore
        cases hSuccess : (s₀.after past).success? i m with
        | none => exact kept_of_quiet hKept hp hSuccess hPolling
        | some x => exact kept_of_success hFresh hKept hp hAlive hSuccess
      next hBefore =>
        -- A run has begun, in which nothing has landed yet.
        rw [hp, Option.map_some, Option.some.injEq] at hLog
        subst hLog
        have hStopped := h.stopped hBefore
        have hSound := hFresh.sound past hp hAlive
        have hStatus := hSound.forgotten (Mode.eq_stopped hStopped)
        exact .begins (begins_of_polls hStopped hPolling) hStatus
          hSound.applied_le hTraffic.issued_le
          (fun x hx => (hFresh.marked past hp).flights x.1 x.2 (mem_inFlight.mp hx))
          fun x hx => hTraffic.mem hx
  · refine ⟨fun _ => Bool.eq_false_iff.mpr hPolling, fun log hLog => ?_⟩
    simp only [runLog, hPolls, hPolling] at hLog
    cases hLog

theorem Fresh.keeps {s₀ : Scene ω} (h : s₀.Fresh) (past : List (Move ω)) {i : Nat} {p : Poller}
    (hp : (s₀.after past).fleet.pollers[i]? = some p) (hAlive : p.alive = true) :
    s₀.Keeps i past p := by
  induction past generalizing p with
  | nil =>
      obtain ⟨name, cadence, callback, rfl⟩ := h.pollers p (List.mem_of_getElem? hp)
      exact ⟨fun _ => rfl, fun log hLog => absurd hLog nofun⟩
  | cons m past ih =>
      obtain ⟨q, hq, rfl⟩ := exists_of_move hp
      have hBefore := alive_of_turn hAlive
      exact (ih hq hBefore).move h hq hBefore m

/-- While a run goes on, its record only grows. -/
theorem landed_subset {s₀ : Scene ω} {i : Nat} {m : Move ω} {past : List (Move ω)}
    {log log' : RunLog} (h : s₀.runLog i past = some log)
    (h' : s₀.runLog i (m :: past) = some log') : log.landed ⊆ log'.landed := by
  simp only [runLog, h] at h'
  split at h'
  next =>
    obtain rfl := Option.some.inj h'
    cases (s₀.after past).success? i m with
    | none => exact fun _ hx => hx
    | some x =>
        intro y hy
        rw [Option.map_some, Option.getD_some, RunLog.add]
        split
        next => exact List.mem_cons_of_mem x hy
        next => exact hy
  next => cases h'

/-- **Results are applied in the order of their fetches.** Whatever the order in which the
fetches of a poller land, and whichever of them fail or never do: between runs it has no
status. In a run, of which `log.landed` are the successes so far, numbered in the order in
which their fetches were started,

* it has no status before the first success, and from then on that of the success whose fetch
  was started last;
* it has published those successes, in the order in which they landed, whose fetches were
  started after those of all that had landed before;
* whatever happens next, the success it has its status from is never followed by one whose
  fetch was started earlier;
* any poller that has seen the same successes in its run, in any order, has the same status. -/
theorem results_in_order {s₀ : Scene ω} (hFresh : s₀.Fresh) (past : List (Move ω)) {i : Nat}
    {p : Poller} (hp : (s₀.after past).fleet.pollers[i]? = some p) (hAlive : p.alive = true) :
    (s₀.runLog i past = none → p.mode.isPolling = false ∧ p.lastStatus = none) ∧
    ∀ log, s₀.runLog i past = some log →
      p.mode.isPolling = true ∧
      (((s₀.after past).inFlight i).map Prod.snd).Pairwise (· < ·) ∧
      (log.landed.map Prod.fst).Nodup ∧
      (log.landed = [] → p.lastStatus = none) ∧
      (∀ x ∈ log.landed, (∀ y ∈ log.landed, y.1 ≤ x.1) → p.lastStatus = x.2) ∧
      p.fetched = RunLog.records log.landed ++ log.before ∧
      (∀ m log', s₀.runLog i (m :: past) = some log' →
        ∀ x ∈ log.landed, ∀ y ∈ log'.landed, (∀ z ∈ log'.landed, z.1 ≤ y.1) → x.1 ≤ y.1) ∧
      ∀ (s₁ : Scene ω) (past₁ : List (Move ω)) (j : Nat) (q : Poller) (log₁ : RunLog), s₁.Fresh →
        (s₁.after past₁).fleet.pollers[j]? = some q → q.alive = true →
        s₁.runLog j past₁ = some log₁ → log.landed.Perm log₁.landed →
          q.lastStatus = p.lastStatus := by
  have hKeeps := hFresh.keeps past hp hAlive
  refine ⟨fun hNone => ?_, fun log hLog => ?_⟩
  · have hStopped := hKeeps.stopped hNone
    exact ⟨hStopped, (hFresh.sound past hp hAlive).forgotten (Mode.eq_stopped hStopped)⟩
  · have hKept := hKeeps.kept log hLog
    refine ⟨hKept.polling, hFresh.sorted past i hp, hKept.nodup, fun hNone => ?_,
      fun x hx hLast => hKept.lastStatus_eq hx hLast, hKept.fetched, ?_, ?_⟩
    · rcases hKept.status with ⟨-, -, hStatus⟩ | hMem
      · exact hStatus
      · rw [hNone] at hMem
        cases hMem
    · intro m log' hLog' x hx y hy hLast
      exact hLast x (landed_subset hLog hLog' hx)
    · intro s₁ past₁ j q log₁ hFresh₁ hq hAlive₁ hLog₁ hPerm
      exact hKept.lastStatus_perm ((hFresh₁.keeps past₁ hq hAlive₁).kept log₁ hLog₁) hPerm

/-- A run in which the second fetch lands before the first. -/
def overtaken : List (Move Scripts) :=
  [.land 0, .land 1, .ring 0 0, .pass 12000, .operate 0 .start]

theorem results_in_order_overtaken :
    ∃ p log, (lone.after overtaken).fleet.pollers[0]? = some p ∧
      lone.runLog 0 overtaken = some log ∧ log.landed = [(1, some "up"), (2, some "down")] ∧
      p.lastStatus = some "down" ∧ p.fetched = [some "down"] := by
  obtain ⟨p, hp, hAlive⟩ : ∃ p, (lone.after overtaken).fleet.pollers[0]? = some p ∧
      p.alive = true := ⟨_, rfl, rfl⟩
  obtain ⟨log, hLog, hLanded, hBefore⟩ : ∃ log, lone.runLog 0 overtaken = some log ∧
      log.landed = [(1, some "up"), (2, some "down")] ∧ log.before = [] := ⟨_, rfl, rfl, rfl⟩
  obtain ⟨-, -, -, -, hStatus, hFetched, -⟩ :=
    (results_in_order lone_fresh overtaken hp hAlive).2 log hLog
  rw [hLanded] at hStatus hFetched
  rw [hBefore] at hFetched
  exact ⟨p, log, hp, hLog, hLanded, hStatus (2, some "down") (by simp) (by simp), hFetched⟩

end Scene

end Lookout.Polling
