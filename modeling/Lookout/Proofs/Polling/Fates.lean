import Lookout.Proofs.Polling.Tally

set_option autoImplicit false

/-! # What becomes of the fetches of ticks

`Scene.ledger` keeps book of the fetches of a poller's ticks that have landed, and of what has
become of each (`Fate`): it was published as a success or as a failure, or it was dropped, because
its run was over or because a newer success of its run had been published. The book does not look
at what the poller remembers of its results. `Settled` is the invariant that ties the two
together: each fetch that was issued is in the book, once, or in flight, and what the poller has
published of fetches is what the book says.

The ledger is kept newest first, like the events.
-/

namespace Lookout.Polling

/-- Whether an event tells of a fetch. -/
def TickEvent.isResult : TickEvent → Bool
  | .fetched _ | .failed _ => true
  | .skipped | .statusChanged .. => false

/-- What has become of a fetch that has landed. -/
inductive Fate
  /-- Its success was published, with this status. -/
  | fetched (status : Option String)
  /-- Its failure was published. -/
  | failed (error : String)
  /-- It was dropped: its run was over, or nobody kept the poller any more. -/
  | ended
  /-- It was dropped: it was a success, and a newer success of its run had been published. -/
  | outrun
  deriving Repr, DecidableEq

namespace Fate

/-- The event that tells of it. -/
def event? : Fate → Option TickEvent
  | fetched status => some (.fetched status)
  | failed error => some (.failed error)
  | ended | outrun => none

/-- Whether a success was published. -/
def isFetched : Fate → Bool
  | fetched _ => true
  | failed _ | ended | outrun => false

theorem filter_event? (f : Fate) :
    f.event?.toList.filter TickEvent.isResult = f.event?.toList := by
  cases f <;> rfl

end Fate

/-- A fetch of a tick that lands: its run, its number, and what it comes to. -/
structure Landing where
  run : Nat
  seq : Nat
  result : Except String (Option String)

/-- The run and the number of a fetch that has landed. -/
def Landing.mark (x : Landing) : Nat × Nat := (x.run, x.seq)

/-- The fetches of a poller's ticks that have landed, each with what has become of it. -/
abbrev Ledger := List (Landing × Fate)

/-- Whether a success of a run that is newer than number `seq` was published. -/
def Ledger.outruns (ledger : Ledger) (run seq : Nat) : Bool :=
  ledger.any fun x => x.1.run == run && decide (seq < x.1.seq) && x.2.isFetched

/-- The events that tell of the fetches in a book. -/
def Ledger.events (ledger : Ledger) : List TickEvent := ledger.filterMap (·.2.event?)

theorem Ledger.events_cons (x : Landing) (fate : Fate) (ledger : Ledger) :
    Ledger.events ((x, fate) :: ledger) = fate.event?.toList ++ ledger.events := by
  cases fate <;> rfl

namespace Poller

/-- What becomes of a fetch that lands now. -/
def fate (p : Poller) (ledger : Ledger) (x : Landing) : Fate :=
  if p.alive ∧ p.run = x.run then
    match x.result with
    | .error text => .failed text
    | .ok status => if ledger.outruns x.run x.seq then .outrun else .fetched status
  else .ended

/-- What a poller makes of a fetch that lands. -/
def receive (p : Poller) (x : Landing) : Poller :=
  match x.result with
  | .ok status => p.accept x.run x.seq status
  | .error text => p.fail x.run text

/-! ## The numbers of fetches -/

/-- These are the runs and numbers of all fetches that the poller has issued in its ticks: the
numbers were given out in order, each once, and of two fetches the later is of no earlier run. -/
structure Numbered (p : Poller) (marks : List (Nat × Nat)) : Prop where
  numbers : (marks.map Prod.snd).Perm (List.range' 1 p.issued)
  run_le : ∀ x ∈ marks, x.1 ≤ p.run
  order : ∀ x ∈ marks, ∀ y ∈ marks, x.2 < y.2 → x.1 ≤ y.1

variable {p q : Poller} {marks : List (Nat × Nat)}

namespace Numbered

theorem perm (h : p.Numbered marks) {marks' : List (Nat × Nat)} (hPerm : marks.Perm marks') :
    p.Numbered marks' where
  numbers := (hPerm.map Prod.snd).symm.trans h.numbers
  run_le x hx := h.run_le x (hPerm.mem_iff.mpr hx)
  order x hx y hy := h.order x (hPerm.mem_iff.mpr hx) y (hPerm.mem_iff.mpr hy)

/-- Numbers run from 1 to that of the fetch that was issued last. -/
theorem bounds (h : p.Numbered marks) {x : Nat × Nat} (hx : x ∈ marks) :
    1 ≤ x.2 ∧ x.2 ≤ p.issued := by
  have hMem := h.numbers.mem_iff.mp (List.mem_map_of_mem hx)
  rw [List.mem_range'_1] at hMem
  omega

theorem nodup (h : p.Numbered marks) : (marks.map Prod.snd).Nodup :=
  h.numbers.nodup_iff.mpr List.nodup_range'

/-- If no fetch is issued the numbers are the same. -/
theorem keep (h : p.Numbered marks) (hIssued : q.issued = p.issued) (hRun : p.run ≤ q.run) :
    q.Numbered marks where
  numbers := hIssued ▸ h.numbers
  run_le x hx := Nat.le_trans (h.run_le x hx) hRun
  order := h.order

/-- A fetch that is issued has the next number. -/
theorem issue (h : p.Numbered marks) (hIssued : q.issued = p.issued + 1) (hRun : p.run ≤ q.run) :
    q.Numbered (marks ++ [(q.run, q.issued)]) where
  numbers := by
    rw [List.map_append, hIssued, List.range'_1_concat, Nat.add_comm 1]
    exact h.numbers.append_right _
  run_le := by
    intro x hx
    rcases List.mem_append.mp hx with hOld | hNew
    · exact Nat.le_trans (h.run_le x hOld) hRun
    · rw [List.mem_singleton.mp hNew]
  order := by
    intro x hx y hy hLt
    rcases List.mem_append.mp hy with hOld | hNew
    · have hBound := (h.bounds hOld).2
      rcases List.mem_append.mp hx with hOld' | hNew'
      · exact h.order x hOld' y hOld hLt
      · -- The newest number is not below another.
        rw [List.mem_singleton.mp hNew'] at hLt
        dsimp only at hLt
        omega
    · rw [List.mem_singleton.mp hNew] at hLt ⊢
      rcases List.mem_append.mp hx with hOld' | hNew'
      · exact Nat.le_trans (h.run_le x hOld') hRun
      · rw [List.mem_singleton.mp hNew']

end Numbered

/-! ## The book -/

/-- **The book of a poller is right**: `ledger` and `flying`, the fetches in flight, are all
fetches it has issued, the newest it has applied is the newest success it has published, and what
it has published of fetches is what the book says. -/
structure Settled (p : Poller) (ledger : Ledger) (flying : List (Nat × Nat)) : Prop where
  numbered : p.Numbered (ledger.map (·.1.mark) ++ flying)
  newest : ∀ x ∈ ledger, x.2.isFetched = true → x.1.seq ≤ p.applied
  applied : p.applied = 0 ∨ ∃ x ∈ ledger, x.2.isFetched = true ∧ x.1.seq = p.applied
  events : p.events.filter TickEvent.isResult = ledger.events

/-- The book of a new poller is empty. -/
theorem Fresh.settled (h : p.Fresh) : p.Settled [] [] := by
  obtain ⟨name, cadence, callback, rfl⟩ := h
  exact ⟨⟨.refl _, List.forall_mem_nil _, List.forall_mem_nil _⟩, List.forall_mem_nil _, .inl rfl,
    rfl⟩

variable {ledger : Ledger} {flying flying' : List (Nat × Nat)} {x : Landing}

namespace Settled

/-- What is nothing to the results of a poller is nothing to its book. -/
theorem quiet (h : p.Settled ledger flying)
    (hNumbered : q.Numbered (ledger.map (·.1.mark) ++ flying'))
    (hApplied : q.applied = p.applied)
    (hEvents : q.events.filter TickEvent.isResult = p.events.filter TickEvent.isResult) :
    q.Settled ledger flying' where
  numbered := hNumbered
  newest := hApplied ▸ h.newest
  applied := hApplied ▸ h.applied
  events := hEvents.trans h.events

/-- The fetch that lands goes from those in flight into the book. -/
theorem numbered_land (h : p.Settled ledger flying) (hFlying : flying.Perm (x.mark :: flying'))
    (fate : Fate) : p.Numbered (((x, fate) :: ledger).map (·.1.mark) ++ flying') := by
  refine h.numbered.perm ?_
  calc List.Perm (ledger.map (·.1.mark) ++ flying) (ledger.map (·.1.mark) ++ x.mark :: flying') :=
        hFlying.append_left _
    List.Perm _ (x.mark :: (ledger.map (·.1.mark) ++ flying')) := List.perm_middle

/-- A success of the run that is going on comes too late for the poller exactly if a newer one of
the run was published. -/
theorem outruns_iff (h : p.Settled ledger flying) (hx : x.mark ∈ flying) (hRun : p.run = x.run) :
    ledger.outruns x.run x.seq = true ↔ x.seq ≤ p.applied := by
  have hAll := List.mem_append_right (ledger.map (·.1.mark)) hx
  have hLanded : ∀ y ∈ ledger, y.1.mark ∈ ledger.map (·.1.mark) ++ flying :=
    fun y hy => List.mem_append_left _ (List.mem_map_of_mem hy)
  constructor
  · intro hOutrun
    obtain ⟨y, hy, hNewer⟩ := List.any_eq_true.mp hOutrun
    simp only [Bool.and_eq_true, decide_eq_true_eq] at hNewer
    exact Nat.le_of_lt (Nat.lt_of_lt_of_le hNewer.1.2 (h.newest y hy hNewer.2))
  · intro hLate
    -- The newest that was applied is another fetch, as this one is still in flight; so it is
    -- newer, and then of the same run.
    obtain ⟨y, hy, hFetched, hSeq⟩ := h.applied.resolve_left fun hNone => by
      have hPos := (h.numbered.bounds hAll).1
      dsimp only [Landing.mark] at hPos
      omega
    have hOther : x.seq ≠ y.1.seq := by
      have hNodup := h.numbered.nodup
      rw [List.map_append, List.nodup_append] at hNodup
      refine (hNodup.2.2 y.1.seq ?_ x.seq ?_).symm
      · exact List.mem_map.mpr ⟨y.1.mark, List.mem_map_of_mem hy, rfl⟩
      · exact List.mem_map.mpr ⟨x.mark, hx, rfl⟩
    have hNewer : x.seq < y.1.seq := by omega
    have hLe := h.numbered.order _ hAll _ (hLanded y hy) hNewer
    have hGe := h.numbered.run_le _ (hLanded y hy)
    have hSame : y.1.run = x.run := by
      dsimp only [Landing.mark] at hLe hGe
      omega
    exact List.any_eq_true.mpr ⟨y, hy, by simp [hSame, hNewer, hFetched]⟩

/-- A fetch that is dropped, or that has failed. -/
theorem unapplied (h : p.Settled ledger flying) (hFlying : flying.Perm (x.mark :: flying'))
    {fate : Fate} (hFate : fate.isFetched = false) (hIssued : q.issued = p.issued)
    (hRun : q.run = p.run) (hApplied : q.applied = p.applied)
    (hEvents : q.events = fate.event?.toList ++ p.events) :
    q.Settled ((x, fate) :: ledger) flying' where
  numbered := (h.numbered_land hFlying fate).keep hIssued (Nat.le_of_eq hRun.symm)
  newest := by
    intro y hy hFetched
    rw [hApplied]
    rcases List.mem_cons.mp hy with rfl | hy
    · cases hFate.symm.trans hFetched
    · exact h.newest y hy hFetched
  applied := by
    rw [hApplied]
    exact h.applied.imp_right fun ⟨y, hy, hNewest⟩ => ⟨y, List.mem_cons_of_mem _ hy, hNewest⟩
  events := by
    rw [hEvents, List.filter_append, fate.filter_event?, h.events, Ledger.events_cons]

/-- A success that counts. -/
theorem accept (h : p.Settled ledger flying) (hFlying : flying.Perm (x.mark :: flying'))
    (hCounts : p.Counts x.run x.seq) (status : Option String) :
    (p.accept x.run x.seq status).Settled ((x, .fetched status) :: ledger) flying' := by
  obtain ⟨hRun, -, hApplied, -⟩ := accept_of_counts hCounts status
  have hEvents : (p.accept x.run x.seq status).events = .fetched status :: p.events := by
    rw [accept_eq hCounts]
    cases p.change? status <;> rfl
  refine ⟨?_, fun y hy hFetched => ?_, .inr ⟨_, List.mem_cons_self, rfl, hApplied.symm⟩, ?_⟩
  · exact (h.numbered_land hFlying _).keep (p.issued_accept _ _ _) (Nat.le_of_eq hRun.symm)
  · rw [hApplied]
    rcases List.mem_cons.mp hy with rfl | hy
    · exact Nat.le_refl _
    · exact Nat.le_of_lt (Nat.lt_of_le_of_lt (h.newest y hy hFetched) hCounts.2.2.2)
  · rw [hEvents, List.filter_cons_of_pos rfl, h.events, Ledger.events_cons]
    rfl

/-- **A fetch that lands** is taken from those in flight, and the poller does with it what the
book says. -/
theorem receive (h : p.Settled ledger flying) (hFlying : flying.Perm (x.mark :: flying'))
    (hPolling : p.run = x.run → p.mode.isPolling = true) :
    (p.receive x).Settled ((x, p.fate ledger x) :: ledger) flying' := by
  have hMem : x.mark ∈ flying := hFlying.mem_iff.mpr List.mem_cons_self
  rw [fate, Poller.receive]
  by_cases hMeant : p.alive = true ∧ p.run = x.run
  · rw [if_pos hMeant]
    cases x.result with
    | error text =>
        dsimp only
        rw [fail, if_pos hMeant]
        exact h.unapplied hFlying rfl rfl rfl rfl rfl
    | ok status =>
        dsimp only
        by_cases hLate : x.seq ≤ p.applied
        · rw [if_pos ((h.outruns_iff hMem hMeant.2).mpr hLate),
            accept_of_not_counts fun hCounts => Nat.not_lt_of_le hLate hCounts.2.2.2]
          exact h.unapplied hFlying rfl rfl rfl rfl rfl
        · rw [if_neg fun hOutrun => hLate ((h.outruns_iff hMem hMeant.2).mp hOutrun)]
          exact h.accept hFlying
            ⟨hMeant.1, hMeant.2, hPolling hMeant.2, Nat.lt_of_not_le hLate⟩ status
  · rw [if_neg hMeant]
    cases x.result with
    | error text =>
        dsimp only
        rw [fail, if_neg hMeant]
        exact h.unapplied hFlying rfl rfl rfl rfl rfl
    | ok status =>
        dsimp only
        rw [accept_of_not_counts fun hCounts => hMeant ⟨hCounts.1, hCounts.2.1⟩]
        exact h.unapplied hFlying rfl rfl rfl rfl rfl

end Settled

end Poller

/-! ## News that tell of no fetch -/

/-- Whether a deed is that a fetch of a tick lands. -/
def Deed.lands : Deed → Bool
  | .accept .. | .fail .. => true
  | .operate _ | .ask | .ring _ | .conclude .. => false

namespace Poller

variable (paused : Bool) (now : Nat) (p : Poller)

theorem isResult_tickNews : ∀ e ∈ tickNews paused, e.isResult = false := by
  unfold tickNews
  split <;> simp [TickEvent.isResult]

theorem isResult_startNews : ∀ e ∈ p.startNews paused, e.isResult = false := by
  unfold startNews
  split
  next => exact List.forall_mem_nil _
  next => exact isResult_tickNews paused

/-- Only a fetch that lands makes news of a fetch. -/
theorem isResult_news {d : Deed} (hLands : d.lands = false) :
    ∀ e ∈ p.news paused now d, e.isResult = false := by
  cases d with
  | operate o =>
      rw [news]
      split
      next =>
        cases o with
        | start => exact p.isResult_startNews paused
        | enterActive => exact p.isResult_startNews paused
        | guard => exact p.isResult_startNews paused
        | _ => exact List.forall_mem_nil _
      next => exact List.forall_mem_nil _
  | ask => exact List.forall_mem_nil _
  | ring k =>
      rw [news, ringNews]
      split
      next => exact List.forall_mem_nil _
      next t _ =>
        split
        next =>
          cases t.action with
          | tick generation =>
              rw [alarmNews]
              split
              next => exact isResult_tickNews paused
              next => exact List.forall_mem_nil _
          | expiry generation => exact List.forall_mem_nil _
        next => exact List.forall_mem_nil _
  | accept run seq status => cases hLands
  | fail run error => cases hLands
  | conclude run current previous => simp [news, TickEvent.isResult]

/-- What is no landing changes neither what was applied nor what was published of fetches. -/
theorem results_perform {d : Deed} (hLands : d.lands = false) :
    (p.perform paused now d).applied = p.applied ∧
      (p.perform paused now d).events.filter TickEvent.isResult
        = p.events.filter TickEvent.isResult := by
  constructor
  · have hAccept : ∀ run seq status, d ≠ .accept run seq status := by
      rintro run seq status rfl
      cases hLands
    rcases p.perform_cases paused now d hAccept with hQuiet | hBegins | hEnds
    · exact hQuiet.applied
    · exact hBegins.applied
    · exact hEnds.applied
  · rw [(p.tells_perform paused now d).events, List.filter_append,
      List.filter_eq_nil_iff.mpr fun e he => by simp [p.isResult_news paused now hLands e he],
      List.nil_append]

/-- Runs are counted upwards. -/
theorem run_le_perform (d : Deed) : p.run ≤ (p.perform paused now d).run := by
  rcases p.run_cases paused now d with ⟨hRun, -⟩ | ⟨hRun, -⟩ <;> omega

end Poller

/-! ## In a scene -/

/-- The fetch in flight as one that lands, if a tick of poller `i` waits for it. -/
def Flight.landing? (i : Nat) (f : Flight) : Option Landing :=
  match f.purpose with
  | .direct => none
  | .tick j run seq => if j = i then some ⟨run, seq, f.result⟩ else none

theorem Flight.mark?_eq (i : Nat) (f : Flight) :
    f.purpose.mark? i = (f.landing? i).map Landing.mark := by
  unfold Purpose.mark? landing?
  cases f.purpose with
  | direct => rfl
  | tick j run seq =>
      dsimp only
      split <;> rfl

theorem Flight.purpose_of_landing? {i : Nat} {f : Flight} {x : Landing}
    (h : f.landing? i = some x) : f.purpose = .tick i x.run x.seq ∧ f.result = x.result := by
  unfold landing? at h
  split at h
  next => cases h
  next j run seq hPurpose =>
    split at h
    next hj =>
      obtain rfl := Option.some.inj h
      exact ⟨hj ▸ hPurpose, rfl⟩
    next => cases h

namespace Scene

variable {ω : Type}

/-- The fetch that lands with a move, if a tick of poller `i` waits for it. -/
def landing? (s : Scene ω) (i : Nat) : Move ω → Option Landing
  | .land k => s.fleet.flights[k]?.bind (Flight.landing? i)
  | .operate .. | .ask _ | .ring .. | .conclude _ | .call .. | .signal _ | .note _ | .pass _
  | .resume => none

theorem exists_of_landing? {s : Scene ω} {i : Nat} {m : Move ω} {x : Landing}
    (h : s.landing? i m = some x) : ∃ k f, m = .land k ∧ s.fleet.flights[k]? = some f ∧
      f.purpose = .tick i x.run x.seq ∧ f.result = x.result := by
  cases m with
  | land k =>
      obtain ⟨f, hf, hLanding⟩ := Option.bind_eq_some_iff.mp h
      obtain ⟨hPurpose, hResult⟩ := Flight.purpose_of_landing? hLanding
      exact ⟨k, f, rfl, hf, hPurpose, hResult⟩
  | _ => cases h

/-- A move with which no fetch of it lands is no such deed of poller `i`. -/
theorem lands_of_not_landing {s : Scene ω} {i : Nat} {m : Move ω} {d : Deed}
    (hNone : s.landing? i m = none) (hDeed : s.deed? m = some (i, d)) : d.lands = false := by
  cases meets_of_deed hDeed with
  | accept k f run seq status flight purpose =>
      rw [landing?, flight, Option.bind_some, Flight.landing?, purpose] at hNone
      simp at hNone
  | fail k f run seq error flight purpose =>
      rw [landing?, flight, Option.bind_some, Flight.landing?, purpose] at hNone
      simp at hNone
  | _ => rfl

/-- What the landing of a fetch makes of the poller whose tick waits for it. -/
theorem turn_of_landing {s : Scene ω} {i : Nat} {m : Move ω} {x : Landing}
    (h : s.landing? i m = some x) (p : Poller) : s.turn m i p = p.receive x := by
  obtain ⟨k, f, rfl, hf, hPurpose, hResult⟩ := exists_of_landing? h
  have hDeed : s.deed? (.land k) = f.deed? := by rw [deed?, hf, Option.bind_some]
  rw [Flight.deed?, hPurpose, hResult] at hDeed
  unfold Poller.receive
  cases hx : x.result with
  | ok status =>
      rw [hx] at hDeed
      exact turn_of_deed hDeed p
  | error text =>
      rw [hx] at hDeed
      exact turn_of_deed hDeed p

theorem run_le_turn (s : Scene ω) (m : Move ω) (i : Nat) (p : Poller) :
    p.run ≤ (s.turn m i p).run := by
  rcases s.turn_cases m i p with hSame | ⟨d, -, hTurn⟩
  · rw [hSame]
  · rw [hTurn]
    exact p.run_le_perform _ _ d

variable [FetchSource ω]

/-- What is in flight after a move with which no fetch of poller `i` lands. -/
theorem inFlight_of_not_landing {s : Scene ω} {i : Nat} {m : Move ω}
    (hNone : s.landing? i m = none) :
    (s.move m).inFlight i = s.inFlight i ++ s.issuedBy i m := by
  rw [inFlight, purposes_move, List.filterMap_append]
  refine congrArg (· ++ s.issuedBy i m) ?_
  cases m with
  | land k =>
      rw [remaining]
      cases hf : s.fleet.flights[k]? with
      | none =>
          have hShort : s.fleet.purposes.length ≤ k := by simpa [Fleet.purposes] using hf
          rw [List.eraseIdx_of_length_le hShort]
          rfl
      | some f =>
          rw [landing?, hf, Option.bind_some] at hNone
          have hMark : f.purpose.mark? i = none := by rw [f.mark?_eq, hNone]; rfl
          obtain ⟨front, back, hSplit, hErase⟩ := exists_split (getElem?_purposes hf)
          rw [hErase, inFlight, hSplit, List.filterMap_append, List.filterMap_append,
            List.filterMap_cons_none hMark]
  | _ => rfl

/-- The numbers after a move with which no fetch of poller `i` lands. -/
theorem numbered_of_not_landing {s : Scene ω} {i : Nat} {m : Move ω} {p : Poller}
    {landed : List (Nat × Nat)} (hp : s.fleet.pollers[i]? = some p)
    (hNone : s.landing? i m = none) (h : p.Numbered (landed ++ s.inFlight i)) :
    (s.turn m i p).Numbered (landed ++ (s.move m).inFlight i) := by
  have hRun := s.run_le_turn m i p
  cases s.traffic m hp with
  | none issued same =>
      rw [same]
      exact h.keep issued hRun
  | takesOff issued polling more =>
      rw [more, ← List.append_assoc]
      exact h.issue issued hRun
  | lands earlier later x issued before after =>
      -- Nothing can have landed.
      have hLength := congrArg List.length (inFlight_of_not_landing hNone)
      rw [after, before] at hLength
      simp only [List.length_append, List.length_cons] at hLength
      omega

/-- The fetches of ticks of poller `i` that have landed in a run of moves, each with what has
become of it. -/
def ledger (s₀ : Scene ω) (i : Nat) : List (Move ω) → Ledger
  | [] => []
  | m :: past =>
    match (s₀.after past).fleet.pollers[i]?, (s₀.after past).landing? i m with
    | some p, some x => (x, p.fate (s₀.ledger i past) x) :: s₀.ledger i past
    | _, _ => s₀.ledger i past

/-- **Every poller's book of its fetches is right**, whatever has happened. -/
theorem Fresh.settled {s₀ : Scene ω} (h : s₀.Fresh) (past : List (Move ω)) {i : Nat} {p : Poller}
    (hp : (s₀.after past).fleet.pollers[i]? = some p) :
    p.Settled (s₀.ledger i past) ((s₀.after past).inFlight i) := by
  induction past generalizing p with
  | nil =>
      rw [after, h.inFlight_eq_nil]
      exact (h.pollers p (List.mem_of_getElem? hp)).settled
  | cons m past ih =>
      obtain ⟨q, hq, rfl⟩ := exists_of_move hp
      have hSettled := ih hq
      cases hLanding : (s₀.after past).landing? i m with
      | some x =>
          simp only [ledger, hq, hLanding]
          rw [turn_of_landing hLanding]
          obtain ⟨k, f, rfl, hf, hPurpose, -⟩ := exists_of_landing? hLanding
          have hMark := getElem?_purposes hf
          rw [hPurpose] at hMark
          obtain ⟨earlier, later, hBefore, hAfter⟩ := inFlight_land hMark
          have hAwaits := (h.marked past hq).flights _ _ (List.mem_of_getElem? hMark)
          rw [after, hAfter]
          refine hSettled.receive ?_ fun hRun => hAwaits.began.polling hRun.symm
          rw [hBefore]
          exact List.perm_middle
      | none =>
          simp only [ledger, hq, hLanding]
          have hNumbered := numbered_of_not_landing hq hLanding hSettled.numbered
          have hQuiet : ((s₀.after past).turn m i q).applied = q.applied ∧
              ((s₀.after past).turn m i q).events.filter TickEvent.isResult
                = q.events.filter TickEvent.isResult := by
            rcases (s₀.after past).turn_cases m i q with hSame | ⟨d, hDeed, hTurn⟩
            · rw [hSame]
              exact ⟨rfl, rfl⟩
            · rw [hTurn]
              exact q.results_perform _ _ (lands_of_not_landing hLanding hDeed)
          exact hSettled.quiet hNumbered hQuiet.1 hQuiet.2

/-- **Every tick is accounted for**, and nothing is counted twice. Take any number of new pollers,
and any run of moves.

* Under each name, what was counted with an outcome are the events of that outcome which pollers
  of that name have published, besides what others have put into the journal (`noted`); and the
  changes of status that were counted are the changes that were published.
* When no callback is at work, these are as many as the calls of the callbacks. So if nobody else
  reports on pollers of that name, the changes that were counted, the ticks that were counted as
  changes and the calls are all as many.
* Each tick of a poller, whether it still exists or not, was skipped or has issued a fetch; and
  each call of its callback has had its change published, or is at work.
* Each fetch that was issued, by its number, has landed once or is in flight. Those that have
  landed were published as successes or failures, one event each and in the order in which they
  have landed, unless they were dropped (`Poller.fate`); nothing else was published of fetches. -/
theorem ticks_accounted {s₀ : Scene ω} (hFresh : s₀.Fresh) (past : List (Move ω)) :
    let s := s₀.after past
    (∀ name,
      (∀ outcome, Journal.count s.fleet.journal (.tick name outcome)
        = Journal.count (s₀.noted past) (.tick name outcome)
          + (s.fleet.published name).countP (·.outcome = outcome)) ∧
      Journal.count s.fleet.journal (.statusChange name)
        = Journal.count (s₀.noted past) (.statusChange name)
          + (s.fleet.published name).countP (·.outcome = .statusChanged) ∧
      (s.reports = [] → (s.fleet.called name).length
        = (s.fleet.published name).countP (·.outcome = .statusChanged)) ∧
      (s.reports = [] → (∀ e ∈ s₀.noted past, e.subject ≠ .poller name) →
        Journal.count s.fleet.journal (.statusChange name)
            = Journal.count s.fleet.journal (.tick name .statusChanged) ∧
          Journal.count s.fleet.journal (.statusChange name) = (s.fleet.called name).length)) ∧
    ∀ i p, s.fleet.pollers[i]? = some p →
      (s₀.tickLog i past).length = p.events.count .skipped + p.issued ∧
      p.changes.length
        = p.events.countP (·.outcome = .statusChanged) + (s.pending i).length ∧
      ((s₀.ledger i past).map (·.1.seq) ++ (s.inFlight i).map Prod.snd).Perm
        (List.range' 1 p.issued) ∧
      p.events.filter TickEvent.isResult = (s₀.ledger i past).filterMap (·.2.event?) := by
  intro s
  refine ⟨fun name => ?_, fun i p hp => ?_⟩
  · have hTick : ∀ outcome, Journal.count s.fleet.journal (.tick name outcome)
        = Journal.count (s₀.noted past) (.tick name outcome)
          + (s.fleet.published name).countP (·.outcome = outcome) := by
      intro outcome
      rw [hFresh.counted past (c := .tick name outcome) rfl, TickEvent.count_tick]
    have hChange : Journal.count s.fleet.journal (.statusChange name)
        = Journal.count (s₀.noted past) (.statusChange name)
          + (s.fleet.published name).countP (·.outcome = .statusChanged) := by
      rw [hFresh.counted past (c := .statusChange name) rfl, TickEvent.count_statusChange]
      rfl
    have hCalled := fun hNone => hFresh.called_eq past hNone name
    refine ⟨hTick, hChange, hCalled, fun hNone hOthers => ?_⟩
    rw [hTick, hChange, hCalled hNone, Journal.count_eq_zero hOthers, Journal.count_eq_zero hOthers]
    exact ⟨rfl, Nat.zero_add _⟩
  · have hSettled := hFresh.settled past hp
    refine ⟨hFresh.attempts_eq past hp, hFresh.calls_eq past hp, ?_, hSettled.events⟩
    have hNumbers := hSettled.numbered.numbers
    rw [List.map_append, List.map_map] at hNumbers
    exact hNumbers

/-- Two pollers of one name. -/
def twins : Scene Scripts where
  fleet :=
    { gate := { delays := .standard }
      pollers := [{ name := "twin", callback := some [] }, { name := "twin" }]
      source := ⟨[[{ answer := .ok (.str "up") }, { answer := .error "lost" },
        { answer := .ok (.str "down") }], [{ answer := .ok (.str "up") }]]⟩ }

theorem twins_fresh : twins.Fresh where
  pollers := by
    intro p hp
    simp only [twins, List.mem_cons, List.not_mem_nil, or_false] at hp
    rcases hp with rfl | rfl <;> exact ⟨_, _, _, rfl⟩
  flights := nofun
  reports := rfl

/-- Of the five fetches of the first, one finds that its server is up, the next fails, the third
lands after the fourth, which finds a change, and the fifth lands when its run is over; then the
first is started again in a pause. The fetch of the second stays in flight. -/
def eventful : List (Move Scripts) :=
  [.operate 0 .start, .land 1, .operate 0 .stop, .signal .trigger, .ring 0 0, .pass 12000, .land 1,
    .conclude 0, .land 2, .ring 0 0, .pass 12000, .ring 0 0, .pass 12000, .land 1, .ring 0 0,
    .pass 12000, .land 0, .operate 1 .start, .operate 0 .start]

theorem ticks_accounted_eventful :
    let s := twins.after eventful
    Journal.count s.fleet.journal (.tick "twin" .fetched) = 2 ∧
      Journal.count s.fleet.journal (.statusChange "twin") = (s.fleet.called "twin").length ∧
      ∃ p, s.fleet.pollers[0]? = some p ∧ p.events.count .skipped + p.issued = 6 ∧
        (twins.ledger 0 eventful).map (·.2)
          = [.ended, .outrun, .fetched (some "down"), .failed "lost", .fetched (some "up")] ∧
        p.events.filter TickEvent.isResult
          = [.fetched (some "down"), .failed "lost", .fetched (some "up")] := by
  intro s
  obtain ⟨hNames, hPollers⟩ := ticks_accounted twins_fresh eventful
  obtain ⟨hTick, -, -, hCalls⟩ := hNames "twin"
  have hNoted : twins.noted eventful = [] := rfl
  have hFetched := hTick .fetched
  have hPublished : (s.fleet.published "twin").countP (·.outcome = .fetched) = 2 := rfl
  rw [hNoted, hPublished] at hFetched
  have hSole : ∀ e ∈ twins.noted eventful, e.subject ≠ .poller "twin" := by
    rw [hNoted]
    exact List.forall_mem_nil _
  obtain ⟨p, hp⟩ : ∃ p, s.fleet.pollers[0]? = some p := ⟨_, rfl⟩
  have hTicks : (twins.tickLog 0 eventful).length = 6 := rfl
  have hFates : (twins.ledger 0 eventful).map (·.2)
      = [.ended, .outrun, .fetched (some "down"), .failed "lost", .fetched (some "up")] := rfl
  have hTold : (twins.ledger 0 eventful).filterMap (·.2.event?)
      = [.fetched (some "down"), .failed "lost", .fetched (some "up")] := rfl
  obtain ⟨hAttempts, -, -, hEvents⟩ := hPollers 0 p hp
  exact ⟨hFetched, (hCalls rfl hSole).2, p, hp, hAttempts.symm.trans hTicks, hFates,
    hEvents.trans hTold⟩

end Scene

end Lookout.Polling
