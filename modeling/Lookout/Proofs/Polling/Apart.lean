import Lookout.Proofs.Polling.Parts

set_option autoImplicit false

/-! # Pollers that share a gate do not interfere

Take a run, and take out of it everything that poller `i` does (`Scene.without`): what is done
with its handles, the firing of its timers, its fetches with their landings, its reports. The
moves of all others stay, and time passes as before. As long as the fetches of poller `i` are
discreet (`Scene.discreet`) and do not change how the fetches of others are answered
(`FetchSource.Separate`), nobody else can tell the difference (`Scene.AlikeBut`).

A fetch that was called for out of turn does not tell who called for it, so `Scene.manifest`
keeps a list of the fetches in flight in which those of poller `i` are marked. The proof goes
part by part: a move that is left out changes no part that others see (`Apart.hidden`), and one
that stays changes both runs in the same way (`Apart.kept`).
-/

namespace Lookout.Polling

open Journal (Entry Subject)

/-! ## Entries chosen from a list -/

section Filter

variable {α : Type} {P : α → Bool}

/-- The place of an entry among those that are chosen. -/
theorem getElem?_filter_take {l : List α} {k : Nat} (h : ∀ x, l[k]? = some x → P x = true) :
    (l.filter P)[(l.take k).countP P]? = l[k]? := by
  induction l generalizing k with
  | nil => simp
  | cons y l ih =>
      cases k with
      | zero =>
          have hy : P y = true := h y rfl
          simp [List.filter_cons_of_pos hy]
      | succ k =>
          have hRest := ih fun x hx => h x hx
          by_cases hy : P y = true
          · simp [List.filter_cons_of_pos hy, List.countP_cons_of_pos hy, hRest]
          · simp [List.filter_cons_of_neg hy, List.countP_cons_of_neg hy, hRest]

/-- An entry is taken from those that are chosen. -/
theorem eraseIdx_filter_take {l : List α} {k : Nat} (h : ∀ x, l[k]? = some x → P x = true) :
    (l.filter P).eraseIdx ((l.take k).countP P) = (l.eraseIdx k).filter P := by
  induction l generalizing k with
  | nil => simp
  | cons y l ih =>
      cases k with
      | zero =>
          have hy : P y = true := h y rfl
          simp [List.filter_cons_of_pos hy]
      | succ k =>
          have hRest := ih fun x hx => h x hx
          by_cases hy : P y = true
          · simp [List.filter_cons_of_pos hy, List.countP_cons_of_pos hy, hRest]
          · simp [List.filter_cons_of_neg hy, List.countP_cons_of_neg hy, hRest]

/-- An entry that is not chosen is not missed. -/
theorem filter_eraseIdx_of_neg {l : List α} {k : Nat} {x : α} (hx : l[k]? = some x)
    (h : P x = false) : (l.eraseIdx k).filter P = l.filter P := by
  induction l generalizing k with
  | nil => cases hx
  | cons y l ih =>
      cases k with
      | zero =>
          obtain rfl := Option.some.inj hx
          simp [h]
      | succ k =>
          have hRest := ih hx
          by_cases hy : P y = true
          · simp [List.filter_cons_of_pos hy, hRest]
          · simp [List.filter_cons_of_neg hy, hRest]

end Filter

/-! ## Fetches that concern nobody else -/

/-- Whether an effect of a fetch tells the gate nothing, and nobody about a poller. -/
def Effect.isDiscreet : Effect → Bool
  | .signal _ => false
  | .report e => e.subject = .other

/-- Whether a fetch has only such effects. -/
def Flight.isDiscreet (f : Flight) : Bool := f.effects.all Effect.isDiscreet

theorem signals_of_discreet {effects : List Effect} (h : effects.all Effect.isDiscreet = true) :
    effects.filterMap Effect.signal? = [] := by
  rw [List.filterMap_eq_nil_iff]
  intro e he
  cases e with
  | signal x =>
      have hNot := List.all_eq_true.mp h _ he
      cases hNot
  | report e => rfl

theorem entries_of_discreet {effects : List Effect} (h : effects.all Effect.isDiscreet = true)
    (now : Nat) (g : Backoff.Gate) : ∀ e ∈ effectEntries now g effects, e.subject = .other := by
  induction effects with
  | nil => exact nofun
  | cons x rest ih =>
      rw [List.all_cons, Bool.and_eq_true] at h
      cases x with
      | signal x => cases h.1
      | report e =>
          intro e' he'
          rcases List.mem_append.mp he' with hRest | hOne
          · exact ih h.2 e' hRest
          · rw [List.mem_singleton.mp hOne]
            exact of_decide_eq_true h.1

/-- Two worlds are `alike` to all but poller `i`: they answer the fetches of others in the same
way, and stay alike when others call upon both, or poller `i` upon the first. -/
structure FetchSource.Separate {ω : Type} [FetchSource ω] (i : Nat) (alike : ω → ω → Prop) :
    Prop where
  refl : ∀ w, alike w w
  others : ∀ w w' j, j ≠ i → alike w w' →
    (FetchSource.fetch w j).1 = (FetchSource.fetch w' j).1 ∧
      alike (FetchSource.fetch w j).2 (FetchSource.fetch w' j).2
  own : ∀ w w', alike w w' → alike (FetchSource.fetch w i).2 w'

/-- Each poller has a script of its own. -/
theorem Scripts.separate (i : Nat) : FetchSource.Separate i fun w w' : Scripts =>
    ∀ j, j ≠ i → w.replies[j]? = w'.replies[j]? where
  refl w j hj := rfl
  others w w' j hj h := by
    have hReply : w.reply j = w'.reply j := by
      rw [Scripts.reply, Scripts.reply, List.getD_eq_getElem?_getD, List.getD_eq_getElem?_getD,
        h j hj]
    refine ⟨congrArg Reply.fetch hReply, fun k hk => ?_⟩
    show (w.replies.modify j fun rs => (nextReply rs).2)[k]?
      = (w'.replies.modify j fun rs => (nextReply rs).2)[k]?
    rw [List.getElem?_modify, List.getElem?_modify, h k hk]
  own w w' h k hk := by
    show (w.replies.modify i fun rs => (nextReply rs).2)[k]? = _
    rw [List.getElem?_modify, h k hk]
    simp [Ne.symm hk]

/-- The entries of a journal that report on something. -/
def about (x : Subject) (journal : List Entry) : List Entry := journal.filter (·.subject = x)

/-! ## Runs without a poller -/

/-- A move with another number for what lands, and for what is concluded. -/
def Move.renumber {ω : Type} (flight report : Nat → Nat) : Move ω → Move ω
  | .land k => .land (flight k)
  | .conclude k => .conclude (report k)
  | m => m

/-- Whether a fetch that lands with a move is discreet, if it is marked. -/
def Move.landsDiscreetly {ω : Type} (flying : List (Flight × Bool)) : Move ω → Bool
  | .land k => flying[k]?.all fun x => !x.2 || x.1.isDiscreet
  | _ => true

namespace Scene

variable {ω : Type}

/-- Whether a move is a deed of poller `i`. -/
def isOf (s : Scene ω) (i : Nat) (m : Move ω) : Bool := (s.deed? m).any (·.1 = i)

variable [FetchSource ω]

/-- The fetches in flight, those that poller `i` has called for marked. -/
def manifest (s₀ : Scene ω) (i : Nat) : List (Move ω) → List (Flight × Bool)
  | [] => s₀.fleet.flights.map fun f => (f, false)
  | m :: past =>
    m.unload (s₀.manifest i past)
      ++ ((s₀.after past).takingOff m).map fun f => (f, (s₀.after past).isOf i m)

theorem map_manifest (s₀ : Scene ω) (i : Nat) (past : List (Move ω)) :
    (s₀.manifest i past).map Prod.fst = (s₀.after past).fleet.flights := by
  induction past with
  | nil => simp [manifest, after, Function.comp_def]
  | cons m past ih =>
      rw [after, flights_eq, manifest, List.map_append, List.map_map, Move.map_unload, ih]
      simp [Function.comp_def]

/-- A tick waits for a fetch that takes off only if it is of the poller whose deed the move is. -/
theorem deed_of_takingOff {s : Scene ω} {m : Move ω} {f : Flight} (hf : f ∈ s.takingOff m)
    {j run seq : Nat} (hTick : f.purpose = .tick j run seq) : ∃ d, s.deed? m = some (j, d) := by
  rcases mem_takingOff hf with ⟨hDirect, -⟩ | ⟨i, d, purpose, hDeed, hLaunched, rfl⟩
  · rw [hDirect] at hTick
    cases hTick
  · have hFor : purpose = .tick j run seq := hTick
    subst hFor
    unfold launchedBy at hLaunched
    cases hp : s.fleet.pollers[i]? with
    | none =>
        rw [hp] at hLaunched
        cases hLaunched
    | some p =>
        rw [hp] at hLaunched
        obtain rfl := p.eq_of_launches _ _ hLaunched
        exact ⟨d, hDeed⟩

/-- Of the fetches that ticks wait for, those are marked that poller `i` waits for. -/
theorem marked_iff {s₀ : Scene ω} (hFresh : s₀.Fresh) {i : Nat} {past : List (Move ω)} {f : Flight}
    {b : Bool} (h : (f, b) ∈ s₀.manifest i past) {j run seq : Nat}
    (hTick : f.purpose = .tick j run seq) : b = true ↔ j = i := by
  induction past with
  | nil =>
      obtain ⟨g, hg, hSame⟩ := List.mem_map.mp h
      obtain ⟨rfl, -⟩ := Prod.mk.inj hSame
      rw [hFresh.flights g hg] at hTick
      cases hTick
  | cons m past ih =>
      rw [manifest, List.mem_append] at h
      rcases h with hOld | hNew
      · refine ih ?_
        cases m with
        | land k => exact List.mem_of_mem_eraseIdx hOld
        | _ => exact hOld
      · obtain ⟨g, hg, hSame⟩ := List.mem_map.mp hNew
        obtain ⟨rfl, rfl⟩ := Prod.mk.inj hSame
        obtain ⟨d, hDeed⟩ := deed_of_takingOff hg hTick
        rw [isOf, hDeed]
        simp

/-- Whether a move is the landing of a fetch that poller `i` has called for, or an entry that is
`own`. -/
def returnsTo (s₀ : Scene ω) (i : Nat) (own : Entry → Bool) (past : List (Move ω)) :
    Move ω → Bool
  | .land k => (s₀.manifest i past)[k]?.any Prod.snd
  | .note e => own e
  | _ => false

/-- Whether a move after some others is one of poller `i`: a deed of it, the landing of a fetch
that it has called for, or an entry that is its own. -/
def hides (s₀ : Scene ω) (i : Nat) (own : Entry → Bool) (past : List (Move ω)) (m : Move ω) :
    Bool :=
  (s₀.after past).isOf i m || s₀.returnsTo i own past m

/-- Whether a fetch in flight is not one that poller `i` has called for. -/
def unmarked (x : Flight × Bool) : Bool := !x.2

theorem map_filter_unmarked (l : List Flight) :
    ((l.map fun f => (f, false)).filter unmarked).map Prod.fst = l := by
  rw [List.filter_eq_self.mpr (by simp [unmarked]), List.map_map]
  exact List.map_id _

/-- A move as it is without those of poller `i` before it. -/
def seen (s₀ : Scene ω) (i : Nat) (past : List (Move ω)) (m : Move ω) : Move ω :=
  m.renumber (fun k => ((s₀.manifest i past).take k).countP unmarked)
    fun k => ((s₀.after past).reports.take k).countP (·.poller ≠ i)

/-- A run without the moves of poller `i`. -/
def without (s₀ : Scene ω) (i : Nat) (own : Entry → Bool) : List (Move ω) → List (Move ω)
  | [] => []
  | m :: past =>
    if s₀.hides i own past m then s₀.without i own past
    else s₀.seen i past m :: s₀.without i own past

/-- Whether every fetch that has landed and that poller `i` has called for is discreet. -/
def discreet (s₀ : Scene ω) (i : Nat) : List (Move ω) → Bool
  | [] => true
  | m :: past => m.landsDiscreetly (s₀.manifest i past) && s₀.discreet i past

/-- **Nobody but poller `i`, which is called `name`, can tell `s` from `t`**: time and gate are
the same, so are all other pollers, and the journal has the same entries about each of them and
about the gate. -/
structure AlikeBut (i : Nat) (name : String) (s t : Scene ω) : Prop where
  now : t.fleet.now = s.fleet.now
  gate : t.fleet.gate = s.fleet.gate
  pollers : ∀ j, j ≠ i → t.fleet.pollers[j]? = s.fleet.pollers[j]?
  journal : ∀ x, x ≠ .poller name → x ≠ .other →
    about x t.fleet.journal = about x s.fleet.journal

/-- `t` is `s` without poller `i`, which is called `name`: to everybody else the two are alike,
and `t` has the fetches of `flying` that are not marked, and the reports of others. -/
structure Apart (i : Nat) (name : String) (alike : ω → ω → Prop) (flying : List (Flight × Bool))
    (s t : Scene ω) : Prop extends AlikeBut i name s t where
  source : alike s.fleet.source t.fleet.source
  flights : t.fleet.flights = (flying.filter unmarked).map Prod.fst
  reports : t.reports = s.reports.filter (·.poller ≠ i)

section Step

variable {s₀ t : Scene ω} {i : Nat} {name : String} {alike : ω → ω → Prop} {own : Entry → Bool}
  {past : List (Move ω)} {m : Move ω}

theorem about_append (x : Subject) (l l' : List Entry) :
    about x (l ++ l') = about x l ++ about x l' :=
  List.filter_append _ _

theorem about_eq_nil {x : Subject} {l : List Entry} (h : ∀ e ∈ l, e.subject ≠ x) :
    about x l = [] := by
  rw [about, List.filter_eq_nil_iff]
  exact fun e he hSame => h e he (of_decide_eq_true hSame)

/-- What is not of poller `i` is a deed of another poller, or of none. -/
theorem not_of_hides (h : s₀.hides i own past m = false) (d : Deed) :
    (s₀.after past).deed? m ≠ some (i, d) := by
  intro hDeed
  rw [hides, Bool.or_eq_false_iff, isOf, hDeed] at h
  simp at h

omit [FetchSource ω] in
/-- A report is opened only of the poller whose deed the move is. -/
theorem deed_of_opened {s : Scene ω} {r : Report} (hr : r ∈ s.opened m) :
    ∃ d, s.deed? m = some (r.poller, d) := by
  rw [Scene.opened, Option.mem_toList, Option.bind_eq_some_iff] at hr
  obtain ⟨⟨j, d⟩, hDeed, hOpens⟩ := hr
  obtain ⟨p, -, hReport⟩ := Option.bind_eq_some_iff.mp hOpens
  obtain rfl := Poller.opens?_poller hReport
  exact ⟨d, hDeed⟩

theorem unmarked_of_kept {k : Nat} (hOther : s₀.hides i own past (.land k) = false)
    (x : Flight × Bool) (hx : (s₀.manifest i past)[k]? = some x) : unmarked x = true := by
  rw [hides, Bool.or_eq_false_iff, returnsTo, hx] at hOther
  rw [unmarked, Bool.not_eq_true']
  exact hOther.2

theorem ne_of_kept {k : Nat} (hOther : s₀.hides i own past (.conclude k) = false) (r : Report)
    (hr : (s₀.after past).reports[k]? = some r) : decide (r.poller ≠ i) = true := by
  refine decide_eq_true fun hPoller => ?_
  refine not_of_hides hOther (.conclude r.run r.current r.previous) ?_
  rw [deed?, hr, Option.map_some, hPoller]

/-- A fetch that stays in flight, in its new place. -/
theorem Apart.getElem?_flights
    (h : Apart i name alike (s₀.manifest i past) (s₀.after past) t) {k : Nat}
    (hOther : s₀.hides i own past (.land k) = false) :
    t.fleet.flights[((s₀.manifest i past).take k).countP unmarked]?
      = (s₀.after past).fleet.flights[k]? := by
  rw [h.flights, ← map_manifest, List.getElem?_map, List.getElem?_map,
    getElem?_filter_take (unmarked_of_kept hOther)]

/-- A report that stays open, in its new place. -/
theorem Apart.getElem?_reports
    (h : Apart i name alike (s₀.manifest i past) (s₀.after past) t) {k : Nat}
    (hOther : s₀.hides i own past (.conclude k) = false) :
    t.reports[((s₀.after past).reports.take k).countP (·.poller ≠ i)]?
      = (s₀.after past).reports[k]? := by
  rw [h.reports]
  exact getElem?_filter_take (ne_of_kept hOther)

/-- The move that is seen of another poller is the same deed. -/
theorem Apart.deed? (h : Apart i name alike (s₀.manifest i past) (s₀.after past) t)
    (hOther : s₀.hides i own past m = false) :
    t.deed? (s₀.seen i past m) = (s₀.after past).deed? m := by
  cases m with
  | land k =>
      show t.fleet.flights[_]?.bind Flight.deed? = _
      rw [h.getElem?_flights hOther]
      rfl
  | conclude k =>
      show t.reports[_]?.map _ = _
      rw [h.getElem?_reports hOther]
      rfl
  | _ => rfl

section Others

variable (h : Apart i name alike (s₀.manifest i past) (s₀.after past) t)
  (hOther : s₀.hides i own past m = false)
include h hOther

/-- The move tells the gate the same. -/
theorem Apart.signals : t.signals (s₀.seen i past m) = (s₀.after past).signals m := by
  cases m with
  | land k =>
      show ((t.fleet.flights[_]?.map Flight.effects).getD []).filterMap _ = _
      rw [h.getElem?_flights hOther]
      rfl
  | _ => rfl

/-- The move makes the same of every poller. -/
theorem Apart.turn (j : Nat) : t.turn (s₀.seen i past m) j = (s₀.after past).turn m j := by
  funext p
  rw [Scene.turn, Scene.turn, h.deed? hOther, h.gate, h.now]

/-- Whatever the move makes of the poller whose deed it is, if it is one, is the same. -/
theorem Apart.ofDeed {α : Type} (f : Nat → Option Poller → Deed → α) :
    ((t.deed? (s₀.seen i past m)).map fun x => f x.1 t.fleet.pollers[x.1]? x.2)
      = ((s₀.after past).deed? m).map fun x => f x.1 (s₀.after past).fleet.pollers[x.1]? x.2 := by
  rw [h.deed? hOther]
  cases hDeed : (s₀.after past).deed? m with
  | none => rfl
  | some x =>
      have hj : x.1 ≠ i := by
        rintro rfl
        exact not_of_hides hOther x.2 hDeed
      rw [Option.map_some, Option.map_some, h.pollers x.1 hj]

/-- The same is written. -/
theorem Apart.written : t.written (s₀.seen i past m) = (s₀.after past).written m := by
  have hBy : ((t.deed? (s₀.seen i past m)).map fun x => t.writtenBy x.1 x.2)
      = ((s₀.after past).deed? m).map fun x => (s₀.after past).writtenBy x.1 x.2 := by
    unfold writtenBy
    rw [h.gate, h.now]
    exact h.ofDeed hOther fun _ p d => (p.map (Poller.entries _ _ · d)).getD []
  cases m with
  | signal x =>
      show (t.fleet.gate.tell t.fleet.now x).2 = _
      rw [h.gate, h.now]
      rfl
  | resume =>
      show t.resumeEntries = (s₀.after past).resumeEntries
      rw [resumeEntries, resumeEntries, h.gate, h.now]
  | land k =>
      have hLanded : t.landEntries = (s₀.after past).landEntries := by
        funext f
        rw [landEntries, landEntries, h.gate, h.now]
      refine congrArg₂ (fun x y => x.getD [] ++ y) hBy ?_
      show (t.fleet.flights[_]?.map t.landEntries).getD [] = _
      rw [h.getElem?_flights hOther, hLanded]
  | note e => rfl
  | call f source => rfl
  | pass ms => rfl
  | _ => exact congrArg (·.getD []) hBy

/-- The same reports are opened. -/
theorem Apart.opened : t.opened (s₀.seen i past m) = (s₀.after past).opened m := by
  have hOpens := h.ofDeed hOther fun j p d => p.bind (·.opens? j d)
  unfold Scene.opened
  cases hDeed : (s₀.after past).deed? m with
  | none =>
      rw [h.deed? hOther, hDeed]
      rfl
  | some x =>
      rw [h.deed? hOther, hDeed, Option.map_some, Option.map_some, Option.some.injEq] at hOpens
      rw [h.deed? hOther, hDeed, Option.bind_some, Option.bind_some, hOpens]

/-- The same fetches take off. -/
theorem Apart.takingOff (hSeparate : FetchSource.Separate i alike) :
    t.takingOff (s₀.seen i past m) = (s₀.after past).takingOff m := by
  have hFlight : ∀ j, j ≠ i → t.fleet.flight j = (s₀.after past).fleet.flight j := by
    intro j hj
    funext purpose
    rw [Fleet.flight, Fleet.flight, h.now, (hSeparate.others _ _ j hj h.source).1]
  have hDeed : ((t.deed? (s₀.seen i past m)).map fun x =>
        (t.launchedBy x.1 x.2).map (t.fleet.flight x.1))
      = ((s₀.after past).deed? m).map fun x =>
        ((s₀.after past).launchedBy x.1 x.2).map ((s₀.after past).fleet.flight x.1) := by
    rw [h.deed? hOther]
    cases hDeed : (s₀.after past).deed? m with
    | none => rfl
    | some x =>
        have hj : x.1 ≠ i := by
          rintro rfl
          exact not_of_hides hOther x.2 hDeed
        rw [Option.map_some, Option.map_some, hFlight x.1 hj, Scene.launchedBy, Scene.launchedBy,
          h.pollers x.1 hj, h.gate, h.now]
  cases m with
  | call f source =>
      show [(⟨t.fleet.now + f.duration, .direct, f.effects, f.result⟩ : Flight)] = _
      rw [h.now]
      rfl
  | _ => exact congrArg (·.getD []) hDeed

/-- The worlds that answer fetches stay alike. -/
theorem Apart.consulted (hSeparate : FetchSource.Separate i alike) :
    alike ((s₀.after past).consulted m) (t.consulted (s₀.seen i past m)) := by
  have hDeed : alike
      ((((s₀.after past).deed? m).map fun x =>
        if (s₀.after past).launchedBy x.1 x.2 = [] then (s₀.after past).fleet.source
        else (FetchSource.fetch (s₀.after past).fleet.source x.1).2).getD
          (s₀.after past).fleet.source)
      (((t.deed? (s₀.seen i past m)).map fun x =>
        if t.launchedBy x.1 x.2 = [] then t.fleet.source
        else (FetchSource.fetch t.fleet.source x.1).2).getD t.fleet.source) := by
    rw [h.deed? hOther]
    cases hDeed : (s₀.after past).deed? m with
    | none => exact h.source
    | some x =>
        have hj : x.1 ≠ i := by
          rintro rfl
          exact not_of_hides hOther x.2 hDeed
        have hLaunched : t.launchedBy x.1 x.2 = (s₀.after past).launchedBy x.1 x.2 := by
          rw [Scene.launchedBy, Scene.launchedBy, h.pollers x.1 hj, h.gate, h.now]
        rw [Option.map_some, Option.map_some, Option.getD_some, Option.getD_some, hLaunched]
        split
        next => exact h.source
        next => exact (hSeparate.others _ _ x.1 hj h.source).2
  cases m with
  | call f source => exact hSeparate.refl source
  | _ => exact hDeed

end Others

/-- **A move that is not of poller `i`** changes both in the same way. -/
theorem Apart.kept (h : Apart i name alike (s₀.manifest i past) (s₀.after past) t)
    (hSeparate : FetchSource.Separate i alike) (hOther : s₀.hides i own past m = false) :
    Apart i name alike (s₀.manifest i (m :: past)) (s₀.after (m :: past))
      (t.move (s₀.seen i past m)) := by
  have hIsOf : (s₀.after past).isOf i m = false := by
    rw [hides, Bool.or_eq_false_iff] at hOther
    exact hOther.1
  refine ⟨⟨?_, ?_, ?_, ?_⟩, ?_, ?_, ?_⟩
  · have hDuration : (s₀.seen i past m).duration = m.duration := by
      cases m <;> rfl
    rw [after, now_move, now_move, h.now, hDuration]
  · rw [after]
    by_cases hm : m = .resume
    · subst hm
      show (t.move .resume).fleet.gate = _
      rw [gate_resume, gate_resume, h.gate, h.now]
    · have hSeen : s₀.seen i past m ≠ .resume := by
        cases m <;> first | exact hm | (intro hSame; cases hSame)
      rw [gate_move _ hSeen, gate_move _ hm, h.signals hOther, h.gate, h.now]
  · intro j hj
    rw [after, getElem?_move, getElem?_move, h.turn hOther, h.pollers j hj]
  · intro x hOwn hPrivate
    rw [after, journal_move, journal_move, h.written hOther, about_append, about_append,
      h.journal x hOwn hPrivate]
  · rw [after, source_eq, source_eq]
    exact h.consulted hOther hSeparate
  · rw [flights_eq, h.takingOff hOther hSeparate, manifest, List.filter_append, List.map_append,
      hIsOf]
    refine congrArg₂ (· ++ ·) ?_ ?_
    · cases m with
      | land k =>
          show t.fleet.flights.eraseIdx _ = _
          rw [h.flights, Move.unload, List.eraseIdx_map,
            eraseIdx_filter_take (unmarked_of_kept hOther)]
      | _ => exact h.flights
    · exact (map_filter_unmarked _).symm
  · rw [after, reports_eq, reports_eq, h.opened hOther, List.filter_append]
    refine congrArg₂ (· ++ ·) ?_ ?_
    · cases m with
      | conclude k =>
          show t.reports.eraseIdx _ = _
          rw [h.reports, staying, eraseIdx_filter_take (ne_of_kept hOther)]
      | _ => exact h.reports
    · refine (List.filter_eq_self.mpr fun r hr => decide_eq_true ?_).symm
      rintro rfl
      obtain ⟨d, hDeed⟩ := deed_of_opened hr
      exact not_of_hides hOther d hDeed

/-! ### Moves of the poller -/

/-- What lands for poller `i` was called for by it. -/
theorem marked_of_hides (hFresh : s₀.Fresh) {k : Nat}
    (hOwn : s₀.hides i own past (.land k) = true) :
    ∃ f, (s₀.manifest i past)[k]? = some (f, true) := by
  rw [hides, Bool.or_eq_true] at hOwn
  rcases hOwn with hOf | hMarked
  · rw [isOf, Option.any_eq_true] at hOf
    obtain ⟨⟨j, d⟩, hDeed, hj⟩ := hOf
    obtain rfl : j = i := of_decide_eq_true hj
    rw [Scene.deed?, Option.bind_eq_some_iff] at hDeed
    obtain ⟨f, hf, hFor⟩ := hDeed
    rw [← map_manifest s₀ j, List.getElem?_map, Option.map_eq_some_iff] at hf
    obtain ⟨⟨f, b⟩, hThere, rfl⟩ := hf
    obtain ⟨run, seq, hTick⟩ : ∃ run seq, f.purpose = .tick j run seq := by
      unfold Flight.deed? at hFor
      split at hFor
      next => cases hFor
      next purpose _ =>
        obtain ⟨rfl, -⟩ := Prod.mk.inj (Option.some.inj hFor)
        exact ⟨_, _, purpose⟩
      next purpose _ =>
        obtain ⟨rfl, -⟩ := Prod.mk.inj (Option.some.inj hFor)
        exact ⟨_, _, purpose⟩
    have hb : b = true := (marked_iff hFresh (List.mem_of_getElem? hThere) hTick).mpr rfl
    exact ⟨f, hb ▸ hThere⟩
  · rw [returnsTo, Option.any_eq_true] at hMarked
    obtain ⟨⟨f, b⟩, hThere, hb⟩ := hMarked
    have hTrue : b = true := hb
    exact ⟨f, hTrue ▸ hThere⟩

/-- A move of poller `i` is a deed of no other. -/
theorem eq_of_hides (hFresh : s₀.Fresh) (hOwn : s₀.hides i own past m = true) {j : Nat} {d : Deed}
    (hDeed : (s₀.after past).deed? m = some (j, d)) : j = i := by
  by_cases hLand : ∃ k, m = .land k
  · obtain ⟨k, rfl⟩ := hLand
    obtain ⟨f, hThere⟩ := marked_of_hides hFresh hOwn
    have hf : (s₀.after past).fleet.flights[k]? = some f := by
      rw [← map_manifest s₀ i, List.getElem?_map, hThere]
      rfl
    cases meets_of_deed hDeed with
    | accept k g run seq status flight purpose result =>
        obtain rfl := Option.some.inj (hf.symm.trans flight)
        exact (marked_iff hFresh (List.mem_of_getElem? hThere) purpose).mp rfl
    | fail k g run seq error flight purpose result =>
        obtain rfl := Option.some.inj (hf.symm.trans flight)
        exact (marked_iff hFresh (List.mem_of_getElem? hThere) purpose).mp rfl
  · have hOf : (s₀.after past).isOf i m = true := by
      rw [hides, Bool.or_eq_true] at hOwn
      refine hOwn.resolve_right fun hReturns => ?_
      cases m with
      | land k => exact hLand ⟨k, rfl⟩
      | note e => cases hDeed
      | _ => cases hReturns
    rw [isOf, hDeed] at hOf
    exact of_decide_eq_true hOf

/-- What takes off with a move of poller `i` is marked. -/
theorem filter_takingOff (hFresh : s₀.Fresh) (hOwn : s₀.hides i own past m = true) :
    (((s₀.after past).takingOff m).map fun f => (f, (s₀.after past).isOf i m)).filter unmarked
      = [] := by
  rw [List.filter_eq_nil_iff]
  intro x hx
  obtain ⟨f, hf, rfl⟩ := List.mem_map.mp hx
  rcases mem_takingOff hf with ⟨-, hNone⟩ | ⟨j, d, -, hDeed, -⟩
  · -- Nobody outside calls for anything with a move of poller `i`.
    cases m with
    | call g source => cases hOwn
    | note e => cases hf
    | land k =>
        rw [Scene.takingOff, hNone] at hf
        · cases hf
        · intro f source hSame
          cases hSame
    | conclude k =>
        rw [Scene.takingOff, hNone] at hf
        · cases hf
        · intro f source hSame
          cases hSame
    | signal x => cases hOwn
    | pass ms => cases hOwn
    | resume => cases hOwn
    | operate j o => cases hNone
    | ask j => cases hNone
    | ring j k => cases hNone
  · obtain rfl := eq_of_hides hFresh hOwn hDeed
    rw [isOf, hDeed]
    simp [unmarked]

/-- A fetch that lands for poller `i` is discreet. -/
theorem isDiscreet_of_marked {k : Nat} {f : Flight}
    (hThere : (s₀.manifest i past)[k]? = some (f, true))
    (hDiscreet : s₀.discreet i (.land k :: past) = true) : f.isDiscreet = true := by
  rw [discreet, Bool.and_eq_true, Move.landsDiscreetly, hThere] at hDiscreet
  exact hDiscreet.1

/-- The fetches of poller `i` tell the gate nothing. -/
theorem signals_of_hides (hFresh : s₀.Fresh) (hOwn : s₀.hides i own past m = true)
    (hDiscreet : s₀.discreet i (m :: past) = true) : (s₀.after past).signals m = [] := by
  cases m with
  | land k =>
      obtain ⟨f, hThere⟩ := marked_of_hides hFresh hOwn
      have hf : (s₀.after past).fleet.flights[k]? = some f := by
        rw [← map_manifest s₀ i, List.getElem?_map, hThere]
        rfl
      rw [Scene.signals, hf]
      exact signals_of_discreet (isDiscreet_of_marked hThere hDiscreet)
  | signal x => cases hOwn
  | _ => rfl

/-- What is written with a move of poller `i` is about it, or about nobody. -/
theorem written_of_hides (hFresh : s₀.Fresh) (hOwn : s₀.hides i own past m = true)
    (hDiscreet : s₀.discreet i (m :: past) = true) (hNotes : ∀ e, own e = true → e.subject = .other)
    (hName : ∀ p, (s₀.after past).fleet.pollers[i]? = some p → p.name = name) :
    ∀ e ∈ (s₀.after past).written m, e.subject = .poller name ∨ e.subject = .other := by
  have hDeed : ∀ e ∈ (((s₀.after past).deed? m).map fun x =>
      (s₀.after past).writtenBy x.1 x.2).getD [], e.subject = .poller name := by
    intro e he
    cases hDeed : (s₀.after past).deed? m with
    | none =>
        rw [hDeed] at he
        cases he
    | some x =>
        obtain rfl : x.1 = i := eq_of_hides hFresh hOwn hDeed
        rw [hDeed, Option.map_some, Option.getD_some] at he
        cases hp : (s₀.after past).fleet.pollers[x.1]? with
        | none =>
            rw [writtenBy_of_none hp] at he
            cases he
        | some p =>
            rw [writtenBy_of_some hp] at he
            rw [← hName p hp]
            exact p.owns_entries _ _ _ e he
  intro e he
  cases m with
  | land k =>
      obtain ⟨f, hThere⟩ := marked_of_hides hFresh hOwn
      have hf : (s₀.after past).fleet.flights[k]? = some f := by
        rw [← map_manifest s₀ i, List.getElem?_map, hThere]
        rfl
      rw [Scene.written, hf, List.mem_append] at he
      rcases he with hResult | hEffect
      · exact .inl (hDeed e hResult)
      · exact .inr (entries_of_discreet (isDiscreet_of_marked hThere hDiscreet) _ _ e hEffect)
  | note e' =>
      obtain rfl := List.mem_singleton.mp he
      exact .inr (hNotes e hOwn)
  | call f source => cases hOwn
  | signal x => cases hOwn
  | pass ms => cases hOwn
  | resume => cases hOwn
  | operate j o => exact .inl (hDeed e he)
  | ask j => exact .inl (hDeed e he)
  | ring j k => exact .inl (hDeed e he)
  | conclude k => exact .inl (hDeed e he)

/-- **A move of poller `i`** changes nothing for anybody else. -/
theorem Apart.hidden (h : Apart i name alike (s₀.manifest i past) (s₀.after past) t)
    (hFresh : s₀.Fresh) (hSeparate : FetchSource.Separate i alike)
    (hName : ∀ p, (s₀.after past).fleet.pollers[i]? = some p → p.name = name)
    (hNotes : ∀ e, own e = true → e.subject = .other) (hDiscreet : s₀.discreet i (m :: past) = true)
    (hOwn : s₀.hides i own past m = true) :
    Apart i name alike (s₀.manifest i (m :: past)) (s₀.after (m :: past)) t := by
  have hSignals := signals_of_hides hFresh hOwn hDiscreet
  have hWritten := written_of_hides hFresh hOwn hDiscreet hNotes hName
  refine ⟨⟨?_, ?_, ?_, ?_⟩, ?_, ?_, ?_⟩
  · have hDuration : m.duration = 0 := by
      cases m with
      | pass ms => cases hOwn
      | _ => rfl
    rw [after, now_move, hDuration, Nat.add_zero, h.now]
  · have hm : m ≠ .resume := by
      rintro rfl
      cases hOwn
    rw [after, gate_move _ hm, hSignals, h.gate]
    rfl
  · intro j hj
    have hTurn : (s₀.after past).turn m j = id := by
      funext p
      cases hDeed : (s₀.after past).deed? m with
      | none => exact turn_of_none hDeed j p
      | some x =>
          have hx : x.1 = i := eq_of_hides hFresh hOwn hDeed
          exact turn_of_other hDeed (fun hSame => hj (hSame.symm.trans hx)) p
    rw [after, getElem?_move, hTurn, Option.map_id, id, h.pollers j hj]
  · intro x hNot hPrivate
    have hNone : about x ((s₀.after past).written m) = [] := by
      refine about_eq_nil fun e he hSame => ?_
      rcases hWritten e he with hMine | hOther
      · exact hNot (hSame.symm.trans hMine)
      · exact hPrivate (hSame.symm.trans hOther)
    rw [after, journal_move, about_append, hNone, List.nil_append, h.journal x hNot hPrivate]
  · have hConsulted : (s₀.after past).consulted m
        = (((s₀.after past).deed? m).map fun x =>
          if (s₀.after past).launchedBy x.1 x.2 = [] then (s₀.after past).fleet.source
          else (FetchSource.fetch (s₀.after past).fleet.source x.1).2).getD
            (s₀.after past).fleet.source := by
      cases m with
      | call f source => cases hOwn
      | _ => rfl
    rw [after, source_eq, hConsulted]
    cases hDeed : (s₀.after past).deed? m with
    | none => exact h.source
    | some x =>
        obtain rfl : x.1 = i := eq_of_hides hFresh hOwn hDeed
        rw [Option.map_some, Option.getD_some]
        split
        next => exact h.source
        next => exact hSeparate.own _ _ h.source
  · rw [manifest, List.filter_append, filter_takingOff hFresh hOwn, List.append_nil, h.flights]
    cases m with
    | land k =>
        obtain ⟨f, hThere⟩ := marked_of_hides hFresh hOwn
        rw [Move.unload, filter_eraseIdx_of_neg hThere rfl]
    | _ => rfl
  · have hOpened : ((s₀.after past).opened m).filter (·.poller ≠ i) = [] := by
      rw [List.filter_eq_nil_iff]
      intro r hr hOther
      obtain ⟨d, hDeed⟩ := deed_of_opened hr
      exact of_decide_eq_true hOther (eq_of_hides hFresh hOwn hDeed)
    rw [after, reports_eq, List.filter_append, hOpened, List.append_nil, h.reports]
    cases m with
    | conclude k =>
        cases hr : (s₀.after past).reports[k]? with
        | none =>
            have hShort : (s₀.after past).reports.length ≤ k := List.getElem?_eq_none_iff.mp hr
            rw [staying, List.eraseIdx_of_length_le hShort]
        | some r =>
            have hPoller : r.poller = i :=
              eq_of_hides hFresh hOwn (d := .conclude r.run r.current r.previous) (by
                rw [Scene.deed?, hr, Option.map_some])
            rw [staying, filter_eraseIdx_of_neg hr (decide_eq_false (not_not.mpr hPoller))]
    | _ => rfl

end Step

/-- A poller keeps its name. -/
theorem name_after {s₀ : Scene ω} {i : Nat} {b : Poller} (hb : s₀.fleet.pollers[i]? = some b)
    (past : List (Move ω)) {p : Poller} (hp : (s₀.after past).fleet.pollers[i]? = some p) :
    p.name = b.name := by
  obtain ⟨a, ha, hAlike⟩ := exists_alike_before past hp
  obtain rfl := Option.some.inj (hb.symm.trans ha)
  exact hAlike.name

/-- **A run and the run without poller `i`** are alike to everybody else. -/
theorem apart_after {s₀ : Scene ω} (hFresh : s₀.Fresh) {i : Nat} {b : Poller}
    (hb : s₀.fleet.pollers[i]? = some b) {alike : ω → ω → Prop}
    (hSeparate : FetchSource.Separate i alike) {own : Entry → Bool}
    (hNotes : ∀ e, own e = true → e.subject = .other) {past : List (Move ω)}
    (hDiscreet : s₀.discreet i past = true) :
    Apart i b.name alike (s₀.manifest i past) (s₀.after past)
      (s₀.after (s₀.without i own past)) := by
  induction past with
  | nil =>
      refine ⟨⟨rfl, rfl, fun _ _ => rfl, fun _ _ _ => rfl⟩, hSeparate.refl _, ?_, ?_⟩
      · rw [manifest, map_filter_unmarked]
        rfl
      · rw [after, without, after, hFresh.reports]
        rfl
  | cons m past ih =>
      have hEarlier : s₀.discreet i past = true := by
        rw [discreet, Bool.and_eq_true] at hDiscreet
        exact hDiscreet.2
      have hBefore := ih hEarlier
      rw [without]
      split
      next hOwn =>
        exact hBefore.hidden hFresh hSeparate (fun p hp => name_after hb past hp) hNotes hDiscreet
          hOwn
      next hOther => exact hBefore.kept hSeparate (Bool.eq_false_iff.mpr hOther)

/-- In a run without it nothing happens to the poller. -/
theorem still_without {s₀ : Scene ω} (hFresh : s₀.Fresh) {i : Nat} {b : Poller}
    (hb : s₀.fleet.pollers[i]? = some b) {alike : ω → ω → Prop}
    (hSeparate : FetchSource.Separate i alike) {own : Entry → Bool}
    (hNotes : ∀ e, own e = true → e.subject = .other) {past : List (Move ω)}
    (hDiscreet : s₀.discreet i past = true) :
    (s₀.after (s₀.without i own past)).fleet.pollers[i]? = some b := by
  induction past with
  | nil => exact hb
  | cons m past ih =>
      have hEarlier : s₀.discreet i past = true := by
        rw [discreet, Bool.and_eq_true] at hDiscreet
        exact hDiscreet.2
      have hApart := apart_after hFresh hb hSeparate hNotes hEarlier
      rw [without]
      split
      next => exact ih hEarlier
      next hOther =>
        have hKept := Bool.eq_false_iff.mpr hOther
        rw [after, getElem?_move, ih hEarlier, Option.map_some, hApart.turn hKept]
        rcases (s₀.after past).turn_cases m i b with hSame | ⟨d, hDeed, -⟩
        · rw [hSame]
        · exact absurd hDeed (not_of_hides hKept d)

/-- What a deed of a poller is to the gate. -/
theorem gate_of_deed {s : Scene ω} {m : Move ω} {j : Nat} {d : Deed}
    (hDeed : s.deed? m = some (j, d)) :
    (∀ e ∈ s.writtenBy j d, e.subject ≠ .gate) ∧
      ((∀ k, m ≠ .land k) → s.signals m = []) ∧
      (s.signals m = [] → (s.move m).fleet.gate = s.fleet.gate) := by
  refine ⟨fun e he => ?_, fun hLand => ?_, fun hNone => ?_⟩
  · cases hp : s.fleet.pollers[j]? with
    | none =>
        rw [writtenBy_of_none hp] at he
        cases he
    | some p =>
        rw [writtenBy_of_some hp] at he
        rw [p.owns_entries _ _ d e he]
        exact nofun
  · cases m with
    | land k => exact absurd rfl (hLand k)
    | signal x => cases hDeed
    | _ => rfl
  · have hm : m ≠ .resume := by
      rintro rfl
      cases hDeed
    rw [gate_move s hm, hNone]
    rfl

/-- **Pollers that share a gate do not interfere.** Take any run in which the fetches of poller `i`
give no signals, and leave out of it all that the poller does, with what is done to it by its
callback and by others; everything else happens as before, at the same times. At every step:

* nobody else can tell the difference: every other poller is the same in every respect, and so is
  the gate with all it has published; and so are the lines and counters of the journal that are
  about the gate, or about a poller of another name;
* so any two runs that come to the same without poller `i` are the same to everybody else, for
  instance if in one of them some of what is done to it is left out;
* nothing that happens to a poller reaches the gate: only the fetches that land tell it something,
  and if they do not it stays as it is. -/
theorem pollers_do_not_interfere {s₀ : Scene ω} (hFresh : s₀.Fresh) {i : Nat} {b : Poller}
    (hb : s₀.fleet.pollers[i]? = some b) {alike : ω → ω → Prop}
    (hSeparate : FetchSource.Separate i alike) {own : Entry → Bool}
    (hNotes : ∀ e, own e = true → e.subject = .other) (past : List (Move ω))
    (hDiscreet : s₀.discreet i past = true) :
    (AlikeBut i b.name (s₀.after past) (s₀.after (s₀.without i own past)) ∧
      (s₀.after (s₀.without i own past)).fleet.pollers[i]? = some b) ∧
    (∀ past', s₀.discreet i past' = true → s₀.without i own past' = s₀.without i own past →
      AlikeBut i b.name (s₀.after past) (s₀.after past')) ∧
    ∀ m j d, (s₀.after past).deed? m = some (j, d) →
      (∀ e ∈ (s₀.after past).writtenBy j d, e.subject ≠ .gate) ∧
        ((∀ k, m ≠ .land k) → (s₀.after past).signals m = []) ∧
        ((s₀.after past).signals m = [] →
          ((s₀.after past).move m).fleet.gate = (s₀.after past).fleet.gate) := by
  have hOne := (apart_after hFresh hb hSeparate hNotes hDiscreet).toAlikeBut
  refine ⟨⟨hOne, still_without hFresh hb hSeparate hNotes hDiscreet⟩,
    fun past' hDiscreet' hSame => ?_, fun m j d hDeed => gate_of_deed hDeed⟩
  have hOther := (apart_after hFresh hb hSeparate hNotes hDiscreet').toAlikeBut
  rw [hSame] at hOther
  exact {
    now := hOther.now.symm.trans hOne.now
    gate := hOther.gate.symm.trans hOne.gate
    pollers := fun j hj => (hOther.pollers j hj).symm.trans (hOne.pollers j hj)
    journal := fun x hNot hPrivate =>
      (hOther.journal x hNot hPrivate).symm.trans (hOne.journal x hNot hPrivate) }

/-- Two pollers, of which the second finds a change. -/
def pair : Scene Scripts where
  fleet :=
    { gate := { delays := .standard }
      pollers := [{ name := "one" }, { name := "two", callback := some [] }]
      source := ⟨[[{ answer := .ok (.str "up") }],
        [{ answer := .ok (.str "up") }, { answer := .ok (.str "down") }]]⟩ }

theorem pair_fresh : pair.Fresh where
  pollers := by
    intro p hp
    simp only [pair, List.mem_cons, List.not_mem_nil, or_false] at hp
    rcases hp with rfl | rfl <;> exact ⟨_, _, _, rfl⟩
  flights := nofun
  reports := rfl

/-- Both are started; the callback of the second stops it when it is told of a change. -/
def crowd : List (Move Scripts) :=
  [.ring 0 0, .pass 12000, .conclude 0, .land 0, .operate 1 .stop, .land 1, .ring 1 0, .pass 12000,
    .land 1, .operate 1 .enterActive, .operate 0 .start]

/-- The first does the same if there is only its own start. -/
theorem pollers_do_not_interfere_crowd :
    AlikeBut 1 "two" (pair.after crowd)
      (pair.after [.ring 0 0, .pass 12000, .land 0, .pass 12000, .operate 0 .start]) := by
  have hSecond : pair.fleet.pollers[1]? = some { name := "two", callback := some [] } := rfl
  have hDiscreet : pair.discreet 1 crowd = true := rfl
  have hWithout : pair.without 1 (fun _ => false) crowd
      = [.ring 0 0, .pass 12000, .land 0, .pass 12000, .operate 0 .start] := rfl
  have hNotes : ∀ e, (fun _ : Entry => false) e = true → e.subject = .other := nofun
  have hAlike := (pollers_do_not_interfere pair_fresh hSecond (Scripts.separate 1) hNotes crowd
    hDiscreet).1.1
  rw [hWithout] at hAlike
  exact hAlike

end Scene

end Lookout.Polling
