import Lookout.Backend.Uplink
import Lookout.Polling.Fetch
import Lookout.Proofs.Polling.Parts

set_option autoImplicit false

/-! # There is no empty status

An empty text is no status, and the JSON of a value is never empty, so no result carries an
empty status (`HasStatus.Lawful`). Worlds that answer fetches with such results are `Candid`;
scripts are, and so is an uplink to a backend, whatever the network sends. Then no result in
flight carries an empty status, and no poller ever applies one (`Fresh.candid`).
-/

namespace Lookout

/-! ## JSON texts -/

theorem Json.Number.decimalText_ne_empty (d : Decimal.Digits) : decimalText d ≠ "" := by
  unfold decimalText
  dsimp only
  split_ifs <;> simp [String.append_eq_empty_iff]

theorem Json.Number.text_ne_empty (n : Number) : n.text ≠ "" := by
  cases n with
  | int n =>
      cases n with
      | ofNat n => exact Nat.repr_ne_empty
      | negSucc n => simp [text, toString, Int.repr, String.append_eq_empty_iff]
  | double bits =>
      rw [text, doubleText]
      split
      next => simp [String.append_eq_empty_iff]
      next =>
        intro hEmpty
        exact decimalText_ne_empty _ (String.append_eq_empty_iff.mp hEmpty).2

/-- The text of a JSON value is not empty. -/
theorem Json.compact_ne_empty (j : Json) : j.compact ≠ "" := by
  cases j with
  | null => simp [compact]
  | bool b => cases b <;> simp [compact]
  | num n => exact n.text_ne_empty
  | str s => simp [compact, string, String.append_eq_empty_iff]
  | arr items => simp [compact, String.append_eq_empty_iff]
  | obj fields => simp [compact, String.append_eq_empty_iff]

namespace Polling

/-! ## Results -/

theorem nonEmpty_ne (s : String) : nonEmpty s ≠ some "" := by
  unfold nonEmpty
  split
  next => exact nofun
  next hSome => exact fun h => hSome (Option.some.inj h)

/-- Results that never carry an empty status. -/
class HasStatus.Lawful (α : Type) [HasStatus α] : Prop where
  ne_empty : ∀ x : α, status x ≠ some ""

instance : HasStatus.Lawful String := ⟨nonEmpty_ne⟩

instance : HasStatus.Lawful Json where
  ne_empty j := by
    show jsonStatus j ≠ some ""
    cases j with
    | str s => exact nonEmpty_ne s
    | obj fields =>
        rw [jsonStatus]
        split
        next => exact nofun
        next => exact nofun
        next s _ => exact nonEmpty_ne s
        next other _ _ _ => exact fun h => other.normal.compact_ne_empty (Option.some.inj h)
    | null => exact nofun
    | bool b => exact nofun
    | num n => exact nofun
    | arr items => exact nofun

instance {α : Type} [HasStatus α] [HasStatus.Lawful α] : HasStatus.Lawful (Option α) where
  ne_empty x := by
    cases x with
    | none => exact nofun
    | some x => exact HasStatus.Lawful.ne_empty x

instance : HasStatus.Lawful Backend.ServerStatus := ⟨fun s => nonEmpty_ne s.status⟩

/-- A world that answers fetches with no empty status. -/
class FetchSource.Candid (ω : Type) [FetchSource ω] : Prop where
  ne_empty : ∀ (w : ω) (i : Nat), (FetchSource.fetch w i).1.result ≠ .ok (some "")

/-- A fetch that carries the status of a result. -/
theorem map_status_ne {α ε : Type} [HasStatus α] [HasStatus.Lawful α] (x : Except ε α) :
    x.map status ≠ .ok (some "") := by
  cases x with
  | error e => exact nofun
  | ok x => exact fun h => HasStatus.Lawful.ne_empty x (Except.ok.inj h)

/-- An error told in other words is no result either. -/
theorem mapError_ne {α ε δ : Type} {x : Except ε α} {a : α} (h : x ≠ .ok a) (f : ε → δ) :
    x.mapError f ≠ .ok a := by
  cases x with
  | error e => exact nofun
  | ok b => exact fun hSame => h (congrArg Except.ok (Except.ok.inj hSame))

instance : FetchSource.Candid Scripts := ⟨fun s i => map_status_ne (s.reply i).answer⟩

theorem fetch_result_ne (c : Backend.Call Backend.ServerStatus) :
    c.fetch.result ≠ .ok (some "") :=
  mapError_ne (map_status_ne c.result) Backend.CallError.text

instance {ν : Type} [Backend.Network ν] : FetchSource.Candid (Backend.Uplink ν) :=
  ⟨fun u i => fetch_result_ne (u.status i).1⟩

/-! ## In a scene -/

namespace Scene

variable {ω : Type}

/-- No result that a tick waits for carries an empty status, and none was applied. -/
structure NoneEmpty (s : Scene ω) : Prop where
  flights : ∀ f ∈ s.fleet.flights, f.purpose ≠ .direct → f.result ≠ .ok (some "")
  pollers : ∀ (i : Nat) (p : Poller), s.fleet.pollers[i]? = some p → some "" ∉ p.fetched

variable [FetchSource ω]

/-- A fetch that is in flight after a move was so before it, or is a call from outside, or is
the answer to a call. -/
theorem mem_flights_move {s : Scene ω} {m : Move ω} {f : Flight}
    (hf : f ∈ (s.move m).fleet.flights) :
    f ∈ s.fleet.flights ∨ f.purpose = .direct ∨ ∃ i purpose, f = s.fleet.flight i purpose := by
  rw [flights_eq, List.mem_append] at hf
  rcases hf with hAloft | hTaking
  · left
    cases m with
    | land k => exact List.mem_of_mem_eraseIdx hAloft
    | _ => exact hAloft
  · right
    rcases mem_takingOff hTaking with ⟨hDirect, -⟩ | ⟨i, d, purpose, -, -, rfl⟩
    · exact .inl hDirect
    · exact .inr ⟨i, purpose, rfl⟩

theorem NoneEmpty.move [FetchSource.Candid ω] {s : Scene ω} (h : s.NoneEmpty) (m : Move ω) :
    (s.move m).NoneEmpty where
  flights := by
    intro f hf hTick
    rcases mem_flights_move hf with hOld | hDirect | ⟨i, purpose, rfl⟩
    · exact h.flights f hOld hTick
    · exact absurd hDirect hTick
    · exact FetchSource.Candid.ne_empty s.fleet.source i
  pollers := by
    intro i q hq
    obtain ⟨p, hp, rfl⟩ := exists_of_move hq
    have hNone := h.pollers i p hp
    rcases s.turn_cases m i p with hSame | ⟨d, hDeed, hTurn⟩
    · rw [hSame]
      exact hNone
    · rw [hTurn]
      by_cases hAccept : ∀ run seq status, d ≠ .accept run seq status
      · rcases p.perform_cases s.fleet.gate.paused s.fleet.now d hAccept with
          hQuiet | hBegins | hEnds
        · rw [hQuiet.fetched]
          exact hNone
        · rw [hBegins.fetched]
          exact hNone
        · rw [hEnds.fetched]
          exact hNone
      · push Not at hAccept
        obtain ⟨run, seq, status, rfl⟩ := hAccept
        rw [Poller.perform]
        by_cases hCounts : p.Counts run seq
        · obtain ⟨-, -, -, -, hFetched⟩ := Poller.accept_of_counts hCounts status
          rw [hFetched, List.mem_cons, not_or]
          refine ⟨?_, hNone⟩
          -- The status that is applied is that of a fetch that was in flight.
          rintro rfl
          cases meets_of_deed hDeed with
          | accept k f run seq status flight purpose result =>
              refine h.flights f (List.mem_of_getElem? flight) ?_ result
              rw [purpose]
              intro hDirect
              cases hDirect
        · rw [Poller.accept_of_not_counts hCounts]
          exact hNone

/-- **No poller ever applies an empty status**, if fetches bring none. -/
theorem Fresh.noneEmpty [FetchSource.Candid ω] {s₀ : Scene ω} (h : s₀.Fresh)
    (past : List (Move ω)) : (s₀.after past).NoneEmpty := by
  induction past with
  | nil =>
      refine ⟨fun f hf hTick => absurd (h.flights f hf) hTick, fun i p hp => ?_⟩
      obtain ⟨name, cadence, callback, rfl⟩ := h.pollers p (List.mem_of_getElem? hp)
      exact List.not_mem_nil
  | cons m past ih => exact ih.move m

end Scene

end Polling

end Lookout
