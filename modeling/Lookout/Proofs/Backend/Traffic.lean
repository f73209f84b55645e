import Lookout.Proofs.Backend.Answers
import Lookout.Proofs.Polling.Parts
import Lookout.Proofs.Polling.Session

set_option autoImplicit false

/-! # What the gate and the journal get to know of calls

In a run of a fleet over an uplink every fetch is a call of the client. Pollers make their calls
with a tick or out of turn; others make theirs from outside (`Act.call`). An `Act` is one of these
calls or any other move.

A fetch in flight does not tell which answer its call has obtained. `Scene.carried` keeps books of
that: for each fetch in flight the answer it brings, or that it brings none. A fetch does what
`effectsOf` says of that answer (`map_effects`), so what an act adds to a counter and what it tells
the gate can be read off the books (`count_act`, `signals_act`), and so can what a run does.
-/

namespace Lookout

open Journal (Entry Counter)

namespace Polling

/-- A fetch that has done what it does, and has only to hand over its result. -/
def Flight.spent (f : Flight) : Flight := { f with effects := [] }

end Polling

/-! ## Calls -/

namespace Backend

open Config (Endpoint)
open Polling (Effect Fetch FetchSource Move)

/-- The fetch that a call from outside is. Whoever has made the call keeps its result. -/
def Call.errand {α : Type} (c : Call α) : Fetch :=
  { duration := c.duration, effects := c.effects, result := .ok none }

theorem Call.effects_errand {α : Type} (c : Call α) : c.errand.effects = c.effects := rfl

theorem Call.effects_fetch (c : Call ServerStatus) : c.fetch.effects = c.effects := rfl

theorem Call.duration_errand {α : Type} (c : Call α) : c.errand.duration = c.duration := rfl

theorem Call.duration_fetch (c : Call ServerStatus) : c.fetch.duration = c.duration := rfl

namespace Uplink

variable {ν : Type} [Network ν] (u : Uplink ν)

/-- A call from outside: for the status of a server, or to start or stop it. -/
def errand : Endpoint → String → Fetch × Uplink ν
  | .status, id =>
    ((u.call .status id : Call ServerStatus × Uplink ν).1.errand,
      (u.call .status id : Call ServerStatus × Uplink ν).2)
  | e, id =>
    ((u.call e id : Call ActionOutcome × Uplink ν).1.errand,
      (u.call e id : Call ActionOutcome × Uplink ν).2)

/-- The answer that a call obtains, if it obtains one. -/
def answer? (e : Endpoint) (id : String) : Option FinalAnswer := u.client.answer? e id u.network

/-- The answer that a call of poller `i` obtains, if it obtains one. -/
def answerTo? (i : Nat) : Option FinalAnswer :=
  u.answer? .status ((u.servers[i]?.map Config.Server.id).getD "")

theorem call_fst {α : Type} [Payload α] (e : Endpoint) (id : String) :
    (u.call e id : Call α × Uplink ν).1 = (u.client.call e id u.network).1 := by
  rw [call]

theorem call_comesTo {α : Type} [Payload α] (e : Endpoint) (id : String) :
    (u.call e id : Call α × Uplink ν).1.ComesTo (u.answer? e id) := by
  rw [call_fst, answer?]
  exact u.client.call_comesTo e id u.network

theorem effects_call {α : Type} [Payload α] (e : Endpoint) (id : String) :
    (u.call e id : Call α × Uplink ν).1.effects = effectsOf (u.answer? e id) := by
  rw [call_fst, answer?]
  exact u.client.effects_call e id u.network

theorem answer?_eq_some_iff (e : Endpoint) (id : String) (a : FinalAnswer) :
    u.answer? e id = some a ↔ ∃ url, u.client.endpoint e id = .ok url ∧
      0 < u.client.settings.timeoutSecs ∧
      Ends maxHops (u.client.request e url) u.network (.answered a.status a.body) := by
  rw [answer?]
  exact u.client.answer?_eq_some_iff e id u.network a

theorem effects_errand (e : Endpoint) (id : String) :
    (u.errand e id).1.effects = effectsOf (u.answer? e id) := by
  cases e with
  | status => simp only [errand, Call.effects_errand, u.effects_call]
  | start => simp only [errand, Call.effects_errand, u.effects_call]
  | stop => simp only [errand, Call.effects_errand, u.effects_call]

theorem fetch_fst (i : Nat) : (FetchSource.fetch u i).1 = (u.status i).1.fetch := rfl

theorem effects_fetch (i : Nat) :
    (FetchSource.fetch u i).1.effects = effectsOf (u.answerTo? i) := by
  rw [fetch_fst, Call.effects_fetch, status, u.effects_call, answerTo?]

/-- A call that obtains an answer takes no time. -/
theorem duration_call {α : Type} [Payload α] {e : Endpoint} {id : String} {a : FinalAnswer}
    (h : u.answer? e id = some a) : (u.call e id : Call α × Uplink ν).1.duration = 0 := by
  rw [call_fst]
  exact u.client.duration_of_some e id u.network h

theorem duration_errand {e : Endpoint} {id : String} {a : FinalAnswer}
    (h : u.answer? e id = some a) : (u.errand e id).1.duration = 0 := by
  cases e with
  | status => simp only [errand, Call.duration_errand, u.duration_call h]
  | start => simp only [errand, Call.duration_errand, u.duration_call h]
  | stop => simp only [errand, Call.duration_errand, u.duration_call h]

theorem duration_fetch {i : Nat} {a : FinalAnswer} (h : u.answerTo? i = some a) :
    (FetchSource.fetch u i).1.duration = 0 := by
  rw [fetch_fst, Call.duration_fetch, status]
  exact u.duration_call h

end Uplink

/-- One thing that can happen to a service. -/
inductive Act (ν : Type)
  /-- An endpoint is asked about a server, from outside. -/
  | call (e : Endpoint) (id : String)
  /-- Anything else. -/
  | other (m : Move (Uplink ν)) (plain : m.isTraffic = false)

/-- The move that an act is. -/
def Act.move {ν : Type} [Network ν] (u : Uplink ν) : Act ν → Move (Uplink ν)
  | .call e id => .call (u.errand e id).1 (u.errand e id).2
  | .other m _ => m

end Backend

/-! ## Books of calls -/

namespace Polling.Scene

open Backend

variable {ν : Type} [Network ν]

/-- The moves that acts are, the newest of them first. -/
def moves (s₀ : Scene (Uplink ν)) : List (Act ν) → List (Move (Uplink ν))
  | [] => []
  | a :: past => a.move (s₀.after (s₀.moves past)).fleet.source :: s₀.moves past

/-- Where acts lead. -/
def through (s₀ : Scene (Uplink ν)) (acts : List (Act ν)) : Scene (Uplink ν) :=
  s₀.after (s₀.moves acts)

/-- For each call that is made with an act, the answer it obtains, if it obtains one. -/
def obtained (s : Scene (Uplink ν)) : Act ν → List (Option FinalAnswer)
  | .call e id => [s.fleet.source.answer? e id]
  | .other m _ => ((s.deed? m).map fun x =>
      (s.launchedBy x.1 x.2).map fun _ => s.fleet.source.answerTo? x.1).getD []

/-- For each call that was made in a run, the answer it has obtained, if it has obtained one. -/
def calls (s₀ : Scene (Uplink ν)) : List (Act ν) → List (Option FinalAnswer)
  | [] => []
  | a :: past => (s₀.through past).obtained a ++ s₀.calls past

/-- For each fetch in flight, the answer it brings, if it brings one. -/
def carried (s₀ : Scene (Uplink ν)) : List (Act ν) → List (Option FinalAnswer)
  | [] => []
  | a :: past =>
    (a.move (s₀.through past).fleet.source).unload (s₀.carried past) ++ (s₀.through past).obtained a

/-- For each fetch that has landed, the answer it has brought, if it has brought one. -/
def brought (s₀ : Scene (Uplink ν)) : List (Act ν) → List (Option FinalAnswer)
  | [] => []
  | a :: past =>
    (a.move (s₀.through past).fleet.source).landing (s₀.carried past) ++ s₀.brought past

/-- What the gate is told with an act, given what the fetches in flight bring. -/
def told? (carried : List (Option FinalAnswer)) : Act ν → Option Backoff.Signal
  | .other (.signal x) _ => some x
  | .other (.land k) _ => carried[k]?.join.map FinalAnswer.signal
  | _ => none

/-- Everything the gate is told in a run: the signals of others, and one for each answer that is
brought. -/
def heard (s₀ : Scene (Uplink ν)) : List (Act ν) → Backoff.History
  | [] => []
  | a :: past =>
    ((told? (s₀.carried past) a).map fun x => ((s₀.through past).fleet.now, x)).toList
      ++ s₀.heard past

section Step

variable {s₀ : Scene (Uplink ν)} {past : List (Act ν)}

/-- The fetches that take off with an act do what is done about the answers that it obtains. -/
theorem map_takingOff (s : Scene (Uplink ν)) (a : Act ν) :
    (s.takingOff (a.move s.fleet.source)).map Flight.effects = (s.obtained a).map effectsOf := by
  cases a with
  | call e id =>
      show [(s.fleet.source.errand e id).1.effects] = [effectsOf (s.fleet.source.answer? e id)]
      rw [s.fleet.source.effects_errand]
  | other m plain =>
      have hTaking : s.takingOff m
          = ((s.deed? m).map fun x => (s.launchedBy x.1 x.2).map (s.fleet.flight x.1)).getD [] := by
        cases m with
        | call f source => cases plain
        | _ => rfl
      rw [Act.move, hTaking, obtained]
      cases s.deed? m with
      | none => rfl
      | some x =>
          simp only [Option.map_some, Option.getD_some, List.map_map]
          refine List.map_congr_left fun purpose _ => ?_
          simp only [Function.comp_apply, Fleet.flight, Uplink.effects_fetch]

/-- **The books are right**: each fetch in flight does what is done about the answer that it
brings. -/
theorem map_effects (hNone : s₀.fleet.flights = []) (acts : List (Act ν)) :
    (s₀.through acts).fleet.flights.map Flight.effects = (s₀.carried acts).map effectsOf := by
  induction acts with
  | nil =>
      rw [through, moves, after, hNone]
      rfl
  | cons a past ih =>
      rw [through, moves, after, flights_eq, List.map_append, Move.map_unload, ← through, ih,
        map_takingOff, carried, List.map_append, Move.map_unload]

/-- A fetch that lands, with what the books say of it. -/
theorem getElem?_carried (hNone : s₀.fleet.flights = []) (past : List (Act ν)) (k : Nat) :
    (s₀.through past).fleet.flights[k]?.map Flight.effects
      = (s₀.carried past)[k]?.map effectsOf := by
  rw [← List.getElem?_map, map_effects hNone, List.getElem?_map]

/-- **What an act tells the gate**: the signal that it is, or that of the answer that is
brought. -/
theorem signals_act (hNone : s₀.fleet.flights = []) (a : Act ν) :
    (s₀.through past).signals (a.move (s₀.through past).fleet.source)
      = (told? (s₀.carried past) a).toList := by
  cases a with
  | call e id => rfl
  | other m plain =>
      cases m with
      | land k =>
          show (((s₀.through past).fleet.flights[k]?.map Flight.effects).getD []).filterMap
            Effect.signal? = ((s₀.carried past)[k]?.join.map FinalAnswer.signal).toList
          rw [getElem?_carried hNone]
          cases (s₀.carried past)[k]? with
          | none => rfl
          | some answer => exact (reports_effectsOf answer).told
      | _ => rfl

omit [Network ν] in
/-- What a poller writes counts no answers. -/
theorem count_writtenBy (s : Scene (Uplink ν)) (m : Move (Uplink ν)) (code : Nat) :
    Journal.count (((s.deed? m).map fun x => s.writtenBy x.1 x.2).getD []) (.response code)
      = 0 := by
  refine Journal.count_eq_zero fun e he hOther => ?_
  cases hDeed : s.deed? m with
  | none =>
      rw [hDeed] at he
      cases he
  | some x =>
      rw [hDeed, Option.map_some, Option.getD_some] at he
      cases hp : s.fleet.pollers[x.1]? with
      | none =>
          rw [writtenBy_of_none hp] at he
          cases he
      | some p =>
          rw [writtenBy_of_some hp] at he
          rw [p.owns_entries _ _ x.2 e he] at hOther
          cases hOther

/-- **What an act adds to the count of an answer**: one if such an answer is brought, and nothing
else. -/
theorem count_written (hNone : s₀.fleet.flights = []) (a : Act ν) (code : Nat) :
    Journal.count ((s₀.through past).written (a.move (s₀.through past).fleet.source))
        (.response code)
      = ((a.move (s₀.through past).fleet.source).landing (s₀.carried past)).countP
          (·.any (·.hasCode code)) := by
  cases a with
  | call e id => rfl
  | other m plain =>
      cases m with
      | land k =>
          show Journal.count (_ ++ ((s₀.through past).fleet.flights[k]?.map fun f =>
            effectEntries _ _ f.effects).getD []) _ = (s₀.carried past)[k]?.toList.countP _
          rw [Journal.count_append, count_writtenBy, Nat.zero_add]
          have hBooks := getElem?_carried hNone past k
          cases hf : (s₀.through past).fleet.flights[k]? with
          | none =>
              rw [hf, Option.map_none, eq_comm, Option.map_eq_none_iff] at hBooks
              rw [hBooks]
              rfl
          | some f =>
              rw [hf, Option.map_some, eq_comm, Option.map_eq_some_iff] at hBooks
              obtain ⟨answer, hAnswer, hEffects⟩ := hBooks
              rw [Option.map_some, Option.getD_some, count_effectEntries _ _ _ (by rintro ⟨⟩),
                ← hEffects, hAnswer, (reports_effectsOf answer).counted]
              simp [List.countP_cons]
      | signal x =>
          refine Journal.count_eq_zero fun e he hOther => ?_
          rw [Backoff.Gate.subject_tell _ _ x e he] at hOther
          cases hOther
      | note e =>
          cases e with
          | bump c =>
              cases c with
              | response status => cases plain
              | _ => rfl
          | _ => rfl
      | resume =>
          refine Journal.count_eq_zero fun e he hOther => ?_
          obtain ⟨x, hFire, hx⟩ := mem_resumeEntries he
          rw [Backoff.Gate.subject_fire? hFire e hx] at hOther
          cases hOther
      | call f source => cases plain
      | pass ms => rfl
      | operate i o => exact count_writtenBy (s₀.through past) (.operate i o) code
      | ask i => exact count_writtenBy (s₀.through past) (.ask i) code
      | ring i k => exact count_writtenBy (s₀.through past) (.ring i k) code
      | conclude k => exact count_writtenBy (s₀.through past) (.conclude k) code

end Step

section Run

variable {s₀ : Scene (Uplink ν)}

/-- **What the gate was told in a run** are the signals of others and of answers. -/
theorem told_eq (hNone : s₀.fleet.flights = []) (acts : List (Act ν)) :
    s₀.told (s₀.moves acts) = s₀.heard acts := by
  induction acts with
  | nil => rfl
  | cons a past ih =>
      rw [moves, told, heard, ih, ← through, signals_act hNone]
      cases told? (s₀.carried past) a <;> rfl

/-- **What a run adds to the count of an answer**: one for each such answer that was brought. -/
theorem count_through (hNone : s₀.fleet.flights = []) (acts : List (Act ν)) (code : Nat) :
    Journal.count (s₀.through acts).fleet.journal (.response code)
      = Journal.count s₀.fleet.journal (.response code)
        + (s₀.brought acts).countP (·.any (·.hasCode code)) := by
  induction acts with
  | nil => rfl
  | cons a past ih =>
      rw [through, moves, after, journal_move, Journal.count_append, ← through,
        count_written hNone, ih, brought, List.countP_append]
      omega

/-- **Each call that was made** has come back once, or is under way. -/
theorem perm_calls (s₀ : Scene (Uplink ν)) (acts : List (Act ν)) :
    (s₀.calls acts).Perm (s₀.brought acts ++ s₀.carried acts) := by
  induction acts with
  | nil => exact .refl _
  | cons a past ih =>
      rw [calls, brought, carried]
      generalize (s₀.through past).obtained a = made
      have hMoved := Move.perm_landing (s₀.carried past)
        (a.move (s₀.through past).fleet.source)
      generalize (a.move (s₀.through past).fleet.source).landing (s₀.carried past) = landed
        at hMoved ⊢
      generalize (a.move (s₀.through past).fleet.source).unload (s₀.carried past) = aloft
        at hMoved ⊢
      calc List.Perm (made ++ s₀.calls past) (s₀.calls past ++ made) := List.perm_append_comm
        List.Perm _ ((s₀.brought past ++ s₀.carried past) ++ made) := ih.append_right made
        List.Perm _ ((s₀.brought past ++ (landed ++ aloft)) ++ made) :=
            (hMoved.append_left _).append_right made
        List.Perm _ ((landed ++ s₀.brought past) ++ (aloft ++ made)) := by
            rw [← List.append_assoc, List.append_assoc _ aloft made]
            exact List.perm_append_comm.append_right _

end Run

/-- **An answer is reported before the result is handed over**: when a fetch lands the gate is told
of its answer and the answer is counted first, and all that comes of the result comes after. -/
theorem land_reports {s₀ : Scene (Uplink ν)} (hNone : s₀.fleet.flights = []) {acts : List (Act ν)}
    {k : Nat} {answer : Option FinalAnswer} (hAnswer : (s₀.carried acts)[k]? = some answer) :
    ∃ (f : Flight) (reported : Fleet (Uplink ν)), (s₀.through acts).fleet.flights[k]? = some f ∧
      reported.gate = hear (s₀.through acts).fleet.now (s₀.through acts).fleet.gate
        (answer.map FinalAnswer.signal).toList ∧
      (∀ code, Journal.count reported.journal (.response code)
        = Journal.count (s₀.through acts).fleet.journal (.response code)
          + if answer.any (·.hasCode code) then 1 else 0) ∧
      ((s₀.through acts).move (.land k)).fleet = (reported.deliver f.spent).1 := by
  have hBooks := getElem?_carried hNone acts k
  rw [hAnswer, Option.map_some, Option.map_eq_some_iff] at hBooks
  obtain ⟨f, hf, hEffects⟩ := hBooks
  have hReports := reports_effectsOf answer
  refine ⟨f, f.effects.foldl Fleet.effect { (s₀.through acts).fleet with
    flights := (s₀.through acts).fleet.flights.eraseIdx k }, hf, ?_, fun code => ?_, ?_⟩
  · rw [Fleet.gate_effects, hEffects, hReports.told]
  · rw [Fleet.journal_effects, Journal.count_append, count_effectEntries _ _ _ (by rintro ⟨⟩),
      hEffects, hReports.counted, Nat.add_comm]
  · rw [move, hf]
    rfl

end Polling.Scene

end Lookout
