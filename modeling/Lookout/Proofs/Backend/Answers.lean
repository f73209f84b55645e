import Lookout.Backend.Uplink
import Lookout.Proofs.Polling.Signals

set_option autoImplicit false

/-! # What a call of the client comes to

An exchange ends in one of the ways that `Ends` lists. A call obtains an answer if its endpoint
is one, it waits at all, and the exchange ends with an answer (`Client.answer?`). What the call
reports and what its result is depends on that answer alone: `call_of_some` says how if there is
one, and `call_of_none` what happens if there is none.
-/

namespace Lookout.Backend

open Config (Endpoint)
open Journal (Line)
open Polling (Effect Fetch)

/-! ## How an exchange ends -/

section Exchange

variable {ν : Type} [Network ν]

/-- Whether a request goes anywhere but to a web address. -/
abbrev Request.Foreign (r : Request) : Prop := r.url.scheme ≠ "http" ∧ r.url.scheme ≠ "https"

/-- The ways in which an exchange that may follow `hops` redirects ends. -/
inductive Ends : (hops : Nat) → Request → ν → Ending → Prop
  /-- There is nowhere to send the request to. -/
  | foreign {hops : Nat} {r : Request} {net : ν} (place : r.Foreign) : Ends hops r net .failed
  /-- The connection is closed without an answer. -/
  | broken {hops : Nat} {r : Request} {net net' : ν} {response : Response} (place : ¬ r.Foreign)
      (send : Network.send net r = (response, net')) (received : response.received = .broken) :
      Ends hops r net .failed
  /-- Nothing comes back. -/
  | silent {hops : Nat} {r : Request} {net net' : ν} {response : Response} (place : ¬ r.Foreign)
      (send : Network.send net r = (response, net')) (received : response.received = .silence) :
      Ends hops r net .timedOut
  /-- An answer comes back that does not point elsewhere. -/
  | final {hops : Nat} {r : Request} {net net' : ν} {response : Response} {status : Nat}
      {body : String} {location : Option String} (place : ¬ r.Foreign)
      (send : Network.send net r = (response, net'))
      (received : response.received = .answer status body location)
      (stays : r.next? status location = none) : Ends hops r net (.answered status body)
  /-- An answer points elsewhere once too often. -/
  | lost {r next : Request} {net net' : ν} {response : Response} {status : Nat}
      {body : String} {location : Option String} (place : ¬ r.Foreign)
      (send : Network.send net r = (response, net'))
      (received : response.received = .answer status body location)
      (points : r.next? status location = some next) : Ends 0 r net .failed
  /-- An answer points elsewhere, and is followed. -/
  | redirected {hops : Nat} {r next : Request} {net net' : ν} {response : Response}
      {status : Nat} {body : String} {location : Option String} {ending : Ending}
      (place : ¬ r.Foreign) (send : Network.send net r = (response, net'))
      (received : response.received = .answer status body location)
      (points : r.next? status location = some next) (rest : Ends hops next net' ending) :
      Ends (hops + 1) r net ending

theorem ends_exchange (hops : Nat) (r : Request) (net : ν) :
    Ends hops r net (exchange hops r net).1 := by
  fun_induction exchange hops r net with
  | case1 _ _ _ hPlace => exact .foreign hPlace
  | case2 _ _ _ hPlace _ _ hSend hReceived => exact .broken hPlace hSend hReceived
  | case3 _ _ _ hPlace _ _ hSend hReceived => exact .silent hPlace hSend hReceived
  | case4 _ _ _ hPlace _ _ hSend _ _ _ hReceived hStays =>
      exact .final hPlace hSend hReceived hStays
  | case5 _ _ hPlace _ _ hSend _ _ _ hReceived _ hPoints =>
      exact .lost hPlace hSend hReceived hPoints
  | case6 _ _ hPlace _ _ hSend _ _ _ hReceived _ hPoints _ ih =>
      exact .redirected hPlace hSend hReceived hPoints ih

theorem Ends.eq_exchange {hops : Nat} {r : Request} {net : ν} {ending : Ending}
    (h : Ends hops r net ending) : ending = (exchange hops r net).1 := by
  induction h with
  | foreign hPlace =>
      unfold exchange
      rw [if_pos hPlace]
  | broken hPlace hSend hReceived =>
      unfold exchange
      rw [if_neg hPlace, hSend]
      simp only [hReceived]
  | silent hPlace hSend hReceived =>
      unfold exchange
      rw [if_neg hPlace, hSend]
      simp only [hReceived]
  | final hPlace hSend hReceived hStays =>
      unfold exchange
      rw [if_neg hPlace, hSend]
      simp only [hReceived, hStays]
  | lost hPlace hSend hReceived hPoints =>
      unfold exchange
      rw [if_neg hPlace, hSend]
      simp only [hReceived, hPoints]
  | redirected hPlace hSend hReceived hPoints _ ih =>
      unfold exchange
      rw [if_neg hPlace, hSend]
      simp only [hReceived, hPoints]
      exact ih

/-- An exchange ends in one of these ways and in no other. -/
theorem ends_iff {hops : Nat} {r : Request} {net : ν} {ending : Ending} :
    Ends hops r net ending ↔ ending = (exchange hops r net).1 := by
  constructor
  · exact Ends.eq_exchange
  · rintro rfl
    exact ends_exchange hops r net

end Exchange

/-! ## Answers -/

/-- The answer that an exchange ends with. -/
structure FinalAnswer where
  status : Nat
  body : String
  deriving Repr, DecidableEq

/-- The answer of an ending, if it is one. -/
def Ending.answer? : Ending → Option FinalAnswer
  | .answered status body => some ⟨status, body⟩
  | .failed | .timedOut => none

namespace FinalAnswer

variable (a : FinalAnswer)

/-- Whether the status is a given code. -/
def hasCode (code : Nat) : Bool := a.status = code

/-- The signal that an answer is to the gate. -/
def signal : Backoff.Signal := signalOf a.status

/-- What is logged about an answer: its refusal, if it is no success and nothing better known. -/
def line? : Option Line :=
  if a.status = 429 ∨ a.status = 401 ∨ Net.StatusCode.isSuccess a.status then none
  else some (.requestRefused a.status (refusalMessage a.status a.body))

/-- What a call does when it completes with an answer. -/
def effects : List Effect :=
  [.report (.bump (.response a.status)), .signal a.signal]
    ++ a.line?.toList.map fun l => .report (.line l)

/-- **What an answer comes to** as the result of a call. -/
structure Yields {α : Type} [Payload α] (result : Except CallError α) : Prop where
  overload : a.status = 429 → result = .error .rateLimited
  unauthorized : a.status = 401 → result = .error .unauthorized
  success : 200 ≤ a.status → a.status < 300 → result = (decode? a.body).elim (.error .failed) .ok
  refused : a.status ≠ 429 → a.status ≠ 401 → ¬ (200 ≤ a.status ∧ a.status < 300) →
    result = .error (.refused a.status
      (((decode? a.body : Option Refusal).map Refusal.error).getD
        ((Net.StatusCode.reason? a.status).getD "unknown error")))

end FinalAnswer

/-- What a call does when it completes, with an answer or without one. -/
def effectsOf (answer : Option FinalAnswer) : List Effect :=
  (answer.map FinalAnswer.effects).getD []

/-- **Effects report an answer**, or that there is none: an answer is counted once, under its
status and no other, and the gate is told one signal; without one nothing is counted or told. -/
structure Reports (effects : List Effect) (answer : Option FinalAnswer) : Prop where
  counted : ∀ code, effects.count (.report (.bump (.response code)))
    = if answer.any (·.hasCode code) then 1 else 0
  told : effects.filterMap Effect.signal? = (answer.map FinalAnswer.signal).toList

/-- Whether there is an answer or not, it is reported. -/
theorem reports_effectsOf (answer : Option FinalAnswer) : Reports (effectsOf answer) answer := by
  cases answer with
  | none => exact ⟨fun _ => rfl, rfl⟩
  | some a =>
      have hLines : ∀ l : Option Line,
          (l.toList.map fun l => Effect.report (.line l)).filterMap Effect.signal? = [] := by
        rintro (_ | l) <;> rfl
      refine ⟨fun code => ?_, ?_⟩
      · have hNone : ∀ l : Option Line, (l.toList.map fun l => Effect.report (.line l)).count
            (.report (.bump (.response code))) = 0 := by
          rintro (_ | l) <;> rfl
        show a.effects.count _ = if a.hasCode code then 1 else 0
        rw [FinalAnswer.effects, List.count_append, hNone]
        by_cases hCode : a.status = code <;> simp [FinalAnswer.hasCode, hCode]
      · show a.effects.filterMap Effect.signal? = [a.signal]
        rw [FinalAnswer.effects, List.filterMap_append, hLines]
        rfl

section Result

variable {α : Type} [Payload α] (a : FinalAnswer)

theorem yields_resultOf : a.Yields (resultOf a.status a.body : Except CallError α) := by
  unfold resultOf Net.StatusCode.tooManyRequests Net.StatusCode.unauthorized
  refine ⟨fun h => ?_, fun h => ?_, fun hLow hHigh => ?_, fun hCalm hKnown hNot => ?_⟩
  · rw [if_pos h]
  · rw [if_neg (by omega), if_pos h]
  · have hSuccess : Net.StatusCode.isSuccess a.status = true := by
      simp [Net.StatusCode.isSuccess, hLow, hHigh]
    rw [if_neg (by omega), if_neg (by omega), if_pos hSuccess]
    cases (decode? a.body : Option α) <;> rfl
  · have hRefused : Net.StatusCode.isSuccess a.status = false := by
      simpa [Net.StatusCode.isSuccess] using hNot
    rw [if_neg hCalm, if_neg hKnown, hRefused, if_neg Bool.false_ne_true, refusalMessage]
    cases (decode? a.body : Option Refusal) <;> rfl

/-- What is logged about an answer does not depend on what is looked for in it. -/
theorem lineOf_resultOf : lineOf (resultOf a.status a.body : Except CallError α) = a.line? := by
  unfold resultOf FinalAnswer.line? Net.StatusCode.tooManyRequests Net.StatusCode.unauthorized
  by_cases hOverload : a.status = 429
  · simp [hOverload, lineOf]
  · by_cases hKnown : a.status = 401
    · simp [hKnown, lineOf]
    · by_cases hSuccess : Net.StatusCode.isSuccess a.status
      · rw [if_neg hOverload, if_neg hKnown, if_pos hSuccess, if_pos (.inr (.inr hSuccess))]
        cases (decode? a.body : Option α) <;> rfl
      · simp [hOverload, hKnown, hSuccess, lineOf]

theorem effects_judge (ending : Ending) :
    (judge ending : Verdict α).effects = effectsOf ending.answer? := by
  cases ending with
  | answered status body =>
      have hLine := lineOf_resultOf (α := α) ⟨status, body⟩
      dsimp only at hLine
      rw [judge, hLine]
      rfl
  | failed => rfl
  | timedOut => rfl

end Result

/-! ## Calls -/

namespace Client

variable {ν : Type} [Network ν] (c : Client) (e : Endpoint) (id : String) (net : ν)

/-- The first request of a call. -/
def request (url : Url) : Request :=
  { method := methodOf e, url := url, cookie := c.settings.sessionCookie }

/-- The answer that a call obtains in the end, if it obtains one. -/
def answer? : Option FinalAnswer :=
  match c.endpoint e id with
  | .error _ => none
  | .ok url =>
    if c.settings.timeoutSecs = 0 then none
    else (exchange maxHops (c.request e url) net).1.answer?

/-- **A call obtains an answer** if it has an endpoint and time to wait, and its exchange ends
with the answer. -/
theorem answer?_eq_some_iff (a : FinalAnswer) :
    c.answer? e id net = some a ↔ ∃ url, c.endpoint e id = .ok url ∧
      0 < c.settings.timeoutSecs ∧
      Ends maxHops (c.request e url) net (.answered a.status a.body) := by
  unfold answer?
  cases hUrl : c.endpoint e id with
  | error what => simp
  | ok url =>
      dsimp only
      by_cases hTime : c.settings.timeoutSecs = 0
      · simp [hTime]
      · rw [if_neg hTime]
        constructor
        · intro h
          refine ⟨url, rfl, Nat.pos_of_ne_zero hTime, ends_iff.mpr ?_⟩
          cases hEnding : (exchange maxHops (c.request e url) net).1 with
          | answered status body =>
              rw [hEnding] at h
              obtain rfl := Option.some.inj h
              rfl
          | failed =>
              rw [hEnding] at h
              cases h
          | timedOut =>
              rw [hEnding] at h
              cases h
        · rintro ⟨_, hSame, -, hEnds⟩
          obtain rfl := Except.ok.inj hSame
          rw [← ends_iff.mp hEnds]
          rfl

variable {α : Type} [Payload α]

/-- A call that has an endpoint and time to wait is the exchange that begins with its request. -/
theorem call_of_ok {url : Url} (hUrl : c.endpoint e id = .ok url)
    (hTime : c.settings.timeoutSecs ≠ 0) :
    (c.call e id net : Call α × ν)
      = ({ judge (exchange maxHops (c.request e url) net).1 with
            duration := c.durationOf (exchange maxHops (c.request e url) net).1 },
          (exchange maxHops (c.request e url) net).2) := by
  unfold call request
  rw [hUrl]
  dsimp only
  rw [if_neg hTime]

/-- **Whatever a call reports** is the answer that it obtains. -/
theorem effects_call :
    (c.call e id net : Call α × ν).1.effects = effectsOf (c.answer? e id net) := by
  unfold call answer?
  cases c.endpoint e id with
  | error what => rfl
  | ok url =>
      dsimp only
      split
      next => rfl
      next => exact effects_judge _

/-- The result of a call that obtains no answer. -/
theorem result_of_none (h : c.answer? e id net = none) :
    (∃ what, c.endpoint e id = .error what ∧
        (c.call e id net : Call α × ν).1.result = .error what) ∨
      ((∃ url, c.endpoint e id = .ok url) ∧
        (c.call e id net : Call α × ν).1.result = .error .failed) := by
  unfold answer? at h
  unfold call
  cases hUrl : c.endpoint e id with
  | error what => exact .inl ⟨what, rfl, rfl⟩
  | ok url =>
      refine .inr ⟨⟨url, rfl⟩, ?_⟩
      rw [hUrl] at h
      dsimp only at h ⊢
      split at h
      next hTime => rw [if_pos hTime]
      next hTime =>
        rw [if_neg hTime]
        show (judge (exchange maxHops (c.request e url) net).1 : Verdict α).result = _
        cases hEnding : (exchange maxHops (c.request e url) net).1 with
        | answered status body =>
            rw [hEnding] at h
            cases h
        | failed => rfl
        | timedOut => rfl

/-- The result of a call that obtains an answer. -/
theorem result_of_some {a : FinalAnswer} (h : c.answer? e id net = some a) :
    a.Yields (c.call e id net : Call α × ν).1.result := by
  obtain ⟨url, hUrl, hTime, hEnds⟩ := (c.answer?_eq_some_iff e id net a).mp h
  rw [c.call_of_ok e id net hUrl (Nat.ne_of_gt hTime), ← ends_iff.mp hEnds]
  exact yields_resultOf a

/-- An answer takes no time. -/
theorem duration_of_some {a : FinalAnswer} (h : c.answer? e id net = some a) :
    (c.call e id net : Call α × ν).1.duration = 0 := by
  obtain ⟨url, hUrl, hTime, hEnds⟩ := (c.answer?_eq_some_iff e id net a).mp h
  rw [c.call_of_ok e id net hUrl (Nat.ne_of_gt hTime), ← ends_iff.mp hEnds]
  rfl

/-- An endpoint that is none is told as such. -/
theorem endpoint_error {what : CallError} (h : c.endpoint e id = .error what) :
    ∃ text, what = .invalidEndpoint text := by
  unfold endpoint at h
  dsimp only at h
  split at h
  next => cases h
  next error _ =>
    obtain rfl := Except.error.inj h
    exact ⟨_, rfl⟩

end Client

/-- **What a call comes to**, given the answer that it obtains. The answer is reported, and makes
the result. Without one the call does nothing, and its result is that there is no such endpoint or
that the request has failed. -/
structure Call.ComesTo {α : Type} [Payload α] (call : Call α) (answer : Option FinalAnswer) :
    Prop where
  reports : Reports call.effects answer
  result : ∀ a, answer = some a → a.Yields call.result
  silent : answer = none → call.effects = [] ∧
    (call.result = .error .failed ∨ ∃ text, call.result = .error (.invalidEndpoint text))

theorem Client.call_comesTo {ν α : Type} [Network ν] [Payload α] (c : Client) (e : Endpoint)
    (id : String) (net : ν) : (c.call e id net : Call α × ν).1.ComesTo (c.answer? e id net) := by
  have hEffects := c.effects_call e id net (α := α)
  refine ⟨?_, fun a ha => c.result_of_some e id net ha, fun hNone => ⟨?_, ?_⟩⟩
  · rw [hEffects]
    exact reports_effectsOf _
  · rw [hEffects, hNone]
    rfl
  · rcases c.result_of_none e id net (α := α) hNone with ⟨what, hUrl, hResult⟩ | ⟨-, hResult⟩
    · obtain ⟨text, rfl⟩ := c.endpoint_error e id hUrl
      exact .inr ⟨text, hResult⟩
    · exact .inl hResult

end Lookout.Backend
