import Lookout.Proofs.Backoff.Remaining
import Lookout.Proofs.Service.Requests

set_option autoImplicit false

/-! # The pause as it is shown

What the admin interface shows of the pause is read off the gate when it is asked. Whatever a
service was told before, its gate is one that follows a history, and nothing of it is overdue; so
the seconds that it shows agree with the pause (`Settled.pending`), as they do for a gate that is
alone with its clock. `remaining_agrees` sums up both.
-/

namespace Lookout

namespace Polling

namespace Scene

variable {ω : Type} [FetchSource ω]

/-- Everything a gate was told is past. -/
theorem le_of_mem_told (s₀ : Scene ω) (past : List (Move ω)) :
    ∀ x ∈ s₀.told past, x.1 ≤ (s₀.after past).fleet.now := by
  induction past with
  | nil => exact fun x hx => absurd hx List.not_mem_nil
  | cons m past ih =>
      have hLater : (s₀.after past).fleet.now ≤ (s₀.after (m :: past)).fleet.now := by
        rw [after, now_move]
        exact Nat.le_add_right _ _
      intro x hx
      rw [told, List.mem_append, List.mem_reverse] at hx
      rcases hx with hNew | hOld
      · obtain ⟨signal, -, rfl⟩ := List.mem_map.mp hNew
        exact hLater
      · exact (ih x hOld).trans hLater

end Scene

/-- A gate that heeds a history of the past is paused for what is ahead, if nothing of its fleet is
due. -/
theorem Fleet.AtRest.pending {ω : Type} {s : Fleet ω} (hRest : s.AtRest) {h : Backoff.History}
    (hHeeds : Heeds s.gate h s.now) (hPast : ∀ x ∈ h, x.1 ≤ s.now) : s.gate.Pending s.now where
  ahead t hAt := by
    have hDue : (Fleet.Work.gate).due? s = some t := hHeeds.sound.due?_eq.trans hAt
    exact hRest (t, .gate) (Fleet.mem_agenda.mpr hDue)
  near t hAt := Backoff.History.resume?_le hPast (hHeeds.only t hAt)

end Polling

namespace Service

open Backend (Network)
open Backoff (Clocked Delays)
open Polling (Scene)

variable {ν : Type} [Network ν] {s s₀ : Service ν}

/-- A run of commands is made of acts. -/
theorem leads_after (h : s.fleet.Manned) (commands : List Command) :
    s.Leads (s.after commands) := by
  induction commands generalizing s with
  | nil => exact .refl h
  | cons c rest ih =>
      have hOne := leads_perform h c
      exact hOne.trans (ih hOne.manned)

/-- **The gate of a service**, whatever the commands were: it has the schedule of the
configuration, and is paused for what is ahead. -/
theorem pending_after {c : Config} {network : ν} (hMade : make c network = .ok s₀)
    (past : List Command) :
    (s₀.after past).fleet.gate.delays = Delays.ofList c.delays ∧
      (s₀.after past).fleet.gate.Pending (s₀.after past).fleet.now := by
  have hGate : (Scene.mk s₀.fleet []).fleet.gate = (Backoff.Gate.make c.delays).1 :=
    (parts_make hMade).1
  obtain ⟨acts, hActs⟩ := (leads_after (manned_make hMade).1 past).works
  obtain ⟨hHeeds, hDelays⟩ := Scene.heeds_after hGate ((Scene.mk s₀.fleet []).moves acts)
  have hPast := (Scene.mk s₀.fleet []).le_of_mem_told ((Scene.mk s₀.fleet []).moves acts)
  have hThere : ((Scene.mk s₀.fleet []).after ((Scene.mk s₀.fleet []).moves acts)).fleet
      = (s₀.after past).fleet := congrArg Scene.fleet hActs
  rw [hThere] at hHeeds hDelays hPast
  exact ⟨hDelays, ((settled_make hMade).after past).atRest.pending hHeeds hPast⟩

/-- What the admin interface shows of a gate: whether it is paused, its level, the seconds that
are left, and its schedule. -/
def gateShown (g : Backoff.Gate) (now : Nat) : Json :=
  .obj [("paused", .bool g.paused), ("level", .nat g.level),
    ("remaining_seconds", .nat (g.remainingSeconds now)),
    ("schedule_ms", .arr (g.delays.toList.map .nat))]

/-- A request to see the gate, or to resume, is answered with the gate as it is then. -/
theorem Settled.perform_gate (h : s.Settled) {r : Admin.Request}
    (hAdmitted : Admin.admits s.apiKey r.authorization = true) (hMethod : r.method ≠ .head)
    (hRoute : r.route? = some .backoff ∨ r.route? = some .resume) :
    let t := (s.perform (.admin (some r))).1
    (s.perform (.admin (some r))).2 = .admin (.ok (gateShown t.fleet.gate t.fleet.now)) := by
  intro t
  rcases hRoute with hLook | hResume
  · have hSame : t = s := by
      rw [show t = _ from h.perform_admitted hAdmitted, Admin.Request.calls, hLook]
      rfl
    have hServed : (s.serve r).2 = .ok s.gateBody := (serve_of_some hLook).2.2 hMethod
    rw [hSame, Service.perform, handle, if_pos hAdmitted]
    exact congrArg Answer.admin hServed
  · obtain ⟨hState, hAnswer⟩ := h.perform_resume hAdmitted hResume
    rw [show t = _ from hState, hAnswer]
    rfl

/-- **The seconds that are left agree with the pause.**

* Take a gate with any schedule whose delays have room in 64 bits, after any run of signals and of
  time that passes, continuously or in jumps. Seconds are left exactly while the gate is paused;
  they are the least number of seconds that reaches the end of the pause, no more than the last
  entry of the schedule in effect has, rounded up, and 64 bits hold all of them. While only time
  passes they never become more.
* The gate of a service, whatever the commands were, is no different. A request to see it, or to
  resume, is answered with the gate as it is then, so that the answer never shows a pause of which
  no second is left, nor a second of a pause that is over. -/
theorem remaining_agrees :
    (∀ delays : List Nat, (∀ d ∈ delays, d < UInt64.size) → ∀ commands : List Backoff.Command,
      let c := Clocked.ran delays commands
      c.gate.delays.toList = (if Backoff.Usable delays then delays else Backoff.defaultDelays) ∧
        c.gate.Counts c.now ∧
        ∀ passing : List Backoff.Command, (∀ x ∈ passing, ∀ signal, x ≠ .signal signal) →
          let later := Clocked.ran delays (commands ++ passing)
          later.gate.remainingSeconds later.now ≤ c.gate.remainingSeconds c.now) ∧
    (∀ (ν : Type) [Network ν] (c : Config) (network : ν) (s₀ : Service ν),
      (∀ d ∈ c.delays, d < UInt64.size) → make c network = .ok s₀ → ∀ past : List Command,
      let s := s₀.after past
      s.fleet.gate.Counts s.fleet.now ∧
        ∀ r : Admin.Request, Admin.admits s.apiKey r.authorization = true → r.method ≠ .head →
          r.route? = some .backoff ∨ r.route? = some .resume →
          let t := (s.perform (.admin (some r))).1
          (s.perform (.admin (some r))).2 = .admin (.ok (gateShown t.fleet.gate t.fleet.now)) ∧
            t.fleet.gate.Counts t.fleet.now) := by
  have hWide : ∀ delays : List Nat, (∀ d ∈ delays, d < UInt64.size) →
      ∀ d ∈ (Delays.ofList delays).toList, d < UInt64.size := by
    intro delays hWords
    rw [Delays.ofList_eq]
    split
    · exact hWords
    · decide
  refine ⟨fun delays hWords commands => ?_, fun ν _ c network s₀ hWords hMade past => ?_⟩
  · intro clock
    have hCounts : ∀ commands, (Clocked.ran delays commands).gate.Counts
        (Clocked.ran delays commands).now := by
      intro commands
      refine (Clocked.pending_ran delays commands).counts ?_
      rw [Clocked.delays_ran]
      exact hWide delays hWords
    refine ⟨?_, hCounts commands, fun passing hPassing => ?_⟩
    · rw [← Delays.ofList_eq, ← Clocked.delays_ran delays commands]
    · have hSound : clock.gate.Sound := ((Clocked.follows_start delays).run commands).1.sound
      obtain ⟨hNow, hAt⟩ := Clocked.resumeAt_of_passing hSound hPassing
      have hLater : Clocked.ran delays (commands ++ passing)
          = passing.foldl Clocked.perform clock := List.foldl_append
      have hCountsLater := hCounts (commands ++ passing)
      rw [hLater] at hCountsLater ⊢
      exact (hCounts commands).le_of_later hCountsLater hNow hAt
  · intro s
    have hCounts : ∀ past, (s₀.after past).fleet.gate.Counts (s₀.after past).fleet.now := by
      intro past
      obtain ⟨hDelays, hPending⟩ := pending_after hMade past
      refine hPending.counts ?_
      rw [hDelays]
      exact hWide c.delays hWords
    refine ⟨hCounts past, fun r hAdmitted hMethod hRoute => ?_⟩
    -- The answer shows the gate as it is after the request, which is a command like any other.
    have hAfter := hCounts (past ++ [.admin (some r)])
    rw [after_append] at hAfter
    exact ⟨((settled_make hMade).after past).perform_gate hAdmitted hMethod hRoute, hAfter⟩

/-- A schedule that fills 64 bits, after two overload signals in a row; and a service that was
overloaded, asked with its key. -/
theorem remaining_agrees_extreme :
    (let c := Clocked.ran [1, 18446744073709551615]
        [.signal .trigger, .signal .trigger, .advance 1]
    c.gate.Counts c.now ∧ c.gate.remainingSeconds c.now = 18446744073709552) ∧
    (let t := ((guardedService.after [.start [0]]).perform
        (.admin (some ⟨.get, "/admin/backoff", some "Bearer key"⟩)))
    t.2 = .admin (.ok (gateShown t.1.fleet.gate t.1.fleet.now)) ∧
      0 < t.1.fleet.gate.remainingSeconds t.1.fleet.now) := by
  have hAdmitted : Admin.admits (guardedService.after [.start [0]]).apiKey
      (some "Bearer key") = true := by
    decide +kernel
  obtain ⟨-, hCounts, -⟩ := remaining_agrees.1 [1, 18446744073709551615] (by decide)
    [.signal .trigger, .signal .trigger, .advance 1]
  obtain ⟨-, hAnswers⟩ := remaining_agrees.2 Backend.Site guarded panel guardedService
    (by decide) make_guarded [.start [0]]
  obtain ⟨hAnswer, hShown⟩ := hAnswers ⟨.get, "/admin/backoff", some "Bearer key"⟩ hAdmitted
    (by decide) (.inl (by decide +kernel))
  exact ⟨⟨hCounts, by decide +kernel⟩, hAnswer, hShown.pos_iff.mpr (by decide +kernel)⟩

end Service

end Lookout
