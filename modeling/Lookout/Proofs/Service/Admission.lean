import Lookout.Proofs.Polling.Unread
import Lookout.Proofs.Service.Requests

set_option autoImplicit false

/-! # Only the key is asked for

With a key configured, the admin interface asks for it before it looks at anything else of a
request, and asks for nothing more afterwards. So a service with a key is, to those who show it,
the service without a key, and to all others nothing but an answer (`key_gates_requests`).

Two runs are compared for that, one of a service with a key and one without. They are not the same,
since every refusal is logged; but the log is never read, so they are `Alike` after every command.
`Service.under` is a service with another key and an older journal: whatever is done with it,
except what only its key allows or forbids, is done as with the service itself.
-/

namespace Lookout

/-! ## Journals without refusals -/

namespace Journal

/-- Whether an entry tells that a request was refused. -/
def Entry.tellsRefusal : Entry → Bool
  | .line (.adminRejected _) => true
  | _ => false

/-- A journal, less what tells that requests were refused. -/
def unrefused (j : Journal) : Journal := j.filter fun e => !e.tellsRefusal

theorem unrefused_append (newer older : Journal) :
    unrefused (newer ++ older) = unrefused newer ++ unrefused older := List.filter_append ..

/-- A view that shows nothing of refusals. -/
theorem filterMap_unrefused {α : Type} (view : Entry → Option α)
    (h : ∀ path, view (.line (.adminRejected path)) = none) (j : Journal) :
    (unrefused j).filterMap view = j.filterMap view := by
  rw [unrefused, List.filterMap_filter]
  refine List.filterMap_congr fun e _ => ?_
  cases e with
  | line l =>
      cases l with
      | adminRejected path => exact (h path).symm
      | _ => rfl
  | bump c => rfl
  | gauges level paused => rfl

/-- **The metrics show nothing of refusals.** -/
theorem metrics_unrefused (j : Journal) : metrics (unrefused j) = metrics j := by
  have hCounters := filterMap_unrefused Entry.counter? (fun _ => rfl) j
  have hGauges := filterMap_unrefused Entry.gauges? (fun _ => rfl) j
  unfold metrics counters count gauges?
  rw [hCounters, hGauges]

end Journal

/-! ## Admission -/

namespace Admin

/-- A request shows a key: its header can be read as text, and is the word `Bearer`, one blank and
the key, to the letter. -/
def Request.Shows (r : Request) (key : String) : Prop :=
  ∃ value, r.authorization = some value ∧ Net.isPlainHeader value = true ∧ value = "Bearer " ++ key

theorem admits_iff_shows {key : String} {r : Request} :
    admits (some key) r.authorization = true ↔ r.Shows key := by
  rw [admits_some_iff, Request.Shows]
  constructor
  · rintro ⟨hHeader, hPlain⟩
    exact ⟨_, hHeader, hPlain, rfl⟩
  · rintro ⟨value, hHeader, hPlain, rfl⟩
    exact ⟨hHeader, hPlain⟩

end Admin

namespace Service

open Admin (Request)
open Backend (CallError Network Payload Uplink)
open Polling (Fleet)

/-- Whether a key admits a command; only requests have to show it. -/
def Command.admittedBy (key : Option String) : Command → Bool
  | .admin (some r) => Admin.admits key r.authorization
  | _ => true

theorem Command.admittedBy_none (c : Command) : c.admittedBy none = true := by
  unfold admittedBy
  split <;> rfl

variable {ν : Type}

/-- The service with another key, or with none. -/
def withKey (s : Service ν) (key : Option String) : Service ν := { s with apiKey := key }

/-- The service with another key, and an older journal below its own. -/
def under (s : Service ν) (key : Option String) (older : Journal) : Service ν :=
  ⟨s.fleet.atop older, key⟩

variable (s : Service ν) (key : Option String) (older : Journal)

@[simp] theorem fleet_under : (s.under key older).fleet = s.fleet.atop older := rfl

theorem under_nil : s.under key [] = s.withKey key := by
  rw [under, Fleet.atop, List.append_nil]
  rfl

/-! ## What neither the key nor the journal bears on -/

theorem onFleet_under {f : Fleet (Uplink ν) → Fleet (Uplink ν)}
    (h : ∀ t : Fleet (Uplink ν), f (t.atop older) = (f t).atop older) :
    (s.under key older).onFleet f = (s.onFleet f).under key older :=
  congrArg (Service.mk · key) (h s.fleet)

theorem onNamed_under {segment : List Char} {act seen : Nat → Service ν × Admin.Answer}
    (h : ∀ i, seen i = ((act i).1.under key older, (act i).2)) :
    (s.under key older).onNamed segment seen
      = ((s.onNamed segment act).1.under key older, (s.onNamed segment act).2) := by
  have hPoller : ∀ name, (s.under key older).poller? name = s.poller? name := fun _ => rfl
  unfold onNamed
  cases Text.percentDecode? segment with
  | none => rfl
  | some name =>
      dsimp only
      rw [hPoller]
      cases s.poller? name with
      | none => rfl
      | some i => exact h i

variable [Network ν]

theorem settle_under : (s.under key older).settle = s.settle.under key older :=
  s.onFleet_under key older (·.settle_atop older)

theorem pollNow_under (i : Nat) :
    (s.under key older).pollNow i = ((s.pollNow i).1.under key older, (s.pollNow i).2) := by
  unfold pollNow
  rw [fleet_under, Fleet.callFetch_atop, Fleet.source_atop]
  generalize s.fleet.callFetch i = called
  generalize (s.fleet.source.status i).1.result = result
  obtain ⟨f, fleet⟩ := called
  dsimp only
  rw [Fleet.await_atop]
  rfl

theorem call_under {α : Type} [Payload α] (e : Config.Endpoint) (id : String) :
    ((s.under key older).call e id : Service ν × Except CallError α)
      = ((s.call e id : Service ν × Except CallError α).1.under key older, (s.call e id).2) := by
  unfold call
  rw [fleet_under, Fleet.source_atop]
  generalize (s.fleet.source.call e id : Backend.Call α × Uplink ν) = made
  obtain ⟨call, source⟩ := made
  dsimp only
  rw [Fleet.putSource_atop, Fleet.await_atop]
  rfl

theorem showPoll_under (i : Nat) :
    (s.under key older).showPoll i = ((s.showPoll i).1.under key older, (s.showPoll i).2) := by
  unfold showPoll
  rw [pollNow_under]
  obtain ⟨s', status | e⟩ := s.pollNow i <;> rfl

theorem visit_under (route : Admin.Route) :
    (s.under key older).visit route
      = ((s.visit route).1.under key older, (s.visit route).2) := by
  cases route with
  | backoff => rfl
  | resume =>
      have hTold := s.onFleet_under key older (f := (·.tell .forceResume))
        (·.tell_atop older .forceResume)
      rw [visit, visit, hTold]
      rfl
  | pollers => rfl
  | activate segment =>
      refine s.onNamed_under key older fun i => ?_
      have hActive := s.onFleet_under key older (f := (·.enterActive i))
        (·.enterActive_atop older i)
      rw [activate, activate, hActive]
      rfl
  | poll segment => exact s.onNamed_under key older fun i => s.showPoll_under key older i

theorem serve_under (r : Request) :
    (s.under key older).serve r = ((s.serve r).1.under key older, (s.serve r).2) := by
  unfold serve
  cases Admin.Route.ofPath? r.path with
  | none => rfl
  | some route =>
      dsimp only
      rw [visit_under]
      split <;> rfl

theorem handle_under {r : Request} (hHere : Admin.admits s.apiKey r.authorization = true)
    (hThere : Admin.admits key r.authorization = true) :
    (s.under key older).handle r = ((s.handle r).1.under key older, (s.handle r).2) := by
  rw [handle, handle, if_pos hHere]
  exact (if_pos hThere).trans (s.serve_under key older r)

theorem onEach_under (pollers : List Nat) {op : Fleet (Uplink ν) → Nat → Fleet (Uplink ν)}
    (h : ∀ (t : Fleet (Uplink ν)) i, op (t.atop older) i = (op t i).atop older) :
    (s.under key older).onEach pollers op = (s.onEach pollers op).under key older := by
  unfold onEach
  rw [onFleet_under s key older fun t => t.foldl_atop older h pollers, settle_under]

theorem pollEach_under (pollers : List Nat) :
    (s.under key older).pollEach pollers
      = ((s.pollEach pollers).1.under key older, (s.pollEach pollers).2) := by
  unfold pollEach
  rw [fleet_under, Fleet.pollers_atop]
  dsimp only
  -- The answer so far is carried along, so the induction is for any.
  generalize pollers.filter (· < s.fleet.pollers.length) = called
  generalize Answer.nothing = answer
  induction called generalizing s answer with
  | nil => rfl
  | cons i rest ih =>
      rw [List.foldl_cons, List.foldl_cons, pollNow_under]
      generalize s.pollNow i = polled
      dsimp only
      exact ih polled.1 (.status polled.2)

/-- **A command that both keys admit** does the same with either, and is answered the same. -/
theorem perform_under {c : Command} (hHere : c.admittedBy s.apiKey = true)
    (hThere : c.admittedBy key = true) :
    (s.under key older).perform c = ((s.perform c).1.under key older, (s.perform c).2) := by
  cases c with
  | advance ms => exact congrArg (·, _) (s.onFleet_under key older (·.advance_atop older ms))
  | signal x =>
      rw [perform, perform, s.onFleet_under key older (·.tell_atop older x), settle_under]
  | start ps => exact congrArg (·, _) (s.onEach_under key older ps (·.start_atop older ·))
  | stop ps => exact congrArg (·, _) (s.onEach_under key older ps (·.stop_atop older ·))
  | enterActive ps =>
      exact congrArg (·, _) (s.onEach_under key older ps (·.enterActive_atop older ·))
  | exitActive ps => exact congrArg (·, _) (s.onEach_under key older ps (·.exitActive_atop older ·))
  | pollNow ps => exact s.pollEach_under key older ps
  | status id => rw [perform, perform, call_under]
  | startServer id => rw [perform, perform, call_under]
  | stopServer id => rw [perform, perform, call_under]
  | describe => rfl
  | admin request =>
      cases request with
      | none => rfl
      | some r =>
          rw [perform, perform, s.handle_under key older hHere hThere]
          exact congrArg (·, _) ((s.handle r).1.settle_under key older)

/-! ## Services that differ in what they refuse -/

omit [Network ν] in
/-- The service without its key and its journal. -/
def bare (s : Service ν) : Service ν := ⟨s.fleet.unwritten, none⟩

/-- Two services that are the same but for their keys and for what they have logged of requests
that they refused. -/
structure Alike (s t : Service ν) : Prop where
  bare : s.bare = t.bare
  journal : s.fleet.journal.unrefused = t.fleet.journal.unrefused

variable {s} {t u : Service ν}

omit [Network ν] in
theorem Alike.trans (h : s.Alike t) (hNext : t.Alike u) : s.Alike u :=
  ⟨h.bare.trans hNext.bare, h.journal.trans hNext.journal⟩

omit [Network ν] in
/-- Alike services have the same metrics. -/
theorem Alike.metrics (h : s.Alike t) : s.fleet.journal.metrics = t.fleet.journal.metrics := by
  rw [← Journal.metrics_unrefused, h.journal, Journal.metrics_unrefused]

omit [Network ν] in
theorem alike_under (s : Service ν) (key other : Option String) {older instead : Journal}
    (h : older.unrefused = instead.unrefused) :
    (s.under key older).Alike (s.under other instead) := by
  refine ⟨rfl, ?_⟩
  show Journal.unrefused (_ ++ _) = Journal.unrefused (_ ++ _)
  rw [Journal.unrefused_append, Journal.unrefused_append, h]

omit [Network ν] in
theorem under_bare (s : Service ν) : s.bare.under s.apiKey s.fleet.journal = s := rfl

theorem perform_admittedBy {c : Command} (h : c.admittedBy s.apiKey = true) :
    s.perform c
      = ((s.bare.perform c).1.under s.apiKey s.fleet.journal, (s.bare.perform c).2) := by
  have hBare := s.bare.perform_under s.apiKey s.fleet.journal c.admittedBy_none h
  rw [under_bare] at hBare
  exact hBare

/-- **A command that both admit** leaves alike services alike, and is answered the same. -/
theorem Alike.perform (h : s.Alike t) {c : Command} (hHere : c.admittedBy s.apiKey = true)
    (hThere : c.admittedBy t.apiKey = true) :
    (s.perform c).1.Alike (t.perform c).1 ∧ (s.perform c).2 = (t.perform c).2 := by
  rw [perform_admittedBy hHere, perform_admittedBy hThere, h.bare]
  exact ⟨alike_under _ _ _ h.journal, rfl⟩

/-- A request is turned away: it is answered 401, and leaves a line in the log and nothing else.
The line is of no account to the metrics. -/
structure TurnsAway (s : Service ν) (r : Request) : Prop where
  answer : (s.handle r).2 = ⟨401, none⟩
  service : (s.handle r).1 = s.onFleet (·.log (.adminRejected r.path))
  metrics : (s.handle r).1.fleet.journal.metrics = s.fleet.journal.metrics

omit [Network ν] in
theorem alike_log (s : Service ν) (path : String) :
    (s.onFleet (·.log (.adminRejected path))).Alike s :=
  ⟨rfl, List.filter_cons_of_neg nofun⟩

theorem handle_of_refused {r : Request} (h : Admin.admits s.apiKey r.authorization = false) :
    s.handle r = (s.onFleet (·.log (.adminRejected r.path)), ⟨401, none⟩) := by
  rw [handle, h]
  rfl

theorem turnsAway {r : Request} (h : Admin.admits s.apiKey r.authorization = false) :
    s.TurnsAway r := by
  refine ⟨by rw [handle_of_refused h], by rw [handle_of_refused h], ?_⟩
  rw [handle_of_refused h]
  exact (s.alike_log r.path).metrics

/-- Only requests are refused. -/
theorem perform_of_refused {c : Command} (h : c.admittedBy s.apiKey = false) :
    ∃ path, s.perform c
      = ((s.onFleet (·.log (.adminRejected path))).settle, .admin ⟨401, none⟩) := by
  unfold Command.admittedBy at h
  split at h
  next r => exact ⟨r.path, by rw [perform, handle_of_refused h]⟩
  next => cases h

/-- **A refused request**, at a time when nothing is due, leaves the service as it was but for the
log. -/
theorem Settled.perform_refused (h : s.Settled) {c : Command}
    (hRefused : c.admittedBy s.apiKey = false) :
    (s.perform c).1.Alike s ∧ (s.perform c).2 = .admin ⟨401, none⟩ := by
  obtain ⟨path, hPerformed⟩ := perform_of_refused hRefused
  have hLogged : (s.fleet.log (.adminRejected path)).AtRest :=
    h.atRest.effects [.report (.line (.adminRejected path))]
  have hSettled : (s.onFleet (·.log (.adminRejected path))).settle
      = s.onFleet (·.log (.adminRejected path)) := by
    rw [Service.settle, onFleet, onFleet, hLogged.settle]
  rw [hPerformed, hSettled]
  exact ⟨s.alike_log path, rfl⟩

/-- No command changes the key. -/
theorem apiKey_perform (s : Service ν) (c : Command) : (s.perform c).1.apiKey = s.apiKey := by
  cases hAdmitted : c.admittedBy s.apiKey with
  | true => rw [perform_admittedBy hAdmitted, under]
  | false =>
      obtain ⟨path, hPerformed⟩ := perform_of_refused hAdmitted
      rw [hPerformed]
      rfl

theorem apiKey_after (s : Service ν) (commands : List Command) :
    (s.after commands).apiKey = s.apiKey := by
  induction commands generalizing s with
  | nil => rfl
  | cons c rest ih => exact (ih (s.perform c).1).trans (s.apiKey_perform c)

/-- **Two runs.** A service goes the way of one without a key that is not even sent the requests
that are refused. -/
theorem Alike.after (h : s.Alike t) (hSettled : s.Settled) (hFree : t.apiKey = none)
    (commands : List Command) :
    (s.after commands).Alike (t.after (commands.filter (·.admittedBy s.apiKey))) := by
  -- Both services take an admitted command; a refused one moves only the first, to one alike.
  induction commands generalizing s t with
  | nil => exact h
  | cons c rest ih =>
      have hKey := s.apiKey_perform c
      cases hAdmitted : c.admittedBy s.apiKey with
      | true =>
          have hThere : c.admittedBy t.apiKey = true := by
            rw [hFree]
            exact c.admittedBy_none
          have hNext := ih (h.perform hAdmitted hThere).1 (hSettled.perform c)
            ((t.apiKey_perform c).trans hFree)
          rw [hKey] at hNext
          rw [List.filter_cons_of_pos hAdmitted]
          exact hNext
      | false =>
          have hStays := (hSettled.perform_refused hAdmitted).1
          have hNext := ih (hStays.trans h) (hSettled.perform c) hFree
          rw [hKey] at hNext
          rw [List.filter_cons_of_neg (by rw [hAdmitted]; nofun)]
          exact hNext

/-- **The key is all that the admin interface asks for.** Take any service, with any key and with
none.

* With the key, every request that does not show it is turned away, wherever it leads. The header
  has to be text, and to be the word `Bearer`, one blank and the key, to the letter.
* With the key, every request that shows it does what it does without a key, and is answered the
  same.
* Take two runs from a time when nothing is due, one with the key, and one without it that leaves
  out the requests that are refused in the first. The services are alike all the time, so that they
  have the same metrics too. Every command is answered the same in both, and each request that is
  left out was answered 401. -/
theorem key_gates_requests (s : Service ν) (key : String) :
    let locked := s.withKey (some key)
    let free := s.withKey none
    (∀ r : Request, ¬ r.Shows key → locked.TurnsAway r) ∧
    (∀ r : Request, r.Shows key →
      locked.handle r = ((free.handle r).1.withKey (some key), (free.handle r).2)) ∧
    (s.Settled → ∀ past : List Command,
      let here := locked.after past
      let there := free.after (past.filter (·.admittedBy (some key)))
      (here.Alike there ∧ here.fleet.journal.metrics = there.fleet.journal.metrics) ∧
        ∀ c : Command,
          (c.admittedBy (some key) = true → (here.perform c).2 = (there.perform c).2) ∧
            (c.admittedBy (some key) = false → (here.perform c).2 = .admin ⟨401, none⟩)) := by
  intro locked free
  refine ⟨fun r hShows => turnsAway ?_, fun r hShows => ?_, fun hSettled past => ?_⟩
  · exact Bool.eq_false_iff.mpr fun hAdmitted => hShows (Admin.admits_iff_shows.mp hAdmitted)
  · have hSame := free.handle_under (some key) [] (Admin.admits_none _)
      (Admin.admits_iff_shows.mpr hShows)
    rw [under_nil, under_nil] at hSame
    exact hSame
  · intro here there
    have hLocked : locked.Settled := ⟨hSettled.inService, hSettled.atRest⟩
    have hStart : locked.Alike free := ⟨rfl, rfl⟩
    have hAlike : here.Alike there := hStart.after hLocked rfl past
    have hHere : here.apiKey = some key := locked.apiKey_after past
    have hThere : there.apiKey = none := free.apiKey_after _
    refine ⟨⟨hAlike, hAlike.metrics⟩, fun c => ⟨fun hAdmitted => ?_, fun hRefused => ?_⟩⟩
    · rw [← hHere] at hAdmitted
      refine (hAlike.perform hAdmitted ?_).2
      rw [hThere]
      exact c.admittedBy_none
    · rw [← hHere] at hRefused
      exact ((hLocked.after past).perform_refused hRefused).2

/-- Requests to resume, with no key, a part of it, more than it, another case, and more blanks. -/
def nearMisses : List Command :=
  [none, some "Bearer ke", some "Bearer keys", some "bearer key", some "Bearer Key",
    some "Bearer  key", some "Bearer key ", some "key"].map
      fun header => .admin (some ⟨.post, "/admin/backoff/resume", header⟩)

theorem key_gates_requests_near_misses :
    (guardedService.after (.start [0] :: nearMisses)).Alike
        ((guardedService.withKey none).after [.start [0]]) ∧
      ∀ c ∈ nearMisses,
        ((guardedService.after (.start [0] :: nearMisses)).perform c).2 = .admin ⟨401, none⟩ := by
  have hLeft : (.start [0] :: nearMisses).filter (·.admittedBy (some "key")) = [.start [0]] := by
    decide +kernel
  have hRefused : ∀ c ∈ nearMisses, c.admittedBy (some "key") = false := by decide +kernel
  obtain ⟨-, -, hRuns⟩ := key_gates_requests guardedService "key"
  obtain ⟨⟨hAlike, -⟩, hAnswers⟩ := hRuns (settled_make make_guarded) (.start [0] :: nearMisses)
  rw [hLeft] at hAlike
  exact ⟨hAlike, fun c hc => (hAnswers c).2 (hRefused c hc)⟩

end Service

end Lookout
