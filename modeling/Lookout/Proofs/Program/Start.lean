import Lookout.Program.Daemon
import Lookout.Proofs.Config.Repair

set_option autoImplicit false

/-! # Starting with a configuration that was accepted

A configuration is checked twice: when it is loaded, and when the service is made of it. What the
first check accepts has a base URL and addresses that can be used, so that the second finds nothing
wrong with them (`make_of_accepted`, `exists_address`). The cookie is looked at by the second check
only. With a cookie that can be sent, an accepted configuration starts, unless the machine has no
room for the admin interface; with one that cannot be sent the daemon ends after it has loaded its
configuration without complaint (`accepted_config_starts`).
-/

namespace Lookout

open Backend (CallError Client Network)
open Net (SocketAddress)

/-! ## What the check of a configuration is good for -/

/-- The cookie of a configuration, if it has one, can be sent. -/
def Config.CookieFits (c : Config) : Prop :=
  c.transport.sessionCookie.all Net.isHeaderValue = true

instance (c : Config) : Decidable c.CookieFits := inferInstanceAs (Decidable (_ = _))

/-- Why there is no client for a cookie that cannot be sent. -/
def Backend.CallError.badCookie : CallError :=
  .invalidEndpoint "session cookie is not a valid header"

variable {c : Config}

/-- Nothing is wrong with the address of a server that is enabled. -/
theorem Config.exists_address {enabled : Bool} {address : String} {problem : Problem}
    (h : addressProblems enabled address problem = []) (hEnabled : enabled = true) :
    ∃ a, SocketAddress.parse? address = some a := by
  unfold addressProblems at h
  rw [← Option.isSome_iff_exists]
  by_contra hNone
  rw [if_pos ⟨hEnabled, by simpa using hNone⟩] at h
  cases h

/-- **The client of an accepted configuration** has the URL that was checked; only its cookie can
stand in the way. -/
theorem Config.make_of_accepted (hAccepted : c.problems = []) :
    ∃ base, Url.parse c.transport.baseUrl = .ok base ∧
      Client.make c.transport = if c.CookieFits then .ok ⟨base, c.transport⟩ else .error .badCookie := by
  simp only [Config.problems, List.append_eq_nil_iff] at hAccepted
  obtain ⟨⟨⟨hUrl, -⟩, -⟩, -⟩ := hAccepted
  unfold urlProblems at hUrl
  split at hUrl
  case h_1 => cases hUrl
  case h_2 base hBase =>
    refine ⟨base, hBase, ?_⟩
    rw [Client.make, hBase]
    rfl

namespace Program.Daemon

variable {ν : Type} [Network ν]

/-! ## The two ways to start -/

/-- The addresses that are taken once the metrics are served. -/
def takenBy (m : Machine) (c : Config) : List SocketAddress := (serveMetrics m c).2 ++ m.taken

omit [Network ν] in
theorem badMetricsAddress_not_mem (m : Machine)
    (hAddress : c.observability.metricsEnabled = true →
      ∃ a, SocketAddress.parse? c.observability.metricsAddress = some a) (address : String) :
    .badMetricsAddress address ∉ (serveMetrics m c).1 := by
  unfold serveMetrics
  split
  next hEnabled =>
    obtain ⟨a, hParsed⟩ := hAddress hEnabled
    rw [hParsed]
    dsimp only
    split <;> simp
  next => exact List.not_mem_nil

/-- Without a service the daemon ends. -/
theorem startService_of_error (m : Machine) (corrections : List Config.Correction) {network : ν}
    {e : CallError} (h : Service.make c network = .error e) :
    (startService m c corrections network).outcome = .error (.client e) ∧
      (startService m c corrections network).notices
        = greeting c corrections ++ (serveMetrics m c).1 := by
  unfold startService
  rw [h]
  exact ⟨rfl, rfl⟩

/-- With a service it is up to the admin interface. -/
theorem startService_of_ok (m : Machine) (corrections : List Config.Correction) {network : ν}
    {s : Service ν} (h : Service.make c network = .ok s) :
    (∀ failure, (startService m c corrections network).outcome = .error failure ↔
        adminFailure? (takenBy m c) c = some failure) ∧
      ∃ rest, (startService m c corrections network).notices
        = greeting c corrections ++ (serveMetrics m c).1 ++ rest ∧ ∀ n ∈ rest, n = .nothingToPoll := by
  have hRest : ∀ n ∈ (if c.servers.isEmpty then [Notice.nothingToPoll] else []),
      n = .nothingToPoll := by
    split <;> simp
  unfold startService takenBy
  rw [h]
  dsimp only
  cases hFailure : adminFailure? ((serveMetrics m c).2 ++ m.taken) c with
  | none => exact ⟨fun failure => by simp, _, rfl, hRest⟩
  | some failure => exact ⟨fun failure' => by simp, _, rfl, hRest⟩

/-- **What is accepted starts, if its cookie can be sent.** Take any text that is read as a
configuration.

* The addresses of the metrics and of the admin interface are socket addresses, if they are
  enabled, so that the daemon never complains of the first.
* There is a client for the base URL of the configuration, unless the cookie cannot be sent.
* If it can, there is a service, and the daemon runs unless the machine refuses the address of the
  admin interface.
* If it cannot, the daemon ends with that for a reason, whatever the machine. -/
theorem accepted_config_starts {text : String} {corrections : List Config.Correction}
    (hParse : Config.parse text = .ok (c, corrections)) :
    ((c.observability.metricsEnabled = true →
        ∃ a, SocketAddress.parse? c.observability.metricsAddress = some a) ∧
      (c.admin.enabled = true → ∃ a, SocketAddress.parse? c.admin.bindAddress = some a)) ∧
    (∃ base, Url.parse c.transport.baseUrl = .ok base ∧
      Client.make c.transport
        = if c.CookieFits then .ok ⟨base, c.transport⟩ else .error .badCookie) ∧
    ∀ (ν : Type) [Network ν] (m : Machine) (network : ν),
      let d := startService m c corrections network
      (∀ address, .badMetricsAddress address ∉ d.notices) ∧
      (c.CookieFits → (∃ s, Service.make c network = .ok s) ∧
        ∀ failure, d.outcome = .error failure → ∃ address e,
          SocketAddress.parse? c.admin.bindAddress = some address ∧
            Net.bind? (takenBy m c) address = some e ∧ failure = .admin e) ∧
      (¬ c.CookieFits → d.outcome = .error (.client .badCookie)) := by
  obtain ⟨-, -, hAccepted⟩ := Config.exists_of_parse hParse
  obtain ⟨base, hBase, hClient⟩ := Config.make_of_accepted hAccepted
  simp only [Config.problems, List.append_eq_nil_iff] at hAccepted
  have hMetrics := Config.exists_address hAccepted.1.2
  have hAdmin := Config.exists_address hAccepted.2
  refine ⟨⟨hMetrics, hAdmin⟩, ⟨base, hBase, hClient⟩, fun ν _ m network => ?_⟩
  intro d
  have hNotices : ∀ address, .badMetricsAddress address
      ∉ greeting c corrections ++ (serveMetrics m c).1 := by
    intro address hMem
    rcases List.mem_append.mp hMem with hGreeting | hServed
    · simp [greeting] at hGreeting
    · exact badMetricsAddress_not_mem m hMetrics address hServed
  by_cases hFits : c.CookieFits
  · rw [if_pos hFits] at hClient
    obtain ⟨s, hMade⟩ : ∃ s, Service.make c network = .ok s := by
      rw [Service.make, hClient]
      exact ⟨_, rfl⟩
    obtain ⟨hOutcome, rest, hSaid, hRest⟩ := startService_of_ok m corrections hMade
    refine ⟨fun address => ?_, fun _ => ⟨⟨s, hMade⟩, fun failure hFailed => ?_⟩, absurd hFits⟩
    · rw [show d.notices = _ from hSaid, List.mem_append, not_or]
      exact ⟨hNotices address, fun hMem => by cases hRest _ hMem⟩
    · have hRefused := (hOutcome failure).mp hFailed
      unfold adminFailure? at hRefused
      split at hRefused
      next =>
        obtain ⟨e, hBound, rfl⟩ := Option.map_eq_some_iff.mp hRefused
        obtain ⟨address, hAddress, hBound⟩ := Option.bind_eq_some_iff.mp hBound
        exact ⟨address, e, hAddress, hBound, rfl⟩
      next => cases hRefused
  · rw [if_neg hFits] at hClient
    have hMade : Service.make c network = .error .badCookie := by
      rw [Service.make, hClient]
      rfl
    obtain ⟨hOutcome, hSaid⟩ := startService_of_error m corrections hMade
    refine ⟨fun address => ?_, fun hFits' => absurd hFits' hFits, fun _ => hOutcome⟩
    rw [show d.notices = _ from hSaid]
    exact hNotices address

/-- Everything is enabled, and there is a cookie. -/
def enabledText : String :=
  "[transport]\nsession_cookie = \"session=1\"\n[observability]\nmetrics_enabled = true\n"
    ++ "[admin]\nenabled = true\n"

/-- What it is read as. -/
def enabledConfig : Config where
  transport := { sessionCookie := some "session=1" }
  observability := { metricsEnabled := true }
  admin := { enabled := true }

theorem accepted_config_starts_enabled :
    Config.parse enabledText = .ok (enabledConfig, []) ∧
      (∃ a, SocketAddress.parse? enabledConfig.observability.metricsAddress = some a) ∧
      (∃ a, SocketAddress.parse? enabledConfig.admin.bindAddress = some a) ∧
      ∃ client, Client.make enabledConfig.transport = .ok client := by
  have hParse : Config.parse enabledText = .ok (enabledConfig, []) := by decide +kernel
  obtain ⟨⟨hMetrics, hAdmin⟩, ⟨base, -, hClient⟩, -⟩ := accepted_config_starts hParse
  rw [if_pos (by decide +kernel)] at hClient
  exact ⟨hParse, hMetrics rfl, hAdmin rfl, _, hClient⟩

/-- **What is accepted need not start.** The cookie of a configuration may hold a line end, and
nobody says so before there is to be a client. -/
theorem accepted_config_fails :
    ¬ ∀ (text : String) (c : Config) (corrections : List Config.Correction),
      Config.parse text = .ok (c, corrections) → ∃ client, Client.make c.transport = .ok client := by
  intro hStarts
  have hParse : Config.parse "[transport]\nsession_cookie=\"a\\nb\""
      = .ok ({ transport := { sessionCookie := some "a\nb" } }, []) := by
    decide +kernel
  obtain ⟨-, -, hAccepted⟩ := Config.exists_of_parse hParse
  obtain ⟨base, -, hClient⟩ := Config.make_of_accepted hAccepted
  rw [if_neg (by decide +kernel)] at hClient
  obtain ⟨client, hMade⟩ := hStarts _ _ _ hParse
  rw [hClient] at hMade
  cases hMade

end Program.Daemon

end Lookout
