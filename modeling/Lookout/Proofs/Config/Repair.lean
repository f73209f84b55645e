import Lookout.Config.Load
import Mathlib

set_option autoImplicit false

/-! # What a repair does

A repaired configuration is in range everywhere, and repairing it again changes nothing.
The corrections say what was done, neither more nor less: there is one for each field that
has another value now and one for each server that was dropped, and nothing else changed
but capitals in the log level. What is checked of a configuration is not repaired, so a
repair neither adds nor hides a problem.
-/

namespace Lookout.Config

/-! ## One value at a time -/

section positive

variable {value default : Nat} {correction : Correction}

theorem positive_pos (hDefault : 0 < default) : 0 < (positive value default correction).1 := by
  unfold positive
  split <;> omega

theorem positive_of_pos (hValue : 0 < value) :
    positive value default correction = (value, []) := by
  have hNonzero : value ≠ 0 := by omega
  simp [positive, hNonzero]

/-- A value is reported exactly when it is another one afterwards. -/
theorem positive_report (hDefault : 0 < default) :
    (positive value default correction).2
      = if value = (positive value default correction).1 then [] else [correction] := by
  by_cases hValue : value = 0
  · have hOther : 0 ≠ default := by omega
    simp [positive, hValue, hOther]
  · simp [positive, hValue]

end positive

theorem usable_repairDelays (delays : List Nat) : Backoff.Usable (repairDelays delays).1 := by
  unfold repairDelays
  split
  case isTrue hUsable => exact hUsable
  case isFalse => exact Backoff.usable_defaultDelays

theorem repairDelays_of_usable {delays : List Nat} (hUsable : Backoff.Usable delays) :
    repairDelays delays = (delays, []) := by
  simp [repairDelays, hUsable]

/-- Delays are reported exactly when they are others afterwards. -/
theorem repairDelays_report (delays : List Nat) :
    (repairDelays delays).2
      = if delays = (repairDelays delays).1 then [] else [.unusableDelays delays] := by
  by_cases hUsable : Backoff.Usable delays
  · simp [repairDelays, hUsable]
  · have hOther : delays ≠ Backoff.defaultDelays := by
      rintro rfl
      exact hUsable Backoff.usable_defaultDelays
    simp [repairDelays, hUsable, hOther]

/-! ## The log level -/

@[simp] theorem lowered_lowered (s : String) : lowered (lowered s) = lowered s := by
  have hTwice : Char.toLower ∘ Char.toLower = Char.toLower :=
    funext Char.toLower_toLower_eq_toLower
  simp [lowered, String.map_map, hTwice]

@[simp] theorem lowered_default :
    lowered ({} : ObservabilitySettings).logLevel = ({} : ObservabilitySettings).logLevel := by
  decide +kernel

/-- A log level that can be used: it has the name of one, in small letters. -/
structure IsLevel (level : String) : Prop where
  known : (Journal.Level.ofName? level).isSome
  small : lowered level = level

theorem isLevel_default : IsLevel ({} : ObservabilitySettings).logLevel :=
  ⟨by decide, lowered_default⟩

theorem isLevel_repairLevel (level : String) : IsLevel (repairLevel level).1 := by
  unfold repairLevel
  split
  case isTrue hKnown => exact ⟨hKnown, lowered_lowered level⟩
  case isFalse => exact isLevel_default

theorem repairLevel_of_isLevel {level : String} (h : IsLevel level) :
    repairLevel level = (level, []) := by
  simp [repairLevel, h.small, h.known]

/-- A level is reported exactly when it is another one afterwards, capitals aside. -/
theorem repairLevel_report (level : String) :
    (repairLevel level).2
      = if lowered level = lowered (repairLevel level).1 then [] else [.unknownLevel level] := by
  by_cases hKnown : (Journal.Level.ofName? (lowered level)).isSome
  · simp [repairLevel, hKnown]
  · have hOther : lowered level ≠ lowered ({} : ObservabilitySettings).logLevel := by
      intro hSame
      rw [hSame, lowered_default] at hKnown
      exact hKnown isLevel_default.known
    simpa [repairLevel, hKnown] using hOther

/-! ## The servers -/

/-- A server that a server before it, one with an id, shares the name of. -/
def Server.Namesake (before : List Server) (s : Server) : Prop :=
  ∃ t ∈ before, Text.isBlankText t.id = false ∧ t.name = s.name

/-- Of the servers `given` that come after those of `before`, the ones in `kept` are kept,
and each of the others is dropped with a correction that says why. -/
inductive Sifted : List Server → List Server → List Server → List Correction → Prop
  | done (before : List Server) : Sifted before [] [] []
  | keep {before given kept : List Server} {s : Server} {drops : List Correction}
      (hId : Text.isBlankText s.id = false) (hName : ¬ s.Namesake before)
      (hRest : Sifted (s :: before) given kept drops) :
      Sifted before (s :: given) (s :: kept) drops
  | blank {before given kept : List Server} {s : Server} {drops : List Correction}
      (hId : Text.isBlankText s.id = true) (hRest : Sifted (s :: before) given kept drops) :
      Sifted before (s :: given) kept (.blankId s.name :: drops)
  | again {before given kept : List Server} {s : Server} {drops : List Correction}
      (hId : Text.isBlankText s.id = false) (hName : s.Namesake before)
      (hRest : Sifted (s :: before) given kept drops) :
      Sifted before (s :: given) kept (.repeatedName s.name :: drops)

namespace Sifted

variable {before given kept : List Server} {drops : List Correction}

/-- One correction for each server that is dropped. -/
theorem length_drops (h : Sifted before given kept drops) :
    kept.length + drops.length = given.length := by
  induction h with
  | done => rfl
  | keep _ _ _ ih | blank _ _ ih | again _ _ _ ih =>
    simp only [List.length_cons]
    omega

theorem sublist (h : Sifted before given kept drops) : kept.Sublist given := by
  induction h with
  | done => exact .slnil
  | keep _ _ _ ih => exact ih.cons_cons _
  | blank _ _ ih | again _ _ _ ih => exact ih.cons _

theorem drops_eq_nil (h : Sifted before given kept drops) : drops = [] ↔ kept = given := by
  have hLength := h.length_drops
  constructor
  · intro hNone
    subst hNone
    exact h.sublist.eq_of_length (by simpa using hLength)
  · intro hSame
    subst hSame
    exact List.length_eq_zero_iff.mp (by omega)

theorem drops_field (h : Sifted before given kept drops) :
    ∀ k ∈ drops, k.field = "servers.id" ∨ k.field = "servers.name" := by
  induction h with
  | done => simp
  | keep _ _ _ ih => exact ih
  | blank _ _ ih => exact List.forall_mem_cons.mpr ⟨.inl rfl, ih⟩
  | again _ _ _ ih => exact List.forall_mem_cons.mpr ⟨.inr rfl, ih⟩

end Sifted

/-- The names in `seen` are those of the servers of `before` that have an id. -/
theorem sifted_repairServers {seen : List String} {before : List Server} (given : List Server)
    (hSeen : ∀ s : Server, s.Namesake before ↔ s.name ∈ seen) :
    Sifted before given (repairServers seen given).1 (repairServers seen given).2 := by
  induction given generalizing seen before with
  | nil => exact .done before
  | cons s rest ih =>
    by_cases hBlank : Text.isBlankText s.id
    · have hNext : ∀ t : Server, t.Namesake (s :: before) ↔ t.name ∈ seen := by
        intro t
        simp [← hSeen t, Server.Namesake, hBlank]
      simpa [repairServers, hBlank] using Sifted.blank hBlank (ih hNext)
    · have hId : Text.isBlankText s.id = false := by simpa using hBlank
      have hNow : ∀ t : Server, t.Namesake (s :: before) ↔ s.name = t.name ∨ t.name ∈ seen := by
        intro t
        simp [← hSeen t, Server.Namesake, hId]
      by_cases hName : s.name ∈ seen
      · have hNext : ∀ t : Server, t.Namesake (s :: before) ↔ t.name ∈ seen := by
          intro t
          rw [hNow t]
          exact ⟨fun h => h.elim (· ▸ hName) id, .inr⟩
        simpa [repairServers, hBlank, hName] using
          Sifted.again hId ((hSeen s).mpr hName) (ih hNext)
      · have hNext : ∀ t : Server, t.Namesake (s :: before) ↔ t.name ∈ s.name :: seen := by
          intro t
          rw [hNow t, List.mem_cons, eq_comm]
        simpa [repairServers, hBlank, hName] using
          Sifted.keep hId (fun h => hName ((hSeen s).mp h)) (ih hNext)

theorem id_repairServers (seen : List String) (given : List Server) :
    ∀ s ∈ (repairServers seen given).1, Text.isBlankText s.id = false := by
  fun_induction repairServers seen given with
  | case1 => simp
  | case2 seen s rest hBlank kept drops hRest ih => simpa [hRest] using ih
  | case3 seen s rest hBlank hName kept drops hRest ih => simpa [hRest] using ih
  | case4 seen s rest hBlank hName kept drops hRest ih =>
    simp only [hRest] at ih
    exact List.forall_mem_cons.mpr ⟨by simpa using hBlank, ih⟩

theorem name_repairServers (seen : List String) (given : List Server) :
    (∀ s ∈ (repairServers seen given).1, s.name ∉ seen)
      ∧ ((repairServers seen given).1.map Server.name).Nodup := by
  fun_induction repairServers seen given with
  | case1 => simp
  | case2 seen s rest hBlank kept drops hRest ih => simpa [hRest] using ih
  | case3 seen s rest hBlank hName kept drops hRest ih => simpa [hRest] using ih
  | case4 seen s rest hBlank hName kept drops hRest ih =>
    simp only [hRest] at ih
    obtain ⟨hNew, hNodup⟩ := ih
    have hOther : s.name ∉ kept.map Server.name := by
      intro hMem
      obtain ⟨t, ht, hSame⟩ := List.mem_map.mp hMem
      exact hNew t ht (hSame ▸ List.mem_cons_self)
    exact ⟨List.forall_mem_cons.mpr ⟨hName, fun t ht => mt (List.mem_cons_of_mem _) (hNew t ht)⟩,
      List.nodup_cons.mpr ⟨hOther, hNodup⟩⟩

/-- Servers with ids, and with names of their own, are all kept. -/
theorem repairServers_of_nodup {seen : List String} {given : List Server}
    (hIds : ∀ s ∈ given, Text.isBlankText s.id = false) (hSeen : ∀ s ∈ given, s.name ∉ seen)
    (hNames : (given.map Server.name).Nodup) : repairServers seen given = (given, []) := by
  induction given generalizing seen with
  | nil => rfl
  | cons s rest ih =>
    obtain ⟨hId, hIds⟩ := List.forall_mem_cons.mp hIds
    obtain ⟨hName, hSeen⟩ := List.forall_mem_cons.mp hSeen
    obtain ⟨hOwn, hNames⟩ := List.nodup_cons.mp hNames
    have hNext : ∀ t ∈ rest, t.name ∉ s.name :: seen := by
      intro t ht hMem
      rcases List.mem_cons.mp hMem with hSame | hMem
      · exact hOwn (hSame ▸ List.mem_map_of_mem ht)
      · exact hSeen t ht hMem
    simp [repairServers, hId, hName, ih hIds hNext hNames]

/-! ## The fields of a configuration -/

/-- The fields of a configuration, in their order. -/
inductive Field
  | idle | active | window
  | delays
  | baseUrl | timeout | statusPath | startPath | stopPath | sessionCookie
  | logLevel | metricsEnabled | metricsAddress
  | servers
  | adminEnabled | bindAddress | apiKey
  deriving Repr, DecidableEq

namespace Field

/-- Two configurations have the same in a field. Capitals in the log level do not count. -/
def Same (c d : Config) : Field → Prop
  | idle => c.polling.idle = d.polling.idle
  | active => c.polling.active = d.polling.active
  | window => c.polling.window = d.polling.window
  | delays => c.delays = d.delays
  | baseUrl => c.transport.baseUrl = d.transport.baseUrl
  | timeout => c.transport.timeoutSecs = d.transport.timeoutSecs
  | statusPath => c.transport.statusPath = d.transport.statusPath
  | startPath => c.transport.startPath = d.transport.startPath
  | stopPath => c.transport.stopPath = d.transport.stopPath
  | sessionCookie => c.transport.sessionCookie = d.transport.sessionCookie
  | logLevel => lowered c.observability.logLevel = lowered d.observability.logLevel
  | metricsEnabled => c.observability.metricsEnabled = d.observability.metricsEnabled
  | metricsAddress => c.observability.metricsAddress = d.observability.metricsAddress
  | servers => c.servers = d.servers
  | adminEnabled => c.admin.enabled = d.admin.enabled
  | bindAddress => c.admin.bindAddress = d.admin.bindAddress
  | apiKey => c.admin.apiKey = d.admin.apiKey

instance (c d : Config) : DecidablePred (Same c d) := by
  intro f
  cases f <;> exact inferInstanceAs (Decidable (_ = _))

/-- What a field goes by in a correction. -/
def names : Field → List String
  | idle => ["polling.idle_interval_ms"]
  | active => ["polling.active_interval_ms"]
  | window => ["polling.active_duration_ms"]
  | delays => ["backoff.delays_ms"]
  | baseUrl => ["transport.base_url"]
  | timeout => ["transport.timeout_secs"]
  | statusPath => ["transport.status_path"]
  | startPath => ["transport.start_path"]
  | stopPath => ["transport.stop_path"]
  | sessionCookie => ["transport.session_cookie"]
  | logLevel => ["observability.log_level"]
  | metricsEnabled => ["observability.metrics_enabled"]
  | metricsAddress => ["observability.metrics_address"]
  | servers => ["servers.id", "servers.name"]
  | adminEnabled => ["admin.enabled"]
  | bindAddress => ["admin.bind_address"]
  | apiKey => ["admin.api_key"]

end Field

/-- A configuration with the log level in small letters. -/
def inSmall (c : Config) : Config :=
  { c with observability := { c.observability with logLevel := lowered c.observability.logLevel } }

/-- The fields are all there is to a configuration. -/
theorem forall_same_iff {c d : Config} : (∀ f, Field.Same c d f) ↔ c.inSmall = d.inSmall := by
  obtain ⟨⟨_, _, _⟩, _, ⟨_, _, _, _, _, _⟩, _, ⟨_, _, _⟩, ⟨_, _, _⟩⟩ := c
  obtain ⟨⟨_, _, _⟩, _, ⟨_, _, _, _, _, _⟩, _, ⟨_, _, _⟩, ⟨_, _, _⟩⟩ := d
  simp only [inSmall, Config.mk.injEq, PollingSettings.mk.injEq, TransportSettings.mk.injEq,
    ObservabilitySettings.mk.injEq, AdminSettings.mk.injEq]
  constructor
  · intro h
    exact ⟨⟨h .idle, h .active, h .window⟩, h .delays,
      ⟨h .baseUrl, h .timeout, h .statusPath, h .startPath, h .stopPath, h .sessionCookie⟩,
      h .servers, ⟨h .logLevel, h .metricsEnabled, h .metricsAddress⟩,
      ⟨h .adminEnabled, h .bindAddress, h .apiKey⟩⟩
  · rintro ⟨⟨_, _, _⟩, _, ⟨_, _, _, _, _, _⟩, _, ⟨_, _, _⟩, ⟨_, _, _⟩⟩ f
    cases f <;> assumption

/-- The fields that are replaced if they cannot be used, each with its correction. -/
def replaceable (c : Config) : List (Field × Correction) :=
  [(.idle, .zeroIdle), (.active, .zeroActive), (.window, .zeroWindow),
    (.delays, .unusableDelays c.delays), (.timeout, .zeroTimeout),
    (.logLevel, .unknownLevel c.observability.logLevel)]

/-- A correction for each field that `d` has another value in than `c`. -/
def replaced (c d : Config) : List Correction :=
  (replaceable c).flatMap fun r => if r.1.Same c d then [] else [r.2]

theorem field_replaceable {c : Config} {r : Field × Correction} (hr : r ∈ replaceable c) :
    r.2.field ∈ r.1.names := by
  simp only [replaceable, List.mem_cons, List.not_mem_nil, or_false] at hr
  rcases hr with rfl | rfl | rfl | rfl | rfl | rfl <;> exact List.mem_cons_self

/-- Nothing else is replaced by a repair, the servers apart. -/
theorem same_repair {c : Config} {f : Field} (hServers : f ≠ .servers)
    (hOther : ∀ r ∈ replaceable c, r.1 ≠ f) : f.Same c c.repair.1 := by
  cases f with
  | idle | active | window | delays | timeout | logLevel => simp [replaceable] at hOther
  | servers => exact absurd rfl hServers
  | baseUrl | statusPath | startPath | stopPath | sessionCookie => rfl
  | metricsEnabled | metricsAddress => rfl
  | adminEnabled | bindAddress | apiKey => rfl

/-! ## The whole repair -/

/-- A configuration in which everything that has a default is in range. -/
structure Fit (c : Config) : Prop where
  idle : 0 < c.polling.idle
  active : 0 < c.polling.active
  window : 0 < c.polling.window
  delays : Backoff.Usable c.delays
  timeout : 0 < c.transport.timeoutSecs
  logLevel : IsLevel c.observability.logLevel
  ids : ∀ s ∈ c.servers, Text.isBlankText s.id = false
  names : (c.servers.map Server.name).Nodup

theorem fit_repair (c : Config) : Fit c.repair.1 where
  idle := positive_pos (by decide)
  active := positive_pos (by decide)
  window := positive_pos (by decide)
  delays := usable_repairDelays c.delays
  timeout := positive_pos (by decide)
  logLevel := isLevel_repairLevel c.observability.logLevel
  ids := id_repairServers [] c.servers
  names := (name_repairServers [] c.servers).2

/-- There is nothing to repair in a configuration that is fit. -/
theorem repair_of_fit {c : Config} (h : Fit c) : c.repair = (c, []) := by
  have hServers : repairServers [] c.servers = (c.servers, []) :=
    repairServers_of_nodup h.ids (fun _ _ => List.not_mem_nil) h.names
  simp [repair, positive_of_pos h.idle, positive_of_pos h.active, positive_of_pos h.window,
    repairDelays_of_usable h.delays, positive_of_pos h.timeout, repairLevel_of_isLevel h.logLevel,
    hServers]

theorem sifted_repair (c : Config) :
    Sifted [] c.servers c.repair.1.servers (repairServers [] c.servers).2 :=
  sifted_repairServers c.servers (by simp [Server.Namesake])

/-- Fields that are replaced come first, then servers that are dropped. -/
theorem report_repair (c : Config) :
    c.repair.2 = replaced c c.repair.1 ++ (repairServers [] c.servers).2 := by
  have hReplaced : replaced c c.repair.1
      = (positive c.polling.idle ({} : PollingSettings).idle .zeroIdle).2
        ++ (positive c.polling.active ({} : PollingSettings).active .zeroActive).2
        ++ (positive c.polling.window ({} : PollingSettings).window .zeroWindow).2
        ++ (repairDelays c.delays).2
        ++ (positive c.transport.timeoutSecs ({} : TransportSettings).timeoutSecs .zeroTimeout).2
        ++ (repairLevel c.observability.logLevel).2 := by
    rw [positive_report (by decide), positive_report (by decide), positive_report (by decide),
      repairDelays_report, positive_report (by decide), repairLevel_report]
    simp only [replaced, replaceable, List.flatMap_cons, List.flatMap_nil, List.append_nil,
      List.append_assoc]
    rfl
  rw [hReplaced]
  rfl

/-- A field that no correction names has the value it had. -/
theorem same_of_unnamed {c : Config} {f : Field}
    (hUnnamed : ∀ k ∈ c.repair.2, k.field ∉ f.names) : f.Same c c.repair.1 := by
  rw [report_repair] at hUnnamed
  by_cases hServers : f = .servers
  · subst hServers
    have hNone : (repairServers [] c.servers).2 = [] := by
      rw [List.eq_nil_iff_forall_not_mem]
      intro k hk
      have hNamed : k.field ∈ Field.servers.names := by
        simpa [Field.names] using (sifted_repair c).drops_field k hk
      exact hUnnamed k (List.mem_append_right _ hk) hNamed
    exact ((sifted_repair c).drops_eq_nil.mp hNone).symm
  · by_cases hOther : ∀ r ∈ replaceable c, r.1 ≠ f
    · exact same_repair hServers hOther
    · push Not at hOther
      obtain ⟨r, hr, rfl⟩ := hOther
      by_contra hChanged
      have hMem : r.2 ∈ replaced c c.repair.1 :=
        List.mem_flatMap.mpr ⟨r, hr, by simp [hChanged]⟩
      exact hUnnamed r.2 (List.mem_append_left _ hMem) (field_replaceable hr)

theorem report_eq_nil_iff (c : Config) : c.repair.2 = [] ↔ c.inSmall = c.repair.1.inSmall := by
  rw [← forall_same_iff]
  constructor
  · intro hNone f
    exact same_of_unnamed (by simp [hNone])
  · intro hSame
    have hReplaced : replaced c c.repair.1 = [] :=
      List.flatMap_eq_nil_iff.mpr fun r _ => if_pos (hSame r.1)
    have hDrops : (repairServers [] c.servers).2 = [] :=
      (sifted_repair c).drops_eq_nil.mpr (hSame .servers).symm
    rw [report_repair, hReplaced, hDrops, List.append_nil]

theorem problems_repair (c : Config) : c.repair.1.problems = c.problems := rfl

/-- What is read from a text is the repair of what the text says. -/
theorem exists_of_parse {text : String} {d : Config} {corrections : List Correction}
    (hParse : parse text = .ok (d, corrections)) :
    ∃ c : Config, c.repair = (d, corrections) ∧ d.problems = [] := by
  unfold parse at hParse
  split at hParse
  case h_1 => cases hParse
  case h_2 c _ =>
    cases hRepair : c.repair with
    | mk repaired reported =>
      rw [hRepair] at hParse
      cases hProblems : repaired.problems with
      | nil =>
        simp only [hProblems, Except.ok.injEq, Prod.mk.injEq] at hParse
        obtain ⟨rfl, rfl⟩ := hParse
        exact ⟨c, hRepair, hProblems⟩
      | cons => simp [hProblems] at hParse

/-- What makes `d`, with the corrections, a complete and honest repair of `c`. -/
structure Mended (c d : Config) (corrections : List Correction) : Prop where
  fit : Fit d
  /-- There is nothing left to repair. -/
  settled : d.repair = (d, [])
  /-- One correction for each field that was replaced, in their order, then one for each
  server that was dropped, in theirs. -/
  reported : ∃ drops, Sifted [] c.servers d.servers drops ∧ corrections = replaced c d ++ drops
  /-- What is not named is as it was. -/
  unnamed : ∀ f : Field, (∀ k ∈ corrections, k.field ∉ f.names) → f.Same c d
  /-- Without corrections only capitals in the log level were changed, and conversely. -/
  silent : corrections = [] ↔ c.inSmall = d.inSmall
  /-- The problems are the same, in the same order. -/
  problems : d.problems = c.problems

/-- **A repair is complete, settled at once and honestly reported, and it touches nothing
that is checked. So what is read from a text is free of problems, and repairing it again
changes nothing.** -/
theorem repair_mends :
    (∀ c : Config, Mended c c.repair.1 c.repair.2)
      ∧ ∀ (text : String) (c : Config) (corrections : List Correction),
        parse text = .ok (c, corrections) → Fit c ∧ c.problems = [] ∧ c.repair = (c, []) := by
  constructor
  · intro c
    exact {
      fit := fit_repair c
      settled := repair_of_fit (fit_repair c)
      reported := ⟨_, sifted_repair c, report_repair c⟩
      unnamed := fun _ => same_of_unnamed
      silent := report_eq_nil_iff c
      problems := problems_repair c }
  · intro text d corrections hParse
    obtain ⟨c, hRepair, hProblems⟩ := exists_of_parse hParse
    have hFit : Fit d := by simpa [hRepair] using fit_repair c
    exact ⟨hFit, hProblems, repair_of_fit hFit⟩

theorem repair_mends_zero_idle :
    parse "[polling]\nidle_interval_ms = 0\n" = .ok ({}, [.zeroIdle])
      ∧ Fit {} ∧ ({} : Config).problems = [] ∧ ({} : Config).repair = ({}, []) := by
  have hParse : parse "[polling]\nidle_interval_ms = 0\n" = .ok ({}, [.zeroIdle]) := by
    decide +kernel
  exact ⟨hParse, repair_mends.2 "[polling]\nidle_interval_ms = 0\n" {} [.zeroIdle] hParse⟩

end Lookout.Config
