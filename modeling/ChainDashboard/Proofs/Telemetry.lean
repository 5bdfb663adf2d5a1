import ChainDashboard.Telemetry.Setup

/-!
# Telemetry set up again and again

A process may set up telemetry many times, and a call can fail between its two parts. What a call
gives depends on the calls before it only through two facts: whether one of them had a valid filter,
and whether one of them succeeded (`setUp_follows_history`). The filter is installed with the first
fact and the recorder with the second (`logs_afterAll`, `metrics_afterAll`).
-/

namespace ChainDashboard

/-- The filter of the configuration can be installed. -/
def TelemetryConfig.FilterValid (config : TelemetryConfig) : Prop :=
  LogFilter.check config.logFilter = .ok ()

/-- The address of the configuration is given and is no socket address. -/
def TelemetryConfig.AddressInvalid (config : TelemetryConfig) (address : String) : Prop :=
  config.metricsAddress = some address ∧ SocketAddress.isValid address = false

namespace Telemetry

variable {t : Telemetry} {config : TelemetryConfig}

theorem eq_of_parts {logs metrics : Bool} (l : t.logs = logs) (m : t.metrics = metrics) :
    t = ⟨logs, metrics⟩ := by
  cases t
  cases l
  cases m
  rfl

/-! ## One call -/

/-- What a call gives and what is installed after it. -/
inductive SetsUp (t : Telemetry) (config : TelemetryConfig) :
    Except TelemetryError Unit → Telemetry → Prop where
  | filterInvalid {problem : LogFilter.Problem} (missing : t.logs = false)
    (invalid : LogFilter.check config.logFilter = .error problem) :
    SetsUp t config (.error (.invalidLogFilter problem)) t
  | addressInvalid {address : String} (filter : t.logs = true ∨ config.FilterValid)
    (missing : t.metrics = false) (invalid : config.AddressInvalid address) :
    SetsUp t config (.error (.invalidMetricsAddress address)) { t with logs := true }
  | done (filter : t.logs = true ∨ config.FilterValid)
    (address : t.metrics = true ∨ ∀ address, ¬config.AddressInvalid address) :
    SetsUp t config (.ok ()) ⟨true, true⟩

theorem installLogs_eq (filter : t.logs = true ∨ config.FilterValid) :
    t.installLogs config = .ok { t with logs := true } := by
  obtain ⟨logs, metrics⟩ := t
  cases logs with
  | true => rfl
  | false =>
    have valid : LogFilter.check config.logFilter = .ok () := filter.resolve_left (by simp)
    simp [installLogs, valid]

theorem installMetrics_eq (config : TelemetryConfig) (logs : Bool) (metrics : Bool) :
    (∃ address, metrics = false ∧ config.AddressInvalid address ∧
        installMetrics config ⟨logs, metrics⟩ = .error (.invalidMetricsAddress address)) ∨
      (metrics = true ∨ ∀ address, ¬config.AddressInvalid address) ∧
        installMetrics config ⟨logs, metrics⟩ = .ok ⟨logs, true⟩ := by
  cases metrics with
  | true => exact .inr ⟨.inl rfl, rfl⟩
  | false =>
    cases given : config.metricsAddress.filter fun a => !SocketAddress.isValid a with
    | some address =>
      obtain ⟨given', invalid⟩ := Option.filter_eq_some_iff.mp given
      refine .inl ⟨address, rfl, ⟨given', by simpa using invalid⟩, ?_⟩
      simp [installMetrics, given]
    | none =>
      refine .inr ⟨.inr fun address invalid => ?_, by simp [installMetrics, given]⟩
      have valid := Option.filter_eq_none_iff.mp given address invalid.1
      simp [invalid.2] at valid

theorem setsUp_setUp (t : Telemetry) (config : TelemetryConfig) :
    SetsUp t config (t.setUp config).1 (t.setUp config).2 := by
  by_cases filter : t.logs = true ∨ config.FilterValid
  · rw [setUp, installLogs_eq filter]
    rcases installMetrics_eq config true t.metrics with
      ⟨address, missing, invalid, failed⟩ | ⟨address, installed⟩
    · simp only [failed]
      exact .addressInvalid filter missing invalid
    · simp only [installed]
      exact .done filter address
  · obtain ⟨missing, invalid⟩ := not_or.mp filter
    cases checked : LogFilter.check config.logFilter with
    | ok => exact absurd checked invalid
    | error problem =>
      simp only [setUp, installLogs, if_neg missing, checked]
      exact .filterInvalid (by simpa using missing) checked

section Call

variable {result : Except TelemetryError Unit} {after : Telemetry}

theorem SetsUp.logs (call : SetsUp t config result after) :
    after.logs = true ↔ t.logs = true ∨ config.FilterValid := by
  cases call with
  | filterInvalid missing invalid => simp [missing, invalid, TelemetryConfig.FilterValid]
  | addressInvalid filter missing invalid => simp [filter]
  | done filter address => simp [filter]

theorem SetsUp.metrics (call : SetsUp t config result after) :
    after.metrics = true ↔ t.metrics = true ∨ result = .ok () := by
  cases call <;> simp

/-- The recorder is installed behind the filter. -/
theorem SetsUp.logs_of_metrics (call : SetsUp t config result after)
    (before : t.metrics = true → t.logs = true) : after.metrics = true → after.logs = true := by
  cases call with
  | filterInvalid missing invalid => exact before
  | addressInvalid filter missing invalid => exact fun _ => rfl
  | done filter address => exact fun _ => rfl

theorem SetsUp.ok_iff (call : SetsUp t config result after) :
    result = .ok () ↔ (t.logs = true ∨ config.FilterValid) ∧
      ((∀ address, ¬config.AddressInvalid address) ∨ t.metrics = true) := by
  cases call with
  | filterInvalid missing invalid => simp [missing, invalid, TelemetryConfig.FilterValid]
  | @addressInvalid address filter missing invalid =>
    simp only [reduceCtorEq, missing, Bool.false_eq_true, or_false, false_iff, not_and]
    exact fun _ none => none address invalid
  | done filter address => exact iff_of_true rfl ⟨filter, address.symm⟩

theorem SetsUp.after_eq_of_filterInvalid (call : SetsUp t config result after)
    {problem : LogFilter.Problem} (refused : result = .error (.invalidLogFilter problem)) :
    after = t := by
  cases call with
  | filterInvalid missing invalid => rfl
  | addressInvalid filter missing invalid => cases refused
  | done filter address => cases refused

theorem SetsUp.filterInvalid_iff (call : SetsUp t config result after)
    (problem : LogFilter.Problem) : result = .error (.invalidLogFilter problem) ↔
      LogFilter.check config.logFilter = .error problem ∧ t.logs = false := by
  cases call with
  | filterInvalid missing invalid => simp [missing, invalid]
  | addressInvalid filter missing invalid =>
    rcases filter with installed | valid
    · simp [installed]
    · simp [show LogFilter.check config.logFilter = .ok () from valid]
  | done filter address =>
    rcases filter with installed | valid
    · simp [installed]
    · simp [show LogFilter.check config.logFilter = .ok () from valid]

theorem SetsUp.addressInvalid_iff (call : SetsUp t config result after) (address : String) :
    result = .error (.invalidMetricsAddress address) ↔
      (t.logs = true ∨ config.FilterValid) ∧ t.metrics = false ∧
        config.AddressInvalid address := by
  cases call with
  | filterInvalid missing invalid => simp [missing, invalid, TelemetryConfig.FilterValid]
  | @addressInvalid given filter missing invalid =>
    simp only [Except.error.injEq, TelemetryError.invalidMetricsAddress.injEq, filter, missing,
      true_and]
    refine ⟨fun same => same ▸ invalid, fun other => ?_⟩
    exact Option.some.inj (invalid.1.symm.trans other.1)
  | done filter valid =>
    simp only [reduceCtorEq, false_iff, not_and]
    intro _ missing
    exact valid.resolve_left (by simp [missing]) address

end Call

/-! ## Many calls -/

/-- What is installed after a call for each of some configurations. -/
def afterAll (t : Telemetry) (configs : List TelemetryConfig) : Telemetry :=
  configs.foldl (fun t config => (t.setUp config).2) t

theorem afterAll_append (t : Telemetry) (configs configs' : List TelemetryConfig) :
    t.afterAll (configs ++ configs') = (t.afterAll configs).afterAll configs' :=
  List.foldl_append

theorem setUpAll_cons (t : Telemetry) (config : TelemetryConfig) (rest : List TelemetryConfig) :
    t.setUpAll (config :: rest) = (t.setUp config).1 :: (t.setUp config).2.setUpAll rest :=
  rfl

theorem length_setUpAll (t : Telemetry) (configs : List TelemetryConfig) :
    (t.setUpAll configs).length = configs.length := by
  induction configs generalizing t with
  | nil => rfl
  | cons config rest ih => rw [setUpAll_cons, List.length_cons, ih, List.length_cons]

theorem setUpAll_append (t : Telemetry) (configs configs' : List TelemetryConfig) :
    t.setUpAll (configs ++ configs') =
      t.setUpAll configs ++ (t.afterAll configs).setUpAll configs' := by
  induction configs generalizing t with
  | nil => rfl
  | cons config rest ih =>
    rw [List.cons_append, setUpAll_cons, setUpAll_cons, ih]
    rfl

theorem logs_afterAll (t : Telemetry) (configs : List TelemetryConfig) :
    (t.afterAll configs).logs = true ↔
      t.logs = true ∨ ∃ config ∈ configs, config.FilterValid := by
  induction configs generalizing t with
  | nil => simp [afterAll]
  | cons config rest ih =>
    refine (ih (t.setUp config).2).trans ?_
    simp [(setsUp_setUp t config).logs, or_assoc]

theorem metrics_afterAll (t : Telemetry) (configs : List TelemetryConfig) :
    (t.afterAll configs).metrics = true ↔ t.metrics = true ∨ .ok () ∈ t.setUpAll configs := by
  induction configs generalizing t with
  | nil => simp [afterAll, setUpAll]
  | cons config rest ih =>
    refine (ih (t.setUp config).2).trans ?_
    rw [(setsUp_setUp t config).metrics, setUpAll_cons, List.mem_cons, or_assoc,
      eq_comm (b := (t.setUp config).1)]

theorem logs_of_metrics (configs : List TelemetryConfig) :
    (fresh.afterAll configs).metrics = true → (fresh.afterAll configs).logs = true := by
  have kept : ∀ t : Telemetry, (t.metrics = true → t.logs = true) →
      (t.afterAll configs).metrics = true → (t.afterAll configs).logs = true := by
    induction configs with
    | nil => exact fun _ before => before
    | cons config rest ih =>
      exact fun t before => ih (t.setUp config).2 ((setsUp_setUp t config).logs_of_metrics before)
  exact kept fresh fun installed => nomatch installed

/-- A filter that is installed stays, so that no call is refused for its own. -/
theorem not_filterInvalid_of_logs {configs : List TelemetryConfig} (installed : t.logs = true) :
    ∀ result ∈ t.setUpAll configs, ∀ problem, result ≠ .error (.invalidLogFilter problem) := by
  induction configs generalizing t with
  | nil => simp [setUpAll]
  | cons config rest ih =>
    have call := setsUp_setUp t config
    refine List.forall_mem_cons.mpr ⟨fun problem refused => ?_, ?_⟩
    · simp [((call.filterInvalid_iff problem).mp refused).2] at installed
    · exact ih (call.logs.mpr (.inl installed))

/-- Once both parts are installed, every call succeeds. -/
theorem setUpAll_installed (configs : List TelemetryConfig) :
    ∀ result ∈ setUpAll ⟨true, true⟩ configs, result = .ok () := by
  induction configs with
  | nil => simp [setUpAll]
  | cons config rest ih => exact List.forall_mem_cons.mpr ⟨rfl, ih⟩

/-! ## The result of a call by what was called before -/

/-- The filter of a call is refused: it is invalid, and so were those of all calls before. -/
def FilterRefused (earlier : List TelemetryConfig) (config : TelemetryConfig)
    (problem : LogFilter.Problem) : Prop :=
  LogFilter.check config.logFilter = .error problem ∧ ∀ before ∈ earlier, ¬before.FilterValid

/-- The result of a call, given the calls before it with their results, and the calls after it with
theirs. -/
structure FollowsHistory (earlier : List TelemetryConfig)
    (earlierResults : List (Except TelemetryError Unit)) (config : TelemetryConfig)
    (result : Except TelemetryError Unit) (later : List TelemetryConfig)
    (laterResults : List (Except TelemetryError Unit)) : Prop where
  filter_refused : ∀ problem, result = .error (.invalidLogFilter problem) ↔
    FilterRefused earlier config problem
  address_refused : ∀ address, result = .error (.invalidMetricsAddress address) ↔
    (¬∃ problem, FilterRefused earlier config problem) ∧ config.AddressInvalid address ∧
      .ok () ∉ earlierResults
  succeeds : result = .ok () ↔ (¬∃ problem, FilterRefused earlier config problem) ∧
    ((∀ address, ¬config.AddressInvalid address) ∨ .ok () ∈ earlierResults)
  /-- A call that is refused for its filter leaves nothing installed. -/
  installs_nothing : (∃ problem, result = .error (.invalidLogFilter problem)) →
    fresh.afterAll (earlier ++ [config]) = fresh
  /-- A call that is refused for its address leaves a filter installed, whatever is called after
  it. -/
  keeps_filter : (∃ address, result = .error (.invalidMetricsAddress address)) →
    (∀ calls, calls <+: later → (fresh.afterAll (earlier ++ config :: calls)).logs = true) ∧
      ∀ r ∈ laterResults, ∀ problem, r ≠ .error (.invalidLogFilter problem)
  /-- After a call that succeeds every call succeeds. -/
  stays_set_up : result = .ok () → ∀ r ∈ laterResults, r = .ok ()

theorem filterRefused_iff (earlier : List TelemetryConfig) (config : TelemetryConfig) :
    (∃ problem, FilterRefused earlier config problem) ↔
      ¬((fresh.afterAll earlier).logs = true ∨ config.FilterValid) := by
  rw [logs_afterAll]
  cases checked : LogFilter.check config.logFilter <;>
    simp [FilterRefused, TelemetryConfig.FilterValid, fresh, checked]

/-- **Every call follows from the calls before it**: in a fresh process the results of any calls are
those of the calls before one of them, its own and those of the calls after it. -/
theorem setUp_follows_history (earlier : List TelemetryConfig) (config : TelemetryConfig)
    (later : List TelemetryConfig) :
    ∃ result laterResults, laterResults.length = later.length ∧
      fresh.setUpAll (earlier ++ config :: later) =
        fresh.setUpAll earlier ++ result :: laterResults ∧
      FollowsHistory earlier (fresh.setUpAll earlier) config result later laterResults := by
  let t := fresh.afterAll earlier
  have call := setsUp_setUp t config
  have filter_refused := filterRefused_iff earlier config
  have succeeded : t.metrics = true ↔ .ok () ∈ fresh.setUpAll earlier := by
    rw [metrics_afterAll]
    simp [fresh]
  refine ⟨(t.setUp config).1, (t.setUp config).2.setUpAll later, length_setUpAll _ _,
    setUpAll_append fresh earlier (config :: later), ?_⟩
  constructor
  case filter_refused =>
    intro problem
    rw [call.filterInvalid_iff, FilterRefused, ← Bool.not_eq_true, logs_afterAll]
    simp [fresh]
  case address_refused =>
    intro address
    rw [call.addressInvalid_iff, filter_refused, Classical.not_not, ← succeeded, Bool.not_eq_true,
      and_comm (a := t.metrics = false)]
  case succeeds =>
    rw [call.ok_iff, filter_refused, Classical.not_not, succeeded]
  case installs_nothing =>
    rintro ⟨problem, refused⟩
    have missing : t.logs = false := ((call.filterInvalid_iff problem).mp refused).2
    have unrecorded : t.metrics = false := by
      simpa [missing, t] using logs_of_metrics earlier
    rw [afterAll_append]
    refine (call.after_eq_of_filterInvalid refused).trans ?_
    exact eq_of_parts missing unrecorded
  case keeps_filter =>
    rintro ⟨address, refused⟩
    have installed : (t.setUp config).2.logs = true :=
      call.logs.mpr ((call.addressInvalid_iff address).mp refused).1
    refine ⟨fun calls _ => ?_, not_filterInvalid_of_logs installed⟩
    rw [afterAll_append]
    exact (logs_afterAll _ calls).mpr (.inl installed)
  case stays_set_up =>
    intro succeeds
    have both : (t.setUp config).2 = ⟨true, true⟩ :=
      eq_of_parts (call.logs.mpr (call.ok_iff.mp succeeds).1)
        (call.metrics.mpr (.inr succeeds))
    rw [both]
    exact setUpAll_installed later

/-- The second call leaves its filter behind, so the third one is not asked for a valid one. -/
example : (fresh.setUpAll [⟨"[", none⟩, ⟨"info", some "here"⟩, ⟨"[", some "127.0.0.1:9"⟩,
    ⟨"info", some "here"⟩]).map Except.isOk = [false, false, true, true] := by
  decide +kernel

end Telemetry

end ChainDashboard
