import ChainDashboard.Environment.EnvFile
import ChainDashboard.Telemetry.LogFilter
import ChainDashboard.Telemetry.SocketAddress

/-!
Setting up logs and metrics, once in a process. The two parts are set up one after the other and
each stays set up: a later call skips the checks of a part that an earlier call installed, even if
that earlier call failed after it.
-/
namespace ChainDashboard

/-- The settings of logs and metrics. -/
structure TelemetryConfig where
  logFilter : String
  metricsAddress : Option String
  deriving DecidableEq, Repr

namespace TelemetryConfig

/-- The variables of a program start with its name in ASCII capitals. -/
def variableName (program setting : String) : String :=
  String.ofList ((Text.trim program).toList.map Char.toUpper) ++ "_" ++ setting

/-- Reads the settings of a program from variables. -/
def ofEnvironment (program : String) (env : Environment) : TelemetryConfig where
  logFilter := (env.text? (variableName program "LOG_FILTER")).getD "info"
  metricsAddress :=
    (env.text? (variableName program "METRICS_ADDRESS")).filter fun a => (Text.nonBlank? a).isSome

/-- Loads the `.env` file, whatever comes of it, and reads the settings. -/
def load (program : String) (file : FileState) (env : Environment) :
    TelemetryConfig × Environment :=
  let env := (EnvFile.hydrate file env).2
  (ofEnvironment program env, env)

end TelemetryConfig

/-- Why telemetry cannot be set up. -/
inductive TelemetryError where
  | invalidLogFilter (problem : LogFilter.Problem)
  | invalidMetricsAddress (address : String)
  deriving DecidableEq, Repr

/-- The report of the error. -/
def TelemetryError.message : TelemetryError → String
  | .invalidLogFilter problem => "invalid log filter: " ++ problem.message
  | .invalidMetricsAddress address =>
    "invalid metrics address `" ++ address ++ "`: invalid socket address syntax"

/-- Which parts are installed. -/
structure Telemetry where
  logs : Bool
  metrics : Bool
  deriving DecidableEq, Repr

namespace Telemetry

/-- The state of a fresh process. -/
def fresh : Telemetry := ⟨false, false⟩

/-- Installs the log filter unless one is installed. -/
def installLogs (config : TelemetryConfig) (t : Telemetry) : Except TelemetryError Telemetry :=
  if t.logs then .ok t
  else
    match LogFilter.check config.logFilter with
    | .ok () => .ok { t with logs := true }
    | .error problem => .error (.invalidLogFilter problem)

/-- Installs the recorder of metrics unless one is installed. -/
def installMetrics (config : TelemetryConfig) (t : Telemetry) :
    Except TelemetryError Telemetry :=
  if t.metrics then .ok t
  else
    match config.metricsAddress.filter fun a => !SocketAddress.isValid a with
    | some address => .error (.invalidMetricsAddress address)
    | none => .ok { t with metrics := true }

/-- Sets up both parts. A failure of the second leaves the first installed. -/
def setUp (config : TelemetryConfig) (t : Telemetry) : Except TelemetryError Unit × Telemetry :=
  match t.installLogs config with
  | .error e => (.error e, t)
  | .ok t =>
    match t.installMetrics config with
    | .error e => (.error e, t)
    | .ok t => (.ok (), t)

/-- Sets up telemetry once for each configuration, in order. -/
def setUpAll (t : Telemetry) : List TelemetryConfig → List (Except TelemetryError Unit)
  | [] => []
  | config :: rest =>
    let (result, t) := t.setUp config
    result :: setUpAll t rest

end Telemetry

end ChainDashboard
