import ChainDashboard.Environment.EnvFile
import ChainDashboard.Topology.Reload

/-!
The configuration that the process takes from its environment: where it listens and where its
documents are.
-/
namespace ChainDashboard

/-- Why there is no valid configuration. -/
inductive ConfigError where
  | missingVariable (name : String)
  | envFile (problem : EnvFile.Problem)
  /-- There are no credentials, neither in the document at `path` nor in memory. -/
  | credentialsMissing (path : String)
  deriving DecidableEq, Repr

/-- The report of the error. -/
def ConfigError.message : ConfigError → String
  | .missingVariable name => "missing required environment variable `" ++ name ++ "`"
  | .envFile problem => "failed to load .env file: " ++ problem.message
  | .credentialsMissing path => CredentialsMissing.message path ⟨⟩

/-- Listeners and the directory of the documents. -/
structure ApiConfig where
  bindAddress : String
  unixSocket : Option String
  internalBindAddress : Option String
  internalUnixSocket : Option String
  configDirectory : String
  deriving DecidableEq, Repr

namespace ApiConfig

/-- Whether a listener of its own serves the metrics. -/
def hasInternalListener (c : ApiConfig) : Bool :=
  c.internalBindAddress.isSome || c.internalUnixSocket.isSome

/-- Reads the configuration from variables. -/
def ofEnvironment (env : Environment) : Except ConfigError ApiConfig :=
  match env.nonBlank? "API_BIND_ADDRESS" with
  | none => .error (.missingVariable "API_BIND_ADDRESS")
  | some bindAddress => .ok {
      bindAddress
      unixSocket := env.nonBlank? "API_UNIX_SOCKET"
      internalBindAddress := env.nonBlank? "API_INTERNAL_BIND_ADDRESS"
      internalUnixSocket := env.nonBlank? "API_INTERNAL_UNIX_SOCKET"
      configDirectory := (env.nonBlank? "PANIC_CONFIG_DIR").getD "config" }

/-- Loads the `.env` file and reads the configuration. -/
def load (file : FileState) (env : Environment) :
    Except ConfigError ApiConfig × Environment :=
  match EnvFile.hydrate file env with
  | (.error problem, env) => (.error (.envFile problem), env)
  | (.ok (), env) => (ofEnvironment env, env)

end ApiConfig

end ChainDashboard
