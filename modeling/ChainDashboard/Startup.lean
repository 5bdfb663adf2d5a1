import ChainDashboard.Environment.Config
import ChainDashboard.Http.Server
import ChainDashboard.Telemetry.Setup
import ChainDashboard.Watch.Task

/-!
The start of the process. Each stage needs what the stages before it gave, and the first that fails
ends the start: configuration, telemetry, watches, first load, listeners. Watches come before the
first load, so that a change during the load is not missed, and no listener is bound without
credentials.
-/
namespace ChainDashboard

/-- Why a listener cannot be bound. -/
inductive BindError where
  | os (error : OsError)
  /-- The path of a socket does not fit into the address of one. -/
  | pathTooLong
  | invalidAddress
  | invalidPort
  /-- No address belongs to the name of a host. -/
  | unknownHost
  deriving DecidableEq, Repr

/-- The report of the error. -/
def BindError.message : BindError → String
  | .os error => error.message
  | .pathTooLong => "path must be shorter than SUN_LEN"
  | .invalidAddress => "invalid socket address"
  | .invalidPort => "invalid port value"
  | .unknownHost => "failed to lookup address information: Temporary failure in name resolution"

/-- Why the process ended. -/
inductive StartError where
  | config (error : ConfigError)
  | telemetry (error : TelemetryError)
  | watch (error : WatchError)
  | bind (error : BindError)
  deriving DecidableEq, Repr

/-- The report of the error. -/
def StartError.message : StartError → String
  | .config error => "config error: " ++ error.message
  | .telemetry error => "telemetry error: " ++ error.message
  | .watch error => "config watch error: " ++ error.message
  | .bind error => error.message

/-- The message of the panic that the process ends in instead of returning the error, if so. -/
def StartError.panic? : StartError → Option String
  | .config (.envFile (.unsettable key value)) =>
    some (EnvFile.Problem.unsettable key value).message
  | _ => none

/-- The lines in which a process reports the error it ended with. Of a panic only the message is
given, and not where it was. -/
def StartError.report (e : StartError) : List String :=
  match e.panic? with
  | some message => [message]
  | none =>
    ["[dashboard] bootstrap failed: " ++ e.message,
      "Error: Custom \x7b kind: Other, error: " ++ Text.quoted e.message ++ " \x7d"]

/-- The code with which the process exits. -/
def StartError.exitCode (e : StartError) : UInt32 := if e.panic?.isSome then 101 else 1

/-- Where a listener takes requests. -/
inductive Endpoint where
  /-- A socket at a place on disk. -/
  | socket (place : List String)
  | address (host : String) (port : UInt16)
  deriving DecidableEq, Repr

/-- Whether two endpoints cannot be bound at once. A host of zeros stands for every host, and port
zero for one that is free. -/
def Endpoint.excludes : Endpoint → Endpoint → Bool
  | .address host port, .address host' port' =>
    port = port' && port ≠ 0 && (host = host' || host = "0.0.0.0" || host' = "0.0.0.0")
  | _, _ => false

/-- A bound listener and what it serves. -/
structure Listener where
  endpoint : Endpoint
  offer : Http.Offer
  deriving DecidableEq, Repr

namespace Listener

/-- Binds a socket. What is left over at its path is removed first, unless it is a directory. -/
def bindSocket (disk : Disk) (path : String) : Except BindError (Endpoint × Disk) := do
  let disk ←
    match disk.removeFile path with
    | .ok disk => pure disk
    | .error .notFound => pure disk
    | .error e => throw (.os e)
  if path.utf8ByteSize ≥ 108 then throw .pathTooLong
  match disk.makeSocket path with
  | .ok (place, disk) => return (.socket place, disk)
  | .error e => throw (.os e)

/-- Reads an address: a host and a port with a colon between them. -/
def readAddress (text : String) : Except BindError Endpoint :=
  match text.toList.reverse.dropWhile (· ≠ ':') with
  | [] => .error .invalidAddress
  | _ :: host =>
    let port := (text.toList.reverse.takeWhile (· ≠ ':')).reverse
    match Text.readUInt16? (String.ofList port) with
    | none => .error .invalidPort
    | some port =>
      if SocketAddress.isValid text || SocketAddress.isKnownHost host.reverse then
        .ok (.address (String.ofList host.reverse) port)
      else .error .unknownHost

/-- Binds to a socket if there is one, and else to an address that no listener has taken. -/
def bind (taken : List Endpoint) (disk : Disk) (socket? : Option String) (address : String) :
    Except BindError (Endpoint × Disk) :=
  match socket? with
  | some path => bindSocket disk path
  | none => do
    let endpoint ← readAddress address
    if taken.any endpoint.excludes then throw (.os .addressInUse) else return (endpoint, disk)

/-- Binds the listeners that the configuration asks for. The metrics are served in public only if
no internal listener serves them. -/
def bindAll (disk : Disk) (config : ApiConfig) : Except BindError (List Listener × Disk) := do
  let (endpoint, disk) ← bind [] disk config.unixSocket config.bindAddress
  let main : Listener := ⟨endpoint, ⟨true, !config.hasInternalListener⟩⟩
  if config.hasInternalListener then
    let (internal, disk) ←
      bind [endpoint] disk config.internalUnixSocket (config.internalBindAddress.getD "")
    return ([main, ⟨internal, ⟨false, true⟩⟩], disk)
  else return ([main], disk)

/-- The paths at which sockets are bound. -/
def socketPaths (config : ApiConfig) : List String :=
  config.unixSocket.toList ++ config.internalUnixSocket.toList

end Listener

/-- A process that has started. -/
structure Running where
  directory : ConfigDirectory
  watches : Watches
  state : LiveState
  listeners : List Listener
  disk : Disk

namespace Running

/-- The paths at which the `.env` file is looked for: in the working directory, and then in the
directories around it up to the root. -/
def envPaths (disk : Disk) : List String :=
  (List.range (disk.home.length + 1)).reverse.map fun n =>
    Disk.pathTo (disk.home.take n ++ [".env"])

/-- The state of the `.env` file. A path at which there is no file is passed over, and one that
cannot be looked at is not. -/
def envFile (disk : Disk) : FileState :=
  match (envPaths disk).find? fun path => !disk.lacksFile path with
  | some path => disk.state path
  | none => .absent

/-- The name under which the program's telemetry variables are kept. -/
def programName : String := "API"

/-- Everything up to the first listener. -/
def prepare (disk : Disk) (env : Environment) (telemetry : Telemetry) :
    Except StartError (ApiConfig × Watches × LiveState) :=
  let file := envFile disk
  match ApiConfig.load file env with
  | (.error e, _) => .error (.config e)
  | (.ok config, env) =>
    match (telemetry.setUp (TelemetryConfig.load programName file env).1).1 with
    | .error e => .error (.telemetry e)
    | .ok () =>
      let directory : ConfigDirectory := ⟨config.configDirectory⟩
      match Watches.register disk directory with
      | .error e => .error (.watch e)
      | .ok watches =>
        match LiveState.initial.loadInitial (directory.read disk) with
        | (.error _, _) => .error (.config (.credentialsMissing (directory.file .userUi)))
        | (.ok (), state) => .ok (config, watches, state)

/-- The paths of the documents that a start in an environment reads. -/
def documents (disk : Disk) (env : Environment) : List String :=
  match (ApiConfig.load (envFile disk) env).1 with
  | .error _ => []
  | .ok config => DocumentKind.all.map (ConfigDirectory.file ⟨config.configDirectory⟩)

/-- Goes on after a change of the disk at a path; the error of a watch ends the process. -/
def afterChange (r : Running) (disk : Disk) (path : String) : Except StartError Running :=
  let (watches, state) := r.watches.afterChange disk r.directory path r.state
  match watches.ended? with
  | some e => .error (.watch e)
  | none => .ok { r with watches, state, disk }

/-- Starts the process. The sockets of the listeners are the first changes that the watches see. -/
def start (disk : Disk) (env : Environment) (telemetry : Telemetry) :
    Except StartError Running :=
  match prepare disk env telemetry with
  | .error e => .error e
  | .ok (config, watches, state) =>
    match Listener.bindAll disk config with
    | .error e => .error (.bind e)
    | .ok (listeners, disk) =>
      let started : Running :=
        { directory := ⟨config.configDirectory⟩, watches, state, listeners, disk }
      (Listener.socketPaths config).foldlM (fun r path => r.afterChange r.disk path) started

/-- The listener at a socket: the one bound there last. Whatever else is there takes no
connections. -/
def connect (r : Running) (path : String) : Except OsError Listener := do
  let place ← r.disk.locate path
  if (r.disk.entry? place).isNone then throw .notFound
  match r.listeners.reverse.find? fun l => l.endpoint = .socket place with
  | some l => return l
  | none => throw .connectionRefused

/-- Answers a request that comes in at a listener. What does not fit the first line of a request is
none. -/
def serve (r : Running) (l : Listener) (store : MetricStore) (method uri : String) :
    Http.Response × Running :=
  let served :=
    if Http.fitsLine uri then Http.serveTexts l.offer store r.state method uri
    else ⟨.malformed, [], r.state.metrics⟩
  (served.response.sentFor method, { r with state := { r.state with metrics := served.metrics } })

/-- Goes on after a look at a path. What is there as it was before is no change. -/
def afterLook (r : Running) (path : String) (sight : Disk.Sight) : Except StartError Running :=
  let disk := r.disk.seen path sight
  if disk.entries = r.disk.entries ∧ disk.denied = r.disk.denied then .ok r
  else r.afterChange disk path

/-- Answers a line that asks for something at the first listener. -/
def serveLine (r : Running) (store : MetricStore) (line : String) : List String × Running :=
  match r.listeners, Http.requestLine? line with
  | l :: _, some (method, uri) =>
    let (response, r) := r.serve l store method uri
    (response.lines, r)
  | _, _ => ([], r)

end Running

end ChainDashboard
