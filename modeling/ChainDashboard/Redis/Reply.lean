import ChainDashboard.FileState
import ChainDashboard.MetricStore

/-!
What a Redis server replies and how a conversation with it fails. A failure keeps what was
signalled; `classify` sorts it into the three causes that callers tell apart.
-/
namespace ChainDashboard.Redis

/-- The kinds of failure that the protocol and its clients know. -/
inductive Kind where
  | responseError | authenticationFailed | typeError | execAbortError | busyLoadingError
  | noScriptError | invalidClientConfig | moved | ask | tryAgain | clusterDown | crossSlot
  | masterDown | ioError | clientError | extensionError | readOnly | masterNameNotFoundBySentinel
  | noValidReplicasFoundBySentinel | emptySentinelList | notBusy | clusterConnectionNotFound
  | parseError
  deriving DecidableEq, Repr

namespace Kind

/-- Every kind. -/
def all : List Kind := [
  .responseError, .authenticationFailed, .typeError, .execAbortError, .busyLoadingError,
  .noScriptError, .invalidClientConfig, .moved, .ask, .tryAgain, .clusterDown, .crossSlot,
  .masterDown, .ioError, .clientError, .extensionError, .readOnly, .masterNameNotFoundBySentinel,
  .noValidReplicasFoundBySentinel, .emptySentinelList, .notBusy, .clusterConnectionNotFound,
  .parseError]

/-- The name of the kind in reports. -/
def label : Kind → String
  | .responseError => "ResponseError"
  | .authenticationFailed => "AuthenticationFailed"
  | .typeError => "TypeError"
  | .execAbortError => "ExecAbortError"
  | .busyLoadingError => "BusyLoadingError"
  | .noScriptError => "NoScriptError"
  | .invalidClientConfig => "InvalidClientConfig"
  | .moved => "Moved"
  | .ask => "Ask"
  | .tryAgain => "TryAgain"
  | .clusterDown => "ClusterDown"
  | .crossSlot => "CrossSlot"
  | .masterDown => "MasterDown"
  | .ioError => "IoError"
  | .clientError => "ClientError"
  | .extensionError => "ExtensionError"
  | .readOnly => "ReadOnly"
  | .masterNameNotFoundBySentinel => "MasterNameNotFoundBySentinel"
  | .noValidReplicasFoundBySentinel => "NoValidReplicasFoundBySentinel"
  | .emptySentinelList => "EmptySentinelList"
  | .notBusy => "NotBusy"
  | .clusterConnectionNotFound => "ClusterConnectionNotFound"
  | .parseError => "ParseError"

/-- The kind that a server signals by a code. -/
def ofCode? : String → Option Kind
  | "ERR" => some .responseError
  | "EXECABORT" => some .execAbortError
  | "LOADING" => some .busyLoadingError
  | "NOSCRIPT" => some .noScriptError
  | "MOVED" => some .moved
  | "ASK" => some .ask
  | "TRYAGAIN" => some .tryAgain
  | "CLUSTERDOWN" => some .clusterDown
  | "CROSSSLOT" => some .crossSlot
  | "MASTERDOWN" => some .masterDown
  | "READONLY" => some .readOnly
  | "NOTBUSY" => some .notBusy
  | _ => none

end Kind

/-- A failed step of a conversation. -/
inductive Failure where
  | described (kind : Kind) (description : String) (detail : Option String)
  /-- An error reply with a code that is no known kind. -/
  | signalled (code detail : String)
  /-- The connection failed. -/
  | io (message : String)
  deriving DecidableEq, Repr

namespace Failure

/-- The report of a failure. -/
def message : Failure → String
  | .described kind description none => description ++ "- " ++ kind.label
  | .described kind description (some detail) =>
    description ++ " - " ++ kind.label ++ ": " ++ detail
  | .signalled code detail => code ++ ": " ++ detail
  | .io message => message

/-- What a failure says beyond its kind. -/
def detail? : Failure → Option String
  | .described _ _ detail => detail
  | .signalled _ detail => some detail
  | .io _ => none

/-- The failure that the line of an error reply signals: a code, and behind a blank its detail. -/
def ofLine (line : String) : Failure :=
  let code := String.ofList (line.toList.takeWhile (· ≠ ' '))
  let detail :=
    match line.toList.dropWhile (· ≠ ' ') with
    | [] => none
    | _ :: rest => some (String.ofList rest)
  match Kind.ofCode? code with
  | some kind => .described kind "An error was signalled by the server" detail
  | none => .signalled code (detail.getD "Unknown extension error encountered")

/-- The first line on the wire, up to a carriage return with a line feed behind it; `none` if it is
not complete. -/
def firstLine? : List Char → Option (List Char)
  | '\r' :: '\n' :: _ => some []
  | c :: rest => (firstLine? rest).map (c :: ·)
  | [] => none

/-- The failure of a connection that ended within a reply. -/
def cutOff : Failure := .io "unexpected end of file"

/-- The failure that an error reply signals, as it is on the wire; `none` for any other reply. -/
def ofWire? (wire : String) : Option Failure :=
  match wire.toList with
  | '-' :: rest => some (((firstLine? rest).map (ofLine ∘ String.ofList)).getD cutOff)
  | [] => some cutOff
  | _ => none

/-- The codes by which a server says that a connection is not authenticated. -/
def authCodes : List String := ["NOAUTH", "WRONGPASS"]

/-- Whether a failure is about credentials. -/
def isAuth : Failure → Bool
  | .described kind _ _ => kind = .authenticationFailed
  | .signalled code _ => authCodes.contains code
  | .io _ => false

/-- Whether a failure is about the connection itself. -/
def isConnection : Failure → Bool
  | .described kind _ _ => kind = .ioError
  | .signalled .. => false
  | .io _ => true

/-- Sorts a failure by its cause. -/
def classify (f : Failure) : StoreError :=
  if f.isAuth then .auth f.message
  else if f.isConnection then .connection f.message
  else .other f.message

end Failure

/-- A reply. -/
inductive Reply where
  | okay
  | nil
  | integer (n : Int)
  | bulk (text : String)
  | simple (text : String)
  | array (items : List Reply)
  | error (failure : Failure)
  deriving Inhabited

namespace Reply

mutual

/-- A reply as diagnostics show it. -/
def describe : Reply → String
  | .okay => "ok"
  | .nil => "nil"
  | .integer n => "int(" ++ toString n ++ ")"
  | .bulk text => "string-data('" ++ Text.quoted text ++ "')"
  | .simple text => "status(" ++ Text.quoted text ++ ")"
  | .array items => "bulk(" ++ String.intercalate ", " (describeAll items) ++ ")"
  | .error failure => failure.message

/-- The descriptions of several replies. -/
def describeAll : List Reply → List String
  | [] => []
  | r :: rest => describe r :: describeAll rest

end

mutual

/-- The first error in a reply, at any depth. -/
def firstError? : Reply → Option Failure
  | .error failure => some failure
  | .array items => firstErrorOf? items
  | _ => none

/-- The first error in several replies. -/
def firstErrorOf? : List Reply → Option Failure
  | [] => none
  | r :: rest =>
    match firstError? r with
    | some failure => some failure
    | none => firstErrorOf? rest

end

/-- The failure of a reply that is not what was expected. -/
def mismatch (expectation : String) (r : Reply) : Failure :=
  .described .typeError "Response was of incompatible type"
    (some (Text.quoted expectation ++ " (response was " ++ r.describe ++ ")"))

/-- A reply as one value. -/
def value : Reply → Except Failure (Option String)
  | .nil => .ok none
  | .bulk text => .ok (some text)
  | .simple text => .ok (some text)
  | .okay => .ok (some "OK")
  | r => .error (mismatch "Response type not string compatible." r)

/-- A reply as a list of values. -/
def values : Reply → Except Failure (List (Option String))
  | .array items => items.mapM value
  | .nil => .ok []
  | .bulk text => .ok [some text]
  | r => .error (mismatch "Response type not vector compatible." r)

/-- The replies of a transaction of `count` commands. -/
def transaction (count : Nat) : Reply → Except Failure (List Reply)
  | .array items =>
    if items.length = count then .ok items
    else .error (mismatch "Bulk response of wrong dimension" (.array items))
  | .nil => .error (mismatch "Not a bulk response" .nil)
  | _ => .error (.described .responseError "Invalid response when parsing multi response" none)

end Reply

end ChainDashboard.Redis
