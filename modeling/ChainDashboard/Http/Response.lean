import ChainDashboard.Http.Target
import ChainDashboard.Snapshot.Build

/-!
Responses and the fixed messages they carry. Under the server's scope a response is either a result
or one of these messages, each of which has its own status.
-/
namespace ChainDashboard.Http

/-- What a client is told when there is no result. -/
inductive UserMessage where
  | missingArguments | invalidEndpoint | chainNotFound | storeNotSetUp | storeAuthIncorrect
  | noConnection | storeError
  deriving DecidableEq, Repr

namespace UserMessage

/-- The wording of the message. -/
def text : UserMessage → String
  | .missingArguments => "Missing arguments"
  | .invalidEndpoint => "Invalid endpoint"
  | .chainNotFound => "Chain not found"
  | .storeNotSetUp => "Redis not set up"
  | .storeAuthIncorrect => "Redis password missing or incorrect"
  | .noConnection => "No connection"
  | .storeError => "Redis error"

/-- The status that belongs to the message. -/
def status : UserMessage → Nat
  | .missingArguments => 400
  | .invalidEndpoint | .chainNotFound => 404
  | .storeNotSetUp => 503
  | .storeAuthIncorrect | .noConnection => 502
  | .storeError => 500

/-- What a client is told about a snapshot that could not be built. Details stay behind. -/
def ofSnapshotError : SnapshotError → UserMessage
  | .chainNotFound _ => .chainNotFound
  | .storeNotConfigured => .storeNotSetUp
  | .storeAuth _ => .storeAuthIncorrect
  | .storeConnection _ => .noConnection
  | .store _ => .storeError

end UserMessage

/-- What a response carries. -/
inductive Body where
  | empty
  | text (content : String)
  | json (value : Json)

/-- An answer to a request. -/
structure Response where
  status : Nat
  contentType : Option String
  body : Body

namespace Response

/-- A successful result. -/
def result (value : Json) : Response :=
  ⟨200, some "application/json", .json (.object [("result", value)])⟩

/-- A message instead of a result. -/
def failure (m : UserMessage) : Response :=
  ⟨m.status, some "application/json", .json (.object [("error", .string m.text)])⟩

/-- The response to a query that cannot be understood. -/
def badQuery (e : RepeatedParameter) : Response :=
  ⟨400, some "text/plain; charset=utf-8", .text e.message⟩

/-- The response to what is no request. -/
def malformed : Response := ⟨400, none, .empty⟩

/-- The response outside of everything that is served. -/
def notFound : Response := ⟨404, none, .empty⟩

/-- The text of the metrics. -/
def metrics (m : Metrics) : Response :=
  ⟨200, some "text/plain; version=0.0.4", .text m.text⟩

/-- The response as it is sent: a `HEAD` request is answered without the body. -/
def sentFor (method : String) (r : Response) : Response :=
  if method = "HEAD" then { r with body := .empty } else r

/-- The text of the body. -/
def bodyText (r : Response) : String :=
  match r.body with
  | .empty => ""
  | .text content => content
  | .json value => value.render

/-- The response as lines: the status, the type of the content if there is one, and the content. -/
def lines (r : Response) : List String :=
  toString r.status :: (r.contentType.toList ++ [r.bodyText])

end Response

end ChainDashboard.Http
