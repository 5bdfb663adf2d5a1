import ChainDashboard.Redis.Reply

/-!
Reading the metric store over a connection to a Redis server. The conversation is: authenticate if
there is a password, select the database, and run both reads as one transaction that is sent in one
batch. A request for nothing does not connect. Whatever the other side does, the outcome is either
the values in the order of the request or one failure, sorted by its cause.

A connection that was just opened also names its client library to the server (`CLIENT SETINFO`).
These commands are left out: nothing depends on what is answered to them.
-/
namespace ChainDashboard.Redis

/-- A command with its arguments. -/
abbrev Command := List String

/-- What comes back for a command. -/
inductive Answer where
  | reply (r : Reply)
  /-- The connection was closed, with the report of that. -/
  | closed (message : String)
  /-- Nothing. -/
  | silence

/-- The other side of a connection. -/
inductive Link where
  /-- There is no connection. -/
  | failed (error : OsError)
  /-- A server, by what it answers to the last of the commands received so far. -/
  | server (answer : List Command → Answer)

/-- A conversation that came to its end, and the commands that were sent. -/
structure Run where
  result : Except StoreError StoreReply
  commands : List Command

/-- How long a reply is waited for, in milliseconds. -/
structure Timeout where
  millis : Nat
  deriving DecidableEq, Repr

/-- The waiting time unless it is set otherwise. -/
def Timeout.standard : Timeout := ⟨5000⟩

/-- The waiting time in seconds, or in milliseconds if it is shorter than one. -/
def Timeout.text (t : Timeout) : String :=
  if t.millis = 0 then "0ns"
  else if t.millis < 1000 then toString t.millis ++ "ms"
  else
    let digits := (toString (1000 + t.millis % 1000)).toList.drop 1
    let fraction := (digits.reverse.dropWhile (· = '0')).reverse
    toString (t.millis / 1000) ++
      (if fraction = [] then "" else "." ++ String.ofList fraction) ++ "s"

/-- The failure of waiting in vain. -/
def noReply (t : Timeout) (c : StoreConnection) : StoreError :=
  .connection ("no reply from " ++ c.host ++ ":" ++ toString c.port.toNat ++ " within " ++ t.text)

/-- The command that authenticates. -/
def authCommand (password : String) : Command := ["AUTH", password]

/-- The command that selects the database. -/
def selectCommand (database : Int64) : Command := ["SELECT", toString database.toInt]

/-- The reads of a request. A read without keys is left out, as the server would refuse it. -/
def readCommands (r : StoreRequest) : List Command :=
  (if r.flatKeys = [] then [] else ["MGET" :: r.flatKeys]) ++
    (if r.hashFields = [] then [] else ["HMGET" :: r.hashKey :: r.hashFields])

/-- The batch that makes the reads of a request one transaction. -/
def batch (r : StoreRequest) : List Command := [["MULTI"]] ++ readCommands r ++ [["EXEC"]]

/-- The failure of a refused password. -/
def authenticationFailed : Failure :=
  .described .authenticationFailed "Password authentication failed" none

/-- What an old server says when it is given a user name as well. -/
def wrongArguments : String := "wrong number of arguments for 'auth' command"

/-- Whether some characters occur one after the other in others. -/
def occursIn (part : List Char) : List Char → Bool
  | [] => part.isEmpty
  | c :: rest => part.isPrefixOf (c :: rest) || occursIn part rest

/-- Takes one step: sends a command and gives what comes back, with everything sent so far. -/
def ask (answer : List Command → Answer) (sent : List Command) (c : Command) :
    Answer × List Command :=
  (answer (sent ++ [c]), sent ++ [c])

/-- Whether an answer accepts the password. -/
def accepts : Answer → Bool
  | .reply .okay => true
  | _ => false

/-- The error of an answer. A reply with an error in it, at any depth, is that error as a whole. -/
def Answer.error? : Answer → Option Failure
  | .reply r => r.firstError?
  | _ => none

/-- Whether an answer asks for the password to be given once more. -/
def wantsRetry (a : Answer) : Bool :=
  a.error?.any fun failure =>
    failure.detail?.any fun d => occursIn wrongArguments.toList d.toList

/-- Authenticates if there is a password. Gives the failure, if any, and everything sent so far. -/
def authenticate (answer : List Command → Answer) (t : Timeout) (c : StoreConnection) :
    Option StoreError × List Command :=
  match c.password with
  | none => (none, [])
  | some password =>
    let refused := some authenticationFailed.classify
    match ask answer [] (authCommand password) with
    | (.silence, sent) => (some (noReply t c), sent)
    | (first, sent) =>
      if accepts first then (none, sent)
      else if wantsRetry first then
        match ask answer sent (authCommand password) with
        | (.silence, sent) => (some (noReply t c), sent)
        | (second, sent) => (if accepts second then none else refused, sent)
      else (refused, sent)

/-- Selects the database. -/
def select (answer : List Command → Answer) (t : Timeout) (c : StoreConnection)
    (sent : List Command) : Option StoreError × List Command :=
  match ask answer sent (selectCommand c.database) with
  | (.reply r, sent) => (r.firstError?.map Failure.classify, sent)
  | (.closed message, sent) => (some (Failure.io message).classify, sent)
  | (.silence, sent) => (some (noReply t c), sent)

/-- Collects the replies to commands that were sent together. -/
def collect (answer : List Command → Answer) (t : Timeout) (c : StoreConnection)
    (sent : List Command) : List Command → Except StoreError (List Reply) × List Command
  | [] => (.ok [], sent)
  | command :: rest =>
    match ask answer sent command with
    | (.closed message, sent) => (.error (Failure.io message).classify, sent)
    | (.silence, sent) => (.error (noReply t c), sent)
    | (.reply r, sent) =>
      match collect answer t c sent rest with
      | (.ok replies, sent) => (.ok (r :: replies), sent)
      | (.error e, sent) => (.error e, sent)

/-- The values that the replies to a batch hold. The first error among them comes first; otherwise
the last reply is that of the transaction, with one list of values for each read. -/
def decode (r : StoreRequest) (replies : List Reply) : Except Failure StoreReply :=
  match Reply.firstErrorOf? replies with
  | some failure => .error failure
  | none => do
    let lists ← (replies.getLastD .nil).transaction (readCommands r).length
    let values ← lists.mapM Reply.values
    if r.flatKeys = [] then return ⟨[], values.headD []⟩
    else return ⟨values.headD [], (values.drop 1).headD []⟩

/-- Runs the reads of a request on a connection that is ready for them. -/
def runBatch (answer : List Command → Answer) (t : Timeout) (c : StoreConnection)
    (r : StoreRequest) (sent : List Command) : Run :=
  match collect answer t c sent (batch r) with
  | (.error e, sent) => ⟨.error e, sent⟩
  | (.ok replies, sent) => ⟨(decode r replies).mapError Failure.classify, sent⟩

/-- Reads what a request asks for. -/
def fetch (link : Link) (t : Timeout) (c : StoreConnection) (r : StoreRequest) : Run :=
  if r.flatKeys = [] ∧ r.hashFields = [] then ⟨.ok ⟨[], []⟩, []⟩
  else
    match link with
    | .failed error => ⟨.error (Failure.io error.message).classify, []⟩
    | .server answer =>
      match authenticate answer t c with
      | (some e, sent) => ⟨.error e, sent⟩
      | (none, sent) =>
        match select answer t c sent with
        | (some e, sent) => ⟨.error e, sent⟩
        | (none, sent) => runBatch answer t c r sent

/-- The metric store that is reached over a network. -/
def metricStore (network : StoreConnection → Link) (t : Timeout) : MetricStore :=
  fun c r => (fetch (network c) t c r).result

end ChainDashboard.Redis
