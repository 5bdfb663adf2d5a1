import ChainDashboard.Redis.Conversation
import ChainDashboard.Text.Number

/-!
A Redis server that holds tables in its databases: what it replies to the commands that a
conversation is made of. Between `MULTI` and `EXEC` commands are queued, and `EXEC` runs them all at
one instant. Between any two commands of a connection others may write to the tables.
-/
namespace ChainDashboard.Redis

/-- A server at one instant: whom it admits, and the tables of its databases. -/
structure Server where
  /-- Whether a connection that gave this password, or none, may read. -/
  admits : Option String → Bool
  /-- How many databases there are. -/
  databases : Nat
  tables : Int64 → StoreTables

/-- The state of one connection to a server. -/
structure Session where
  admitted : Bool
  database : Int64
  /-- The commands of the open transaction, if there is one. -/
  queue : Option (List Command)

namespace Server

/-- A connection that was just opened. -/
def opened (server : Server) : Session := ⟨server.admits none, 0, none⟩

/-- Whether there is a database of the index. They are counted from zero. -/
def has (server : Server) (database : Int64) : Bool :=
  0 ≤ database.toInt && database.toInt < server.databases

/-- A value as a reply. -/
def valueReply : Option String → Reply
  | some text => .bulk text
  | none => .nil

/-- The reply to a command that reads from tables. The strings and the hashes of a database share
their keys: a string under the key of a bucket is all that there is. -/
def read (tables : StoreTables) : Command → Reply
  | "MGET" :: key :: keys => .array ((key :: keys).map fun k => valueReply (tables.flat.find? k))
  | "HMGET" :: bucket :: name :: names =>
    if (tables.flat.find? bucket).isSome then
      .error (.ofLine "WRONGTYPE Operation against a key holding the wrong kind of value")
    else .array ((name :: names).map fun f => valueReply (tables.field? bucket f))
  | _ => .error (.ofLine "ERR unknown command")

/-- Takes one command. -/
def take (server : Server) (s : Session) (c : Command) : Reply × Session :=
  match c, s.queue with
  | ["EXEC"], some queued =>
    (.array (queued.map (read (server.tables s.database))), { s with queue := none })
  | c, some queued => (.simple "QUEUED", { s with queue := some (queued ++ [c]) })
  | ["AUTH", password], none =>
    if server.admits (some password) then (.okay, { s with admitted := true })
    else (.error (.ofLine "WRONGPASS invalid username-password pair or user is disabled."), s)
  | c, none =>
    if !s.admitted then (.error (.ofLine "NOAUTH Authentication required."), s)
    else
      match c with
      | ["SELECT", index] =>
        match Text.readInt64? index with
        | some database =>
          if server.has database then (.okay, { s with database })
          else (.error (.ofLine "ERR DB index is out of range"), s)
        | none => (.error (.ofLine "ERR invalid DB index"), s)
      | ["MULTI"] => (.okay, { s with queue := some [] })
      | ["EXEC"] => (.error (.ofLine "ERR EXEC without MULTI"), s)
      | c => (read (server.tables s.database) c, s)

end Server

/-- What becomes of a server while a connection lasts: how it is when the first command of the
connection comes in, when the second does, and so on. -/
structure ServerHistory where
  server : Nat → Server

namespace ServerHistory

/-- The session that a list of commands leads to, with the reply to the last of them. -/
def afterAll (history : ServerHistory) (commands : List Command) : Reply × Session :=
  commands.zipIdx.foldl (fun r c => (history.server c.2).take r.2 c.1)
    (.nil, (history.server 0).opened)

/-- What comes back for the last of the commands received so far. -/
def answer (history : ServerHistory) (commands : List Command) : Answer :=
  .reply (history.afterAll commands).1

/-- The server at the other side of a connection. -/
def link (history : ServerHistory) : Link := .server history.answer

end ServerHistory

end ChainDashboard.Redis
