import ChainDashboard.NameMap
import ChainDashboard.Text.Quoted

/-!
The metric store as the dashboard sees it: something that answers one batched read over one
connection, or fails. A read asks for plain keys and for fields of one bucket, and the reply lists
their values in the order of the request.
-/
namespace ChainDashboard

/-- Where the store is reached and which of its databases is read. -/
structure StoreConnection where
  host : String
  port : UInt16
  password : Option String
  database : Int64
  deriving DecidableEq, Repr

/-- The connection as diagnostics show it, with the password hidden. -/
def StoreConnection.describe (c : StoreConnection) : String :=
  "StoreConnection \x7b host: " ++ Text.quoted c.host ++ ", port: " ++ toString c.port.toNat ++
    ", password: " ++ (if c.password.isSome then "Some(\"***\")" else "None") ++ ", database: " ++
    toString c.database.toInt ++ " \x7d"

/-- One batched read. -/
structure StoreRequest where
  flatKeys : List String
  hashKey : String
  hashFields : List String
  deriving DecidableEq, Repr

/-- The number of values asked for. -/
def StoreRequest.keyCount (r : StoreRequest) : Nat := r.flatKeys.length + r.hashFields.length

/-- Values in the order of the request's keys and fields; `none` where the store has no value. -/
structure StoreReply where
  flat : List (Option String)
  hash : List (Option String)
  deriving DecidableEq, Repr

/-- A failed read, sorted by its cause. -/
inductive StoreError where
  | auth (detail : String)
  | connection (detail : String)
  | other (detail : String)
  deriving DecidableEq, Repr

/-- The report of a failed read. -/
def StoreError.message : StoreError → String
  | .auth detail => "store authentication failed: " ++ detail
  | .connection detail => "store connection failed: " ++ detail
  | .other detail => "store error: " ++ detail

/-- A metric store, by how it answers. -/
abbrev MetricStore := StoreConnection → StoreRequest → Except StoreError StoreReply

/-- The content of a store: plain keys, and buckets of fields. -/
structure StoreTables where
  flat : NameMap String
  hash : NameMap (NameMap String)
  deriving DecidableEq

/-- The value of a field of a bucket. -/
def StoreTables.field? (t : StoreTables) (bucket name : String) : Option String :=
  (t.hash.find? bucket).bind fun fields => fields.find? name

/-- Looks up everything a request asks for. -/
def StoreTables.answer (t : StoreTables) (r : StoreRequest) : StoreReply where
  flat := r.flatKeys.map t.flat.find?
  hash := r.hashFields.map (t.field? r.hashKey)

/-- The store that answers from tables. -/
def MetricStore.ofTables (t : StoreTables) : MetricStore := fun _ r => .ok (t.answer r)

end ChainDashboard
