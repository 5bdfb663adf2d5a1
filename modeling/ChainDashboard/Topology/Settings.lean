import ChainDashboard.Document.Basic
import ChainDashboard.MetricStore
import ChainDashboard.Text.Flag
import ChainDashboard.Text.Number

/-!
The settings that configuration documents hold besides nodes and repositories, and how each of them
is read from its document. A reader either gives the whole setting or names the field that is
missing.
-/
namespace ChainDashboard

/-- How the metric store is reached. -/
structure StoreSettings where
  enabled : Bool
  host : String
  port : UInt16
  password : Option String
  deriving DecidableEq, Repr

/-- What the main document contributes. -/
structure MainSettings where
  alerter : Option String
  store : Option StoreSettings
  deriving DecidableEq, Repr

/-- The settings before any main document was read, and after it was deleted. -/
def MainSettings.none : MainSettings := ⟨.none, .none⟩

/-- The credentials of the user interface. -/
structure Credentials where
  username : String
  hashedPassword : String
  cookieSecret : String
  deriving DecidableEq, Repr

/-- The credentials as diagnostics show them, with everything but the name left out. -/
def Credentials.describe (c : Credentials) : String :=
  "AuthSettings \x7b username: " ++ Text.quoted c.username ++ ", .. \x7d"

/-- The parts of documents that have to be there. -/
inductive RequiredField where
  | alerterIdentifier | storeSection | storeHost | storePort | storeIndex | username
  | hashedPassword | cookieSecret
  deriving DecidableEq, Repr

/-- Section and field, as reports name them. -/
def RequiredField.label : RequiredField → String
  | .alerterIdentifier => "general.unique_alerter_identifier"
  | .storeSection => "redis"
  | .storeHost => "redis.host"
  | .storePort => "redis.port"
  | .storeIndex => "redis.redis_database"
  | .username => "authentication.username"
  | .hashedPassword => "authentication.hashed_password"
  | .cookieSecret => "authentication.cookie_secret"

namespace Document

/-- The identifier of the alerter. -/
def alerter? (d : Document) : Option String := d.field? "general" "unique_alerter_identifier"

/-- The store settings, or the first part of them that is missing. A store is enabled unless the
document says otherwise, and a blank password means that there is none. -/
def storeSettings (d : Document) : Except RequiredField StoreSettings :=
  match d.record? "redis" with
  | none => .error .storeSection
  | some store =>
    match store.field? "host" with
    | none => .error .storeHost
    | some host =>
      match (store.field? "port").bind Text.readUInt16? with
      | none => .error .storePort
      | some port => .ok {
          enabled := ((store.field? "enabled").map Flag.read).getD true
          host, port
          password := store.field? "password" }

/-- The index of the store's database. -/
def storeIndex? (d : Document) : Option Int64 :=
  (d.field? "redis" "redis_database").bind Text.readInt64?

/-- The part of the credentials that a required field names. -/
def credential? (d : Document) : RequiredField → Option String
  | .username => d.field? "authentication" "username"
  | .hashedPassword => d.field? "authentication" "hashed_password"
  | .cookieSecret => d.field? "authentication" "cookie_secret"
  | _ => none

end Document

/-- The required fields of the credentials, in the order in which reports name them. -/
def Credentials.fields : List RequiredField := [.username, .hashedPassword, .cookieSecret]

/-- The credentials of which each part is taken from a document or else from those held before. -/
def Credentials.merge (d : Document) (held : Option Credentials) : Option Credentials := do
  let username ← d.credential? .username <|> held.map (·.username)
  let hashedPassword ← d.credential? .hashedPassword <|> held.map (·.hashedPassword)
  let cookieSecret ← d.credential? .cookieSecret <|> held.map (·.cookieSecret)
  return { username, hashedPassword, cookieSecret }

end ChainDashboard
