import ChainDashboard.Json
import ChainDashboard.KeySchema
import ChainDashboard.MetricStore

/-!
Snapshots and the templates they are made from. A template has the shape of a snapshot with a
placeholder in every field. It gives rise to one batched read that asks for each key once, and the
values of the reply are put back into every field whose placeholder names their key.
-/
namespace ChainDashboard

/-- Names of reported fields with their values, `none` where the store has none. -/
abbrev FieldValues := NameMap (Option String)

/-- What is reported about a node. -/
structure NodeSnapshot where
  fields : FieldValues
  validator : String
  deriving DecidableEq

/-- Everything that is reported about a chain. -/
structure ChainSnapshot where
  blockchain : FieldValues
  nodes : NameMap NodeSnapshot
  blockchainMonitors : NameMap FieldValues
  nodeMonitors : NameMap FieldValues
  deriving DecidableEq

/-- A map as an object. -/
def Json.ofMap {α : Type u} (value : α → Json) (m : NameMap α) : Json :=
  .object (m.entries.map fun e => (e.1, value e.2))

/-- Field values as an object. -/
def Json.ofFields (fields : FieldValues) : Json := .ofMap .ofOption fields

/-- The fields of a node, with the validator flag behind them. -/
def NodeSnapshot.toJson (n : NodeSnapshot) : Json :=
  .object (n.fields.entries.map (fun e => (e.1, .ofOption e.2)) ++
    [("is_validator", .string n.validator)])

/-- A snapshot as it is sent. -/
def ChainSnapshot.toJson (s : ChainSnapshot) : Json :=
  .object [
    ("blockchain", .ofFields s.blockchain),
    ("nodes", .ofMap NodeSnapshot.toJson s.nodes),
    ("monitors", .object [
      ("blockchain", .ofMap .ofFields s.blockchainMonitors),
      ("node", .ofMap .ofFields s.nodeMonitors)])]

/-- Where the value of a field is found. -/
structure Placeholder where
  lookup : Lookup
  key : String
  deriving DecidableEq, Repr

/-- Names of reported fields with their placeholders. -/
abbrev FieldPlaceholders := NameMap Placeholder

/-- A snapshot that is still to be filled in. -/
structure SnapshotTemplate where
  blockchain : FieldPlaceholders
  nodes : NameMap FieldPlaceholders
  blockchainMonitors : NameMap FieldPlaceholders
  nodeMonitors : NameMap FieldPlaceholders
  deriving DecidableEq

namespace SnapshotTemplate

/-- The placeholders of a group of named parts, by part and then by field. -/
def groupPlaceholders (parts : NameMap FieldPlaceholders) : List Placeholder :=
  (parts.values.map (·.values)).flatten

/-- All placeholders, in the order in which their keys are asked for. -/
def placeholders (t : SnapshotTemplate) : List Placeholder :=
  t.blockchain.values ++ groupPlaceholders t.nodes ++ groupPlaceholders t.blockchainMonitors ++
    groupPlaceholders t.nodeMonitors

/-- The keys of one kind of look-up, each at its first occurrence. -/
def keysOf (lookup : Lookup) (ps : List Placeholder) : List String :=
  ((ps.filter (·.lookup = lookup)).map (·.key)).eraseDups

/-- The read that fetches every value of the template. -/
def request (t : SnapshotTemplate) (hashKey : String) : StoreRequest where
  flatKeys := keysOf .flat t.placeholders
  hashKey := hashKey
  hashFields := keysOf .hash t.placeholders

/-- The template with every placeholder replaced by a value; the validator flags stay empty. -/
def fill (t : SnapshotTemplate) (value : Placeholder → Option String) : ChainSnapshot where
  blockchain := t.blockchain.mapValues value
  nodes := t.nodes.mapValues fun fields => ⟨fields.mapValues value, ""⟩
  blockchainMonitors := t.blockchainMonitors.mapValues (·.mapValues value)
  nodeMonitors := t.nodeMonitors.mapValues (·.mapValues value)

end SnapshotTemplate

/-- The values of a reply under the keys they were asked for with. -/
structure FetchedValues where
  flat : NameMap (Option String)
  hash : NameMap (Option String)
  deriving DecidableEq

namespace FetchedValues

/-- Whether a reply has as many values of each kind as the request asked for. -/
def fits (request : StoreRequest) (reply : StoreReply) : Bool :=
  reply.flat.length == request.flatKeys.length && reply.hash.length == request.hashFields.length

/-- The failure reported for a reply that does not fit. -/
def shapeMismatch (request : StoreRequest) (reply : StoreReply) : StoreError :=
  .other ("reply shape mismatch: expected " ++ toString request.flatKeys.length ++ "+" ++
    toString request.hashFields.length ++ " values, got " ++ toString reply.flat.length ++ "+" ++
    toString reply.hash.length)

/-- Pairs every key with the value at its place. Of several values for one key the last stands. -/
def zip (request : StoreRequest) (reply : StoreReply) : Except StoreError FetchedValues :=
  if fits request reply then
    .ok ⟨.ofList (request.flatKeys.zip reply.flat), .ofList (request.hashFields.zip reply.hash)⟩
  else .error (shapeMismatch request reply)

/-- The value for a placeholder; a key that was not asked for has none. -/
def get (v : FetchedValues) (p : Placeholder) : Option String :=
  ((match p.lookup with | .flat => v.flat | .hash => v.hash).find? p.key).join

end FetchedValues

/-- Fills a template with fetched values. -/
def SnapshotTemplate.resolve (t : SnapshotTemplate) (values : FetchedValues) : ChainSnapshot :=
  t.fill values.get

end ChainDashboard
