import ChainDashboard.Metrics
import ChainDashboard.Snapshot.Template
import ChainDashboard.Topology.Basic

/-!
Building the snapshot of a chain. The plan says which keys hold what is to be reported, without
touching the store; building carries it out with at most one read. A snapshot is whole or it is not
given at all, and every failure has a cause of its own.
-/
namespace ChainDashboard

/-- Why there is no snapshot. -/
inductive SnapshotError where
  | chainNotFound (chain : String)
  | storeNotConfigured
  | storeAuth (detail : String)
  | storeConnection (detail : String)
  | store (detail : String)
  deriving DecidableEq, Repr

namespace SnapshotError

/-- The report of the failure. -/
def message : SnapshotError → String
  | .chainNotFound chain => "chain `" ++ chain ++ "` is not monitored"
  | .storeNotConfigured => "metric store is not configured"
  | .storeAuth detail => "metric store rejected credentials: " ++ detail
  | .storeConnection detail => "metric store unreachable: " ++ detail
  | .store detail => "metric store failure: " ++ detail

/-- A failed read as the reason for there being no snapshot. -/
def ofStore : StoreError → SnapshotError
  | .auth detail => .storeAuth detail
  | .connection detail => .storeConnection detail
  | .other detail => .store detail

/-- The result that is counted. -/
def result : SnapshotError → SnapshotResult
  | .chainNotFound _ => .chainNotFound
  | .storeNotConfigured => .storeNotConfigured
  | .storeAuth _ => .storeAuth
  | .storeConnection _ => .storeConnection
  | .store _ => .storeError

end SnapshotError

/-- Everything that is needed to ask the store about a chain. -/
structure SnapshotPlan where
  template : SnapshotTemplate
  request : StoreRequest
  /-- The monitored nodes of the chain. -/
  nodes : NameMap Node

namespace SnapshotPlan

/-- The placeholders of a group for one chain or node. -/
def placeholders (g : KeyGroup) (alerter scope : String) : FieldPlaceholders :=
  NameMap.ofList ((g.keys alerter scope).map fun k => (k.1, ⟨g.lookup, k.2⟩))

/-- The placeholders of a chain without a data source: nothing is known about it, and every field
points at the sentinel. -/
def unknownBlockchain : FieldPlaceholders :=
  NameMap.ofList (KeyGroup.blockchain.fields.map fun f =>
    (f.name, ⟨KeyGroup.blockchain.lookup, Bucket.sentinel⟩))

/-- The template of a chain's snapshot. -/
def templateOf (alerter chain : String) (hasDataSource : Bool) (nodes : NameMap Node) :
    SnapshotTemplate where
  blockchain :=
    if hasDataSource then placeholders .blockchain alerter chain else unknownBlockchain
  nodes := NameMap.ofList (nodes.keys.map fun n => (n, placeholders .node alerter n))
  blockchainMonitors :=
    if hasDataSource then
      NameMap.ofList [(chain, placeholders .blockchainMonitor alerter chain)]
    else NameMap.empty
  nodeMonitors := NameMap.ofList (nodes.keys.map fun n => (n, placeholders .nodeMonitor alerter n))

/-- Plans the snapshot of a chain; only a chain that counts as monitored has one. -/
def ofChain (chain : String) (t : Topology) (alerter : String) :
    Except SnapshotError SnapshotPlan :=
  match t.chains.monitoredNodes.find? chain with
  | none => .error (.chainNotFound chain)
  | some nodes =>
    let template := templateOf alerter chain (t.chains.monitoredChains.contains chain) nodes
    .ok { template, nodes, request := template.request (Bucket.ofChain alerter chain) }

end SnapshotPlan

/-- Sets the validator flag of every node to what is configured, `false` if nothing is. -/
def ChainSnapshot.withValidators (s : ChainSnapshot) (nodes : NameMap Node) : ChainSnapshot :=
  let flag (name : String) := ((nodes.find? name).bind (·.validator)).getD (Flag.text false)
  { s with nodes := s.nodes.mapEntries fun name n => { n with validator := flag name } }

/-- The outcome of building a snapshot, with the reads that were made for it. -/
structure SnapshotRun where
  result : Except SnapshotError ChainSnapshot
  reads : List (StoreConnection × StoreRequest)

namespace SnapshotRun

/-- The snapshot that a plan gives with a store's reply. -/
def finish (plan : SnapshotPlan) (reply : Except StoreError StoreReply) :
    Except SnapshotError ChainSnapshot :=
  match reply with
  | .error e => .error (.ofStore e)
  | .ok reply =>
    match FetchedValues.zip plan.request reply with
    | .error e => .error (.ofStore e)
    | .ok values => .ok ((plan.template.resolve values).withValidators plan.nodes)

/-- Builds the snapshot of a chain. Nothing is read unless the store is set up, the alerter is known
and the chain is monitored; then there is exactly one read. -/
def ofChain (store : MetricStore) (chain : String) (t : Topology) : SnapshotRun :=
  match t.connection?, t.main.alerter with
  | some connection, some alerter =>
    match SnapshotPlan.ofChain chain t alerter with
    | .error e => ⟨.error e, []⟩
    | .ok plan => ⟨finish plan (store connection plan.request), [(connection, plan.request)]⟩
  | _, _ => ⟨.error .storeNotConfigured, []⟩

/-- The result that is counted. -/
def counted (r : SnapshotRun) : SnapshotResult :=
  match r.result with
  | .ok _ => .ok
  | .error e => e.result

/-- Counts the run: the size of each read, and the result. -/
def record (r : SnapshotRun) (m : Metrics) : Metrics :=
  (r.reads.foldl (fun m read => m.observeKeys read.2.keyCount) m).increment (.snapshot r.counted)

end SnapshotRun

end ChainDashboard
