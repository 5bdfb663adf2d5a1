import ChainDashboard.Http.Response
import ChainDashboard.Topology.Reload

/-!
Which request is answered how. The server's scope has five routes; every other method or path in
the scope is an invalid endpoint. Listings come from the topology alone, and only the route of a
chain's snapshot reads the store. Outside the scope there is at most the route of the metrics.
-/
namespace ChainDashboard.Http

/-- The routes of the server's scope. -/
inductive Route where
  | chains | chainNodesMap | chainInfo | repositories | ping
  deriving DecidableEq, Repr

namespace Route

/-- Every route. -/
def all : List Route := [.chains, .chainNodesMap, .chainInfo, .repositories, .ping]

/-- The method of a route. -/
def method : Route → String
  | .ping => "POST"
  | _ => "GET"

/-- The path of a route. -/
def path : Route → String
  | .chains => "/server/chains"
  | .chainNodesMap => "/server/chain_nodes_map"
  | .chainInfo => "/server/all_chain_info"
  | .repositories => "/server/repos"
  | .ping => "/server/ping_server"

/-- The route of a request. -/
def find? (method path : String) : Option Route :=
  all.find? fun r => r.method = method && r.path = path

end Route

/-- Whether a path belongs to the server's scope. -/
def inScope (path : String) : Bool := path = "/server" || "/server/".toList.isPrefixOf path.toList

/-- A response and what it took: the reads of the store and what was counted. -/
structure Served where
  response : Response
  reads : List (StoreConnection × StoreRequest)
  metrics : Metrics

/-- A node as listings show it. -/
def nodeJson (n : Node) : Json := .ofMap .string n.record

/-- Chains with their nodes. -/
def chainMapJson (m : ChainMap) : Json := .ofMap (.ofMap nodeJson) m

/-- Names in a list. -/
def namesJson (names : List String) : Json := .array (names.map .string)

/-- Whether a listing is asked for monitored chains only. -/
def onlyMonitored (t : Target) : Except RepeatedParameter Bool :=
  (t.parameter "onlyIfMonitored").map fun value? => value?.any Flag.read

/-- The listing of chain names. -/
def listChains (chains : ChainMap) (monitored : Bool) : Json :=
  namesJson (if monitored then chains.involvedChains else chains.keys)

/-- The listing of chains with their nodes. -/
def listNodes (chains : ChainMap) (monitored : Bool) : Json :=
  chainMapJson (if monitored then chains.monitoredNodes else chains)

/-- The response with a chain's snapshot. -/
def snapshotResponse (r : SnapshotRun) : Response :=
  match r.result with
  | .ok snapshot => .result snapshot.toJson
  | .error e => .failure (.ofSnapshotError e)

/-- Answers a request for a chain's snapshot. -/
def serveChainInfo (store : MetricStore) (s : LiveState) (t : Target) : Served :=
  match t.parameter "chainName" with
  | .error e => ⟨.badQuery e, [], s.metrics⟩
  | .ok name? =>
    match name?.filter (· ≠ "") with
    | none => ⟨.failure .missingArguments, [], s.metrics⟩
    | some chain =>
      let run := SnapshotRun.ofChain store chain s.topology
      ⟨snapshotResponse run, run.reads, run.record s.metrics⟩

/-- Answers a request on a route. -/
def serveRoute (store : MetricStore) (s : LiveState) (t : Target) : Route → Served
  | .chains =>
    match onlyMonitored t with
    | .error e => ⟨.badQuery e, [], s.metrics⟩
    | .ok monitored => ⟨.result (listChains s.topology.chains monitored), [], s.metrics⟩
  | .chainNodesMap =>
    match onlyMonitored t with
    | .error e => ⟨.badQuery e, [], s.metrics⟩
    | .ok monitored => ⟨.result (listNodes s.topology.chains monitored), [], s.metrics⟩
  | .chainInfo => serveChainInfo store s t
  | .repositories => ⟨.result (namesJson s.topology.repositories.keys), [], s.metrics⟩
  | .ping => ⟨.result (.string "pong"), [], s.metrics⟩

/-- Answers a request whose path is in the server's scope. -/
def serveScope (store : MetricStore) (s : LiveState) (method : String) (t : Target) : Served :=
  match Route.find? method t.decodedPath with
  | some route => serveRoute store s t route
  | none =>
    ⟨.failure .invalidEndpoint, [], s.metrics.increment (.invalidEndpoint method)⟩

/-- What a listener serves. -/
structure Offer where
  scope : Bool
  metrics : Bool
  deriving DecidableEq, Repr

/-- Answers a request. -/
def serve (offer : Offer) (store : MetricStore) (s : LiveState) (r : Request) : Served :=
  if offer.metrics && r.method = "GET" && r.target.decodedPath = "/metrics" then
    ⟨.metrics s.metrics, [], s.metrics⟩
  else if offer.scope && inScope r.target.decodedPath then serveScope store s r.method r.target
  else ⟨.notFound, [], s.metrics⟩

/-- Answers what is given as the texts of a request. -/
def serveTexts (offer : Offer) (store : MetricStore) (s : LiveState) (method uri : String) :
    Served :=
  match Request.ofTexts? method uri with
  | some r => serve offer store s r
  | none => ⟨.malformed, [], s.metrics⟩

end ChainDashboard.Http
