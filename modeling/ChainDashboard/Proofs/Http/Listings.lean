import ChainDashboard.Http.Server
import ChainDashboard.Proofs.Http.Encoding
import ChainDashboard.Proofs.Snapshot.Failures
import ChainDashboard.Proofs.Text.Trim
import ChainDashboard.Proofs.Topology.History

/-!
# Listings and snapshots agree

Clients learn of chains from two listings and ask for the snapshot of a chain by its name. The three
answers come from different views of the nodes. For every topology that documents lead to, and a
store that answers what it is asked, they agree (`listings_agree`): the listings of monitored chains
name the same chains, these are the ones that have a snapshot, and the snapshot has the nodes that
the listing has. No listed name is empty, so that every listed chain can be asked for.
-/

namespace ChainDashboard

/-! ## Names -/

/-- Maps with the same names list them in the same order. -/
theorem NameMap.keys_eq_of_mem {α β : Type} {a : NameMap α} {b : NameMap β}
    (h : ∀ name, name ∈ a.keys ↔ name ∈ b.keys) : a.keys = b.keys := by
  have same : a.mapValues (fun _ => ()) = b.mapValues (fun _ => ()) := by
    apply ext_find?
    intro name
    have listed := h name
    rw [mem_keys_iff, mem_keys_iff, ← Option.isSome_iff_exists, ← Option.isSome_iff_exists] at listed
    rw [find?_mapValues, find?_mapValues]
    cases left : a.find? name <;> cases right : b.find? name <;> simp_all
  rw [← keys_mapValues a fun _ => (), same, keys_mapValues]

theorem Record.ne_empty_of_require {r : Record} {name value : String}
    (h : r.require name = .ok value) : value ≠ "" := by
  rw [require] at h
  split at h
  · rename_i found
    cases h
    obtain ⟨raw, -, nonBlank⟩ := Option.bind_eq_some_iff.mp found
    exact (Text.trimmed_of_nonBlank? nonBlank).2
  · cases h

theorem Node.chain_ne_empty {r : Record} {n : Node} (h : Node.ofRecord r = .ok n) :
    n.chain ≠ "" := by
  rw [ofRecord] at h
  cases name : r.require "node_name" with
  | error e =>
    rw [name] at h
    cases h
  | ok nodeName =>
    cases chain : r.require "chain_name" with
    | error e =>
      rw [name, chain] at h
      cases h
    | ok chainName =>
      rw [name, chain] at h
      cases h
      exact Record.ne_empty_of_require chain

theorem ChainMap.mem_keys_ofNodes {nodes : List Node} {name : String}
    (h : name ∈ (ofNodes nodes).keys) : ∃ n ∈ nodes, n.chain = name := by
  induction nodes using List.reverseRecOn with
  | nil => cases h
  | append_singleton nodes n ih =>
    rw [ofNodes, List.foldl_append, List.foldl_cons, List.foldl_nil, NameMap.mem_keys_iff] at h
    obtain ⟨value, found⟩ := h
    rw [add, NameMap.find?_insert] at found
    split at found
    · rename_i same
      exact ⟨n, List.mem_append_right nodes List.mem_cons_self, same.symm⟩
    · obtain ⟨n', mem, chain⟩ := ih (NameMap.mem_keys_iff.mpr ⟨value, found⟩)
      exact ⟨n', List.mem_append_left _ mem, chain⟩

/-- Documents name no chain by the empty text. -/
theorem Topology.Reflects.chain_ne_empty {events : List DocumentEvent} {t : Topology}
    (h : t.Reflects events) {name : String} (listed : name ∈ t.chains.keys) : name ≠ "" := by
  rw [h.chains.loaded] at listed
  cases latest : (sinceCleared .userNodes events).head? with
  | none =>
    rw [latest] at listed
    cases listed
  | some d =>
    rw [latest] at listed
    obtain ⟨n, mem, rfl⟩ := ChainMap.mem_keys_ofNodes listed
    obtain ⟨r, -, made⟩ := List.mem_filterMap.mp mem
    cases read : Node.ofRecord r with
    | error e =>
      rw [read] at made
      cases made
    | ok n' =>
      rw [read] at made
      cases made
      exact Node.chain_ne_empty read

/-! ## Values of responses -/

namespace Json

/-- The names of an object's members. -/
def names : Json → List String
  | .object members => members.map (·.1)
  | .null | .string _ | .array _ => []

/-- The value of an object's member. -/
def member? (name : String) : Json → Option Json
  | .object members => NameMap.lookup name members
  | .null | .string _ | .array _ => none

variable {α : Type}

theorem names_ofMap (value : α → Json) (m : NameMap α) : (ofMap value m).names = m.keys := by
  rw [ofMap, names, List.map_map]
  rfl

theorem member?_ofMap (value : α → Json) (m : NameMap α) (name : String) :
    (ofMap value m).member? name = (m.find? name).map value :=
  NameMap.lookup_map (fun _ v => value v) name m.entries

end Json

/-! ## Snapshots -/

/-- The store replies to every request with as many values as it asks for. -/
def MetricStore.Fits (store : MetricStore) : Prop :=
  ∀ connection request, ∃ reply, store connection request = .ok reply ∧
    FetchedValues.fits request reply = true

/-- The snapshot of a listed chain has the chain's nodes, each with a monitor. -/
theorem SnapshotRun.ofChain_of_listed {store : MetricStore} (fits : store.Fits) {t : Topology}
    {connection : StoreConnection} {alerter chain : String} {nodes : NameMap Node}
    (connected : t.connection? = some connection) (known : t.main.alerter = some alerter)
    (listed : t.chains.monitoredNodes.find? chain = some nodes) :
    ∃ snapshot, (SnapshotRun.ofChain store chain t).result = .ok snapshot ∧
      snapshot.nodes.keys = nodes.keys ∧ snapshot.nodeMonitors.keys = nodes.keys := by
  simp only [ofChain, connected, known, SnapshotPlan.ofChain_of_monitored listed]
  generalize SnapshotTemplate.request _ _ = request
  obtain ⟨reply, replied, shape⟩ := fits connection request
  simp only [replied, finish, FetchedValues.zip, if_pos shape]
  refine ⟨_, rfl, ?_, ?_⟩
  · -- the template was made from the listed nodes, and resolving it keeps the names
    refine NameMap.keys_eq_of_mem fun name => ?_
    rw [NameMap.mem_keys_iff, SnapshotTemplate.resolve]
    simp only [find?_nodes_templateOf]
    by_cases mem : name ∈ nodes.keys <;> simp [mem]
  · refine NameMap.keys_eq_of_mem fun name => ?_
    rw [NameMap.mem_keys_iff, SnapshotTemplate.resolve]
    simp only [find?_nodeMonitors_templateOf]
    by_cases mem : name ∈ nodes.keys <;> simp [mem]

namespace Http

/-! ## Requests -/

/-- The response to a request on a route. -/
def answer (offer : Offer) (store : MetricStore) (s : LiveState) (r : Route) (query : String) :
    Response :=
  (serve offer store s ⟨r.method, ⟨r.path, query⟩⟩).response

theorem isPlain_path (r : Route) : isPlain r.path = true := by cases r <;> decide

/-- Where the server's scope is offered, requests on its routes are answered there. -/
theorem serve_route {offer : Offer} (offered : offer.scope = true) (store : MetricStore)
    (s : LiveState) (r : Route) (query : String) :
    serve offer store s ⟨r.method, ⟨r.path, query⟩⟩ = serveRoute store s ⟨r.path, query⟩ r := by
  have decoded : (Target.mk r.path query).decodedPath = r.path :=
    decodedPath_of_plain (isPlain_path r) query
  have noMetrics : r.path ≠ "/metrics" := by cases r <;> decide
  have inside : inScope r.path = true := by cases r <;> decide
  have found : Route.find? r.method r.path = some r := by cases r <;> decide
  simp [serve, decoded, noMetrics, offered, inside, serveScope, found]

/-- The query of a listing, with the flag that asks for monitored chains only, or without it. -/
def listingQuery : Option String → String
  | some flag => query "onlyIfMonitored" flag
  | none => ""

theorem onlyMonitored_listingQuery (path : String) (flag? : Option String) :
    onlyMonitored ⟨path, listingQuery flag?⟩ = .ok (flag?.any Flag.read) := by
  cases flag? with
  | none => rw [listingQuery, onlyMonitored, parameter_emptyQuery]; rfl
  | some flag => rw [listingQuery, onlyMonitored, parameter_query]; rfl

section Answers

variable {offer : Offer} (offered : offer.scope = true) (store : MetricStore) (s : LiveState)

include offered

theorem answer_chains (flag? : Option String) :
    answer offer store s .chains (listingQuery flag?) =
      .result (listChains s.topology.chains (flag?.any Flag.read)) := by
  rw [answer, serve_route offered, serveRoute, onlyMonitored_listingQuery]

theorem answer_chainNodesMap (flag? : Option String) :
    answer offer store s .chainNodesMap (listingQuery flag?) =
      .result (listNodes s.topology.chains (flag?.any Flag.read)) := by
  rw [answer, serve_route offered, serveRoute, onlyMonitored_listingQuery]

theorem answer_chainInfo {chain : String} (named : chain ≠ "") :
    answer offer store s .chainInfo (query "chainName" chain) =
      snapshotResponse (SnapshotRun.ofChain store chain s.topology) := by
  have given : (some chain).filter (fun name => decide (name ≠ "")) = some chain :=
    if_pos (decide_eq_true named)
  rw [answer, serve_route offered, serveRoute, serveChainInfo, parameter_query]
  simp only [given]

end Answers

/-! ## The agreement -/

/-- What the listings say. -/
structure ChainListings where
  monitored : List String
  monitoredNodes : Json
  all : List String
  allNodes : Json

/-- The snapshot shows these nodes, each with a monitor. -/
structure ShowsNodes (snapshot : Json) (names : List String) : Prop where
  nodes : (snapshot.member? "nodes").map Json.names = some names
  monitors : ((snapshot.member? "monitors").bind (Json.member? "node")).map Json.names = some names

/-- The listings are what is answered, and agree with each other and with the snapshots. -/
structure ChainListings.AgreeIn (l : ChainListings) (answer : Route → String → Response) : Prop where
  monitored_chains : ∀ flag?, flag?.any Flag.read = true →
    answer .chains (listingQuery flag?) = .result (namesJson l.monitored)
  monitored_map : ∀ flag?, flag?.any Flag.read = true →
    answer .chainNodesMap (listingQuery flag?) = .result l.monitoredNodes
  all_chains : ∀ flag?, flag?.any Flag.read = false →
    answer .chains (listingQuery flag?) = .result (namesJson l.all)
  all_map : ∀ flag?, flag?.any Flag.read = false →
    answer .chainNodesMap (listingQuery flag?) = .result l.allNodes
  monitored_names : l.monitoredNodes.names = l.monitored
  all_names : l.allNodes.names = l.all
  sublist : l.monitored.Sublist l.all
  answered : ∀ chain, chain ≠ "" →
    (chain ∈ l.monitored ↔ (answer .chainInfo (query "chainName" chain)).status = 200)
  shown : ∀ chain ∈ l.monitored, ∃ nodes snapshot, l.monitoredNodes.member? chain = some nodes ∧
    answer .chainInfo (query "chainName" chain) = .result snapshot ∧
    ShowsNodes snapshot nodes.names
  refused : ∀ chain, chain ≠ "" → chain ∉ l.monitored →
    answer .chainInfo (query "chainName" chain) =
      ⟨404, some "application/json", .json (.object [("error", .string "Chain not found")])⟩
  named : ∀ chain ∈ l.all, chain ≠ ""
  understood : ∀ chain ∈ l.all,
    answer .chainInfo (query "chainName" chain) ≠ .failure .missingArguments

/-- The listings of a map of chains. -/
def ChainListings.ofChains (chains : ChainMap) : ChainListings where
  monitored := chains.involvedChains
  monitoredNodes := listNodes chains true
  all := chains.keys
  allNodes := listNodes chains false

theorem showsNodes_toJson (snapshot : ChainSnapshot)
    (monitored : snapshot.nodeMonitors.keys = snapshot.nodes.keys) :
    ShowsNodes snapshot.toJson snapshot.nodes.keys where
  nodes := congrArg some (Json.names_ofMap ..)
  monitors := congrArg some ((Json.names_ofMap ..).trans monitored)

section Snapshots

variable {offer : Offer} (offered : offer.scope = true) (store : MetricStore) {s : LiveState}
  {connection : StoreConnection} {alerter chain : String}
  (connected : s.topology.connection? = some connection)
  (known : s.topology.main.alerter = some alerter) (nonempty : chain ≠ "")

include offered connected known nonempty

/-- A chain of the listing of monitored chains has a snapshot that shows its nodes, -/
theorem answer_chainInfo_of_mem (fits : store.Fits)
    (mem : chain ∈ s.topology.chains.involvedChains) :
    ∃ nodes snapshot, (listNodes s.topology.chains true).member? chain = some nodes ∧
      answer offer store s .chainInfo (query "chainName" chain) = .result snapshot ∧
      ShowsNodes snapshot nodes.names := by
  rw [← ChainMap.keys_monitoredNodes] at mem
  obtain ⟨nodes, found⟩ := NameMap.mem_keys_iff.mp mem
  obtain ⟨snapshot, built, shown, monitors⟩ :=
    SnapshotRun.ofChain_of_listed fits connected known found
  refine ⟨.ofMap nodeJson nodes, snapshot.toJson, ?_, ?_, ?_⟩
  · exact (Json.member?_ofMap ..).trans (congrArg (Option.map _) found)
  · rw [answer_chainInfo offered store s nonempty, snapshotResponse, built]
  · rw [Json.names_ofMap, ← shown]
    exact showsNodes_toJson snapshot (monitors.trans shown.symm)

/-- and no other chain has one. -/
theorem answer_chainInfo_of_notMem (absent : chain ∉ s.topology.chains.involvedChains) :
    answer offer store s .chainInfo (query "chainName" chain) = .failure .chainNotFound := by
  have missing : s.topology.chains.monitoredNodes.find? chain = none := by
    rw [Option.eq_none_iff_forall_ne_some]
    intro nodes found
    rw [← ChainMap.keys_monitoredNodes] at absent
    exact absent (NameMap.mem_keys_iff.mpr ⟨nodes, found⟩)
  rw [answer_chainInfo offered store s nonempty, snapshotResponse,
    SnapshotRun.ofChain_of_unlisted store connected known missing]
  rfl

end Snapshots

/-- What is answered in a state with a store that is set up. -/
theorem ChainListings.agreeIn {offer : Offer} (offered : offer.scope = true) {store : MetricStore}
    (fits : store.Fits) {s : LiveState} {connection : StoreConnection} {alerter : String}
    (connected : s.topology.connection? = some connection)
    (known : s.topology.main.alerter = some alerter)
    (named : ∀ chain ∈ s.topology.chains.keys, chain ≠ "") :
    (ofChains s.topology.chains).AgreeIn (answer offer store s) := by
  have sublist : s.topology.chains.involvedChains.Sublist s.topology.chains.keys :=
    ChainMap.sublist_keys_chainsWith ChainMap.isInvolved s.topology.chains
  have listed {chain : String} (nonempty : chain ≠ "") :=
    answer_chainInfo_of_mem offered store connected known nonempty fits
  have unlisted {chain : String} (nonempty : chain ≠ "") :=
    answer_chainInfo_of_notMem offered store connected known nonempty
  constructor
  case monitored_chains =>
    intro flag? truthy
    rw [answer_chains offered, truthy]
    rfl
  case monitored_map =>
    intro flag? truthy
    rw [answer_chainNodesMap offered, truthy]
    rfl
  case all_chains =>
    intro flag? falsy
    rw [answer_chains offered, falsy]
    rfl
  case all_map =>
    intro flag? falsy
    rw [answer_chainNodesMap offered, falsy]
    rfl
  case monitored_names => exact (Json.names_ofMap ..).trans (ChainMap.keys_monitoredNodes _)
  case all_names => exact Json.names_ofMap ..
  case sublist => exact sublist
  case answered =>
    intro chain nonempty
    by_cases mem : chain ∈ s.topology.chains.involvedChains
    · obtain ⟨nodes, snapshot, -, answered, -⟩ := listed nonempty mem
      exact iff_of_true mem (congrArg Response.status answered)
    · refine iff_of_false mem ?_
      rw [unlisted nonempty mem]
      decide
  case shown => exact fun chain mem => listed (named chain (sublist.subset mem)) mem
  case refused => exact fun chain nonempty absent => unlisted nonempty absent
  case named => exact named
  case understood =>
    intro chain mem misunderstood
    have rejected : (answer offer store s .chainInfo (query "chainName" chain)).status = 400 :=
      congrArg Response.status misunderstood
    by_cases monitored : chain ∈ s.topology.chains.involvedChains
    · obtain ⟨nodes, snapshot, -, answered, -⟩ := listed (named chain mem) monitored
      rw [answered] at rejected
      cases rejected
    · rw [unlisted (named chain mem) monitored] at rejected
      cases rejected

/-- **Listings and snapshots agree** in every state that a run of the loader leads to from the start,
if a store is set up there. -/
theorem listings_agree {offer : Offer} (offered : offer.scope = true) {store : MetricStore}
    (fits : store.Fits) (steps : List LoaderStep) {settings : StoreSettings} {index : Int64}
    {alerter : String}
    (configured : (LiveState.initial.afterSteps steps).topology.main.store = some settings)
    (enabled : settings.enabled = true)
    (indexed : (LiveState.initial.afterSteps steps).topology.storeIndex = some index)
    (known : (LiveState.initial.afterSteps steps).topology.main.alerter = some alerter) :
    ∃ listings : ChainListings,
      listings.AgreeIn (answer offer store (LiveState.initial.afterSteps steps)) := by
  have connected := Topology.connection?_of_enabled configured enabled indexed
  refine ⟨_, ChainListings.agreeIn offered fits connected known fun chain listed => ?_⟩
  rw [LiveState.topology_afterSteps] at listed
  exact (Topology.Reflects.run _).chain_ne_empty listed

theorem fits_ofTables (tables : StoreTables) : (MetricStore.ofTables tables).Fits :=
  fun _ request => ⟨tables.answer request, rfl, by simp [FetchedValues.fits, StoreTables.answer]⟩

/-- A chain with a monitored node and a source, and one that does not count. -/
theorem listings_agree_idleChain :
    let steps : List LoaderStep := [
      .reload .userMain (.document ((Document.empty.withSection "general"
        [("unique_alerter_identifier", "panic")]).withSection "redis"
        [("host", "localhost"), ("port", "6379")])),
      .reload .internalMain (.document (Document.empty.withSection "redis"
        [("redis_database", "10")])),
      .reload .userNodes (.document (((Document.empty.withSection "n1"
        [("node_name", "n1"), ("chain_name", "a & b"), ("monitor_node", "true")]).withSection "n2"
        [("node_name", "n2"), ("chain_name", "a & b"), ("use_as_data_source", "yes")]).withSection
        "n3" [("node_name", "n3"), ("chain_name", "idle")]))]
    let t := (LiveState.initial.afterSteps steps).topology
    let store := MetricStore.ofTables ⟨NameMap.empty, NameMap.empty⟩
    t.main.store = some ⟨true, "localhost", 6379, none⟩ ∧ t.storeIndex = some 10 ∧
      t.main.alerter = some "panic" ∧ t.chains.keys = ["a & b", "idle"] ∧
      t.chains.involvedChains = ["a & b"] ∧
      ∃ listings : ChainListings,
        listings.AgreeIn (answer ⟨true, false⟩ store (LiveState.initial.afterSteps steps)) := by
  intro steps t store
  have configured : t.main.store = some ⟨true, "localhost", 6379, none⟩ := by decide +kernel
  have indexed : t.storeIndex = some 10 := by decide +kernel
  have known : t.main.alerter = some "panic" := by decide +kernel
  refine ⟨configured, indexed, known, by decide +kernel, by decide +kernel, ?_⟩
  exact @listings_agree ⟨true, false⟩ rfl store (fits_ofTables _) steps _ _ _ configured rfl indexed
    known

end Http

end ChainDashboard
