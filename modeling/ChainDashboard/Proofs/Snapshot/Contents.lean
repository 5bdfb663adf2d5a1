import ChainDashboard.Proofs.Monitoring
import ChainDashboard.Proofs.Snapshot.RoundTrip
import ChainDashboard.Snapshot.Build

/-!
# What a snapshot says

The store is taken as two tables, one of plain keys and one of the fields of buckets. A monitored
chain's snapshot then says of each monitored node, of each monitor and of the chain exactly what
the tables hold under the key of that field (`monitored_chain_snapshot`), whatever the names of
chains and nodes are. A chain without a data source has the value of the sentinel in every field.
-/

namespace ChainDashboard

/-- A store that answers each plain key from one table and each field of a bucket from another. -/
def MetricStore.AnswersFrom (store : MetricStore) (flat : String → Option String)
    (hash : String → String → Option String) : Prop :=
  ∀ connection request, store connection request =
    .ok ⟨request.flatKeys.map flat, request.hashFields.map (hash request.hashKey)⟩

/-- The fields of a node with their tokens. -/
def SnapshotContents.nodeTokens : List (String × String) := [
  ("went_down_at", "n1"), ("bonded_balance", "n2"), ("is_syncing", "n3"), ("no_of_peers", "n4"),
  ("active", "n5"), ("council_member", "n6"), ("elected", "n7"), ("disabled", "n8"),
  ("no_of_blocks_authored", "n9"), ("time_of_last_block", "n10"), ("is_authoring", "n11"),
  ("time_of_last_block_check_activity", "n12"), ("time_of_last_height_check_activity", "n13"),
  ("time_of_last_height_change", "n14"), ("finalized_block_height", "n15"),
  ("no_change_in_height_warning_sent", "n16"), ("auth_index", "n17")]

/-- The fields of a node's monitor with their tokens. -/
def SnapshotContents.nodeMonitorTokens : List (String × String) :=
  [("alive", "nm1"), ("session_index", "nm2"), ("last_height_checked", "nm3")]

/-- The fields of a chain with their tokens. -/
def SnapshotContents.blockchainTokens : List (String × String) := [
  ("referendum_count", "bc1"), ("public_prop_count", "bc2"), ("council_prop_count", "bc3"),
  ("validator_set_size", "bc4")]

/-- Values of exactly these fields, each given by the token that stands with its field. -/
structure Reports (tokens : List (String × String)) (value : String → Option String)
    (fields : FieldValues) : Prop where
  at_field : ∀ f ∈ tokens, fields.find? f.1 = some (value f.2)
  only : ∀ name ∈ fields.keys, ∃ f ∈ tokens, f.1 = name

open SnapshotContents in
/-- What the snapshot of a chain says, given the two tables of the store. -/
structure SnapshotContents (m : ChainMap) (alerter chain : String)
    (flat : String → Option String) (hash : String → String → Option String)
    (s : ChainSnapshot) : Prop where
  node_names : ∀ name, name ∈ s.nodes.keys ↔ ∃ node, m.Monitored chain name node
  monitor_names : ∀ name, name ∈ s.nodeMonitors.keys ↔ ∃ node, m.Monitored chain name node
  node : ∀ name node, m.Monitored chain name node → ∃ n, s.nodes.find? name = some n ∧
    Reports nodeTokens (fun token => hash (alerter ++ ":hash_bc1_" ++ chain) (token ++ "_" ++ name))
      n.fields ∧
    n.validator = node.validator.getD "false"
  monitor : ∀ name node, m.Monitored chain name node →
    ∃ fields, s.nodeMonitors.find? name = some fields ∧
      Reports nodeMonitorTokens
        (fun token => flat (alerter ++ ":" ++ token ++ "_Node monitor (" ++ name ++ ")")) fields
  with_source : m.HasSource chain →
    Reports blockchainTokens
      (fun token => hash (alerter ++ ":hash_bc1_" ++ chain) (token ++ "_" ++ chain))
      s.blockchain ∧
    s.blockchainMonitors = NameMap.ofList [(chain, NameMap.ofList
      [("alive", flat (alerter ++ ":bcm1_Blockchain monitor (" ++ chain ++ ")"))])]
  without_source : ¬ m.HasSource chain →
    Reports blockchainTokens (fun _ => hash (alerter ++ ":hash_bc1_" ++ chain) "_dummy_key_")
      s.blockchain ∧
    s.blockchainMonitors = NameMap.empty

/-! ## Groups of fields -/

/-- The fields of a group with their tokens. -/
def KeyGroup.tokens (g : KeyGroup) : List (String × String) :=
  g.fields.map fun f => (f.name, f.token)

theorem KeyGroup.tokens_eq : tokens .node = SnapshotContents.nodeTokens ∧
    tokens .nodeMonitor = SnapshotContents.nodeMonitorTokens ∧
    tokens .blockchain = SnapshotContents.blockchainTokens :=
  ⟨rfl, rfl, rfl⟩

theorem Reports.congr {tokens : List (String × String)} {v w : String → Option String}
    {fields : FieldValues} (r : Reports tokens v fields) (h : ∀ token, v token = w token) :
    Reports tokens w fields :=
  funext h ▸ r

theorem KeyGroup.nodup_names (g : KeyGroup) : (g.fields.map (·.name)).Nodup := by
  cases g <;> decide

/-- Placeholders made from the tokens of a group, filled in, report the group. -/
theorem reports_mapValues (g : KeyGroup) (place : String → Placeholder)
    (value : Placeholder → Option String) :
    Reports g.tokens (fun token => value (place token))
      ((NameMap.ofList (g.fields.map fun f => (f.name, place f.token))).mapValues value) := by
  -- no field stands over another one of its name
  have distinct : ((g.fields.map fun f => (f.name, place f.token)).map (·.1)).Nodup := by
    rw [List.map_map]
    exact g.nodup_names
  constructor
  · intro _ listed
    obtain ⟨f, hf, rfl⟩ := List.mem_map.mp listed
    have held : (f.name, place f.token) ∈ g.fields.map fun f => (f.name, place f.token) :=
      List.mem_map.mpr ⟨f, hf, rfl⟩
    rw [NameMap.find?_mapValues, NameMap.find?_ofList_of_mem distinct held, Option.map_some]
  · intro name hname
    rw [NameMap.keys_mapValues] at hname
    obtain ⟨p, hp⟩ := NameMap.mem_keys_iff.mp hname
    obtain ⟨f, hf, same⟩ := List.mem_map.mp (NameMap.mem_of_find?_ofList hp)
    exact ⟨_, List.mem_map.mpr ⟨f, hf, rfl⟩, congrArg Prod.fst same⟩

theorem SnapshotPlan.placeholders_eq (g : KeyGroup) (alerter scope : String) :
    placeholders g alerter scope = NameMap.ofList
      (g.fields.map fun f => (f.name, ⟨g.lookup, g.key alerter f.token scope⟩)) := by
  rw [placeholders, KeyGroup.keys, List.map_map]
  rfl

/-- The placeholders of a group, filled in, report the values of the group's keys. -/
theorem reports_placeholders (g : KeyGroup) (alerter scope : String)
    (value : Placeholder → Option String) :
    Reports g.tokens (fun token => value ⟨g.lookup, g.key alerter token scope⟩)
      ((SnapshotPlan.placeholders g alerter scope).mapValues value) := by
  rw [SnapshotPlan.placeholders_eq]
  exact reports_mapValues g (fun token => ⟨g.lookup, g.key alerter token scope⟩) value

/-! ## The keys as texts -/

theorem KeyGroup.key_node (alerter token scope : String) :
    KeyGroup.node.key alerter token scope = token ++ "_" ++ scope :=
  (String.append_assoc ..).symm

theorem KeyGroup.key_blockchain (alerter token scope : String) :
    KeyGroup.blockchain.key alerter token scope = token ++ "_" ++ scope :=
  (String.append_assoc ..).symm

theorem KeyGroup.key_nodeMonitor (alerter token scope : String) :
    KeyGroup.nodeMonitor.key alerter token scope =
      alerter ++ ":" ++ token ++ "_Node monitor (" ++ scope ++ ")" := by
  show alerter ++ ":" ++ (token ++ ("_Node monitor (" ++ scope ++ ")")) = _
  simp only [String.append_assoc]

/-- The only key of a chain's monitor. -/
theorem KeyGroup.key_bcm1 (alerter chain : String) :
    KeyGroup.blockchainMonitor.key alerter "bcm1" chain =
      alerter ++ ":bcm1_Blockchain monitor (" ++ chain ++ ")" := by
  have joined : ":bcm1_Blockchain monitor (" = ":" ++ ("bcm1" ++ "_Blockchain monitor (") := rfl
  show alerter ++ ":" ++ ("bcm1" ++ ("_Blockchain monitor (" ++ chain ++ ")")) = _
  rw [joined]
  simp only [String.append_assoc]

theorem Bucket.ofChain_eq (alerter chain : String) :
    Bucket.ofChain alerter chain = alerter ++ ":hash_bc1_" ++ chain := by
  show alerter ++ ":" ++ "hash_bc1" ++ "_" ++ chain = _
  have joined : ":hash_bc1_" = ":" ++ ("hash_bc1" ++ "_") := rfl
  rw [joined]
  simp only [String.append_assoc]

/-! ## Filling in a chain's template -/

/-- The value of a placeholder in the two tables, for a chain of the alerter. -/
def Placeholder.valueIn (alerter chain : String) (flat : String → Option String)
    (hash : String → String → Option String) (p : Placeholder) : Option String :=
  match p.lookup with
  | .flat => flat p.key
  | .hash => hash (Bucket.ofChain alerter chain) p.key

section Template

variable (value : Placeholder → Option String) (alerter chain : String) (source : Bool)
  (nodes : NameMap Node)

theorem find?_nodes_templateOf (name : String) :
    (((SnapshotPlan.templateOf alerter chain source nodes).fill value).withValidators
      nodes).nodes.find? name =
      if name ∈ nodes.keys then
        some ⟨(SnapshotPlan.placeholders .node alerter name).mapValues value,
          ((nodes.find? name).bind (·.validator)).getD "false"⟩
      else none := by
  simp only [ChainSnapshot.withValidators, SnapshotTemplate.fill, SnapshotPlan.templateOf,
    NameMap.find?_mapEntries, NameMap.find?_mapValues, NameMap.find?_ofList_map]
  split <;> rfl

theorem find?_nodeMonitors_templateOf (name : String) :
    (((SnapshotPlan.templateOf alerter chain source nodes).fill value).withValidators
      nodes).nodeMonitors.find? name =
      if name ∈ nodes.keys then
        some ((SnapshotPlan.placeholders .nodeMonitor alerter name).mapValues value)
      else none := by
  simp only [ChainSnapshot.withValidators, SnapshotTemplate.fill, SnapshotPlan.templateOf,
    NameMap.find?_mapValues, NameMap.find?_ofList_map]
  split <;> rfl

theorem blockchain_templateOf_source :
    Reports KeyGroup.blockchain.tokens
      (fun token => value ⟨.hash, KeyGroup.blockchain.key alerter token chain⟩)
      ((SnapshotPlan.templateOf alerter chain true nodes).fill value).blockchain :=
  reports_placeholders .blockchain alerter chain value

theorem blockchain_templateOf_noSource :
    Reports KeyGroup.blockchain.tokens (fun _ => value ⟨.hash, Bucket.sentinel⟩)
      ((SnapshotPlan.templateOf alerter chain false nodes).fill value).blockchain :=
  reports_mapValues .blockchain (fun _ => ⟨.hash, Bucket.sentinel⟩) value

theorem blockchainMonitors_templateOf_source :
    ((SnapshotPlan.templateOf alerter chain true nodes).fill value).blockchainMonitors =
      NameMap.ofList [(chain, NameMap.ofList
        [("alive", value ⟨.flat, KeyGroup.blockchainMonitor.key alerter "bcm1" chain⟩)])] :=
  rfl

end Template

/-- The filled template of a monitored chain says what the tables hold. -/
theorem contents_templateOf {m : ChainMap} {chain : String} {nodes : NameMap Node}
    (h : m.monitoredNodes.find? chain = some nodes) (alerter : String)
    (flat : String → Option String) (hash : String → String → Option String) :
    SnapshotContents m alerter chain flat hash
      (((SnapshotPlan.templateOf alerter chain (m.monitoredChains.contains chain) nodes).fill
        (Placeholder.valueIn alerter chain flat hash)).withValidators nodes) where
  node_names name := by
    rw [NameMap.mem_keys_iff, ← ChainMap.mem_keys_of_monitoredNodes h]
    simp only [find?_nodes_templateOf]
    by_cases listed : name ∈ nodes.keys <;> simp [listed]
  monitor_names name := by
    rw [NameMap.mem_keys_iff, ← ChainMap.mem_keys_of_monitoredNodes h]
    simp only [find?_nodeMonitors_templateOf]
    by_cases listed : name ∈ nodes.keys <;> simp [listed]
  node name node held := by
    have listed : name ∈ nodes.keys := (ChainMap.mem_keys_of_monitoredNodes h).mpr ⟨node, held⟩
    have found : nodes.find? name = some node :=
      (ChainMap.find?_eq_some_of_monitoredNodes h).mpr held
    refine ⟨_, (find?_nodes_templateOf ..).trans (if_pos listed), ?_, ?_⟩
    · -- the alerter is in the name of the bucket, not in the key
      have reports := reports_placeholders .node alerter name
        (Placeholder.valueIn alerter chain flat hash)
      rw [KeyGroup.tokens_eq.1] at reports
      refine reports.congr fun token => ?_
      rw [KeyGroup.key_node, ← Bucket.ofChain_eq]
      rfl
    · rw [found, Option.bind_some]
  monitor name node held := by
    have listed : name ∈ nodes.keys := (ChainMap.mem_keys_of_monitoredNodes h).mpr ⟨node, held⟩
    refine ⟨_, (find?_nodeMonitors_templateOf ..).trans (if_pos listed), ?_⟩
    have reports := reports_placeholders .nodeMonitor alerter name
      (Placeholder.valueIn alerter chain flat hash)
    rw [KeyGroup.tokens_eq.2.1] at reports
    refine reports.congr fun token => ?_
    rw [KeyGroup.key_nodeMonitor]
    rfl
  with_source source := by
    have counted : m.monitoredChains.contains chain = true :=
      List.contains_iff_mem.mpr (ChainMap.mem_monitoredChains.mpr source)
    rw [counted]
    constructor
    · have reports := blockchain_templateOf_source
        (Placeholder.valueIn alerter chain flat hash) alerter chain nodes
      rw [KeyGroup.tokens_eq.2.2] at reports
      refine reports.congr fun token => ?_
      rw [KeyGroup.key_blockchain, ← Bucket.ofChain_eq]
      rfl
    · refine (blockchainMonitors_templateOf_source
        (Placeholder.valueIn alerter chain flat hash) alerter chain nodes).trans ?_
      rw [KeyGroup.key_bcm1]
      rfl
  without_source noSource := by
    have uncounted : m.monitoredChains.contains chain = false := by
      rw [← Bool.not_eq_true, List.contains_iff_mem, ChainMap.mem_monitoredChains]
      exact noSource
    rw [uncounted]
    constructor
    · have reports := blockchain_templateOf_noSource
        (Placeholder.valueIn alerter chain flat hash) alerter chain nodes
      rw [KeyGroup.tokens_eq.2.2] at reports
      refine reports.congr fun _ => ?_
      rw [← Bucket.ofChain_eq]
      rfl
    · rfl

/-! ## Building -/

theorem SnapshotPlan.ofChain_of_monitored {t : Topology} {chain : String} {nodes : NameMap Node}
    (h : t.chains.monitoredNodes.find? chain = some nodes) (alerter : String) :
    SnapshotPlan.ofChain chain t alerter =
      .ok ⟨templateOf alerter chain (t.chains.monitoredChains.contains chain) nodes,
        (templateOf alerter chain (t.chains.monitoredChains.contains chain) nodes).request
          (Bucket.ofChain alerter chain), nodes⟩ := by
  rw [SnapshotPlan.ofChain, h]

theorem SnapshotRun.finish_answeredBy (template : SnapshotTemplate) (hashKey : String)
    (nodes : NameMap Node) (value : Placeholder → Option String) :
    finish ⟨template, template.request hashKey, nodes⟩
        (.ok ((template.request hashKey).answeredBy value)) =
      .ok ((template.fill value).withValidators nodes) := by
  simp only [finish, FetchedValues.zip_answeredBy, FetchedValues.resolve_ofAnswer]

theorem Topology.connection?_of_enabled {t : Topology} {settings : StoreSettings} {index : Int64}
    (configured : t.main.store = some settings) (enabled : settings.enabled = true)
    (indexed : t.storeIndex = some index) :
    t.connection? = some ⟨settings.host, settings.port, settings.password, index⟩ := by
  rw [connection?, configured, indexed]
  exact if_pos enabled

/-- **End to end**: with the store set up, the alerter known and the chain monitored there is a
snapshot, and it says what the store's tables hold. -/
theorem monitored_chain_snapshot {store : MetricStore} {flat : String → Option String}
    {hash : String → String → Option String} (answers : store.AnswersFrom flat hash)
    {t : Topology} {settings : StoreSettings} {index : Int64} {alerter chain : String}
    (configured : t.main.store = some settings) (enabled : settings.enabled = true)
    (indexed : t.storeIndex = some index) (known : t.main.alerter = some alerter)
    (listed : chain ∈ t.chains.monitoredNodes.keys) :
    ∃ s, (SnapshotRun.ofChain store chain t).result = .ok s ∧
      SnapshotContents t.chains alerter chain flat hash s := by
  obtain ⟨nodes, held⟩ := NameMap.mem_keys_iff.mp listed
  refine ⟨_, ?_, contents_templateOf held alerter flat hash⟩
  simp only [SnapshotRun.ofChain, Topology.connection?_of_enabled configured enabled indexed,
    known, SnapshotPlan.ofChain_of_monitored held, answers _ _]
  exact SnapshotRun.finish_answeredBy _ _ nodes (Placeholder.valueIn alerter chain flat hash)

/-- A chain with a node of its own name, which is monitored, and a source named like a key. -/
def twinNames : Topology :=
  { Topology.initial with
    chains := .ofNodes
      [(Node.new "c" "c").withMonitored true, (Node.new "n1_c" "c").withDataSource true]
    main := ⟨some "a", some ⟨true, "h", 6379, none⟩⟩
    storeIndex := some 10 }

/-- The tables of a store that has values under keys of equal names. -/
def twinTables : StoreTables :=
  ⟨.ofList [("a:nm1_Node monitor (c)", "up"), ("a:bcm1_Blockchain monitor (c)", "down")],
    .ofList [("a:hash_bc1_c", .ofList [("n1_c", "node"), ("bc1_c", "chain")])]⟩

theorem monitored_chain_snapshot_twinNames :
    "c" ∈ twinNames.chains.monitoredNodes.keys ∧
      ∃ s, (SnapshotRun.ofChain (.ofTables twinTables) "c" twinNames).result = .ok s ∧
        SnapshotContents twinNames.chains "a" "c" twinTables.flat.find? twinTables.field? s ∧
        "n1_c" ∉ s.nodes.keys ∧
        (∃ n, s.nodes.find? "c" = some n ∧ n.fields.find? "went_down_at" = some (some "node") ∧
          n.fields.find? "bonded_balance" = some none ∧ n.validator = "false") ∧
        (∃ monitor, s.nodeMonitors.find? "c" = some monitor ∧
          monitor.find? "alive" = some (some "up")) ∧
        s.blockchain.find? "referendum_count" = some (some "chain") ∧
        s.blockchainMonitors = .ofList [("c", .ofList [("alive", some "down")])] := by
  have listed : "c" ∈ twinNames.chains.monitoredNodes.keys := by decide
  have answers : (MetricStore.ofTables twinTables).AnswersFrom twinTables.flat.find?
      twinTables.field? := fun _ _ => rfl
  obtain ⟨s, built, contents⟩ :=
    monitored_chain_snapshot answers (t := twinNames) rfl rfl rfl rfl listed
  have node : twinNames.chains.Monitored "c" "c" ((Node.new "c" "c").withMonitored true) :=
    ⟨by decide, rfl⟩
  have source : twinNames.chains.HasSource "c" :=
    ⟨"n1_c", (Node.new "n1_c" "c").withDataSource true, by decide⟩
  obtain ⟨n, found, fields, validator⟩ := contents.node _ _ node
  obtain ⟨monitor, found', fields'⟩ := contents.monitor _ _ node
  obtain ⟨blockchain, monitors⟩ := contents.with_source source
  refine ⟨listed, s, built, contents, ?_, ⟨n, found, ?_, ?_, validator⟩, ⟨monitor, found', ?_⟩, ?_,
    monitors⟩
  · rw [contents.node_names]
    rintro ⟨other, present, monitored⟩
    cases present
    cases monitored
  · exact fields.at_field ("went_down_at", "n1") (by decide)
  · exact fields.at_field ("bonded_balance", "n2") (by decide)
  · exact fields'.at_field ("alive", "nm1") (by decide)
  · exact blockchain.at_field ("referendum_count", "bc1") (by decide)

end ChainDashboard
