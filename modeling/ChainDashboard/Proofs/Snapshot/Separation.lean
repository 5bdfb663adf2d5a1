import ChainDashboard.Proofs.KeySchema
import ChainDashboard.Proofs.Snapshot.Contents

/-!
# What the snapshots of two chains have in common

A plan asks for the fields of its chain and of the chain's monitored nodes, and of the monitors of
both (`mentions_templateOf`). Fields lie in the bucket of the chain, so two chains have none in
common. Monitors have plain keys that name the node but not its chain: where a node name is
monitored in two chains, both read the same keys, and these are all that they share
(`shared_places`).
-/

namespace ChainDashboard

/-! ## What a plan asks for -/

namespace SnapshotPlan

/-- The fields of the group are asked for, about the chain or node `scope`. -/
def AsksAbout (chain : String) (source : Bool) (nodes : NameMap Node) (g : KeyGroup)
    (scope : String) : Prop :=
  match g with
  | .node | .nodeMonitor => scope ∈ nodes.keys
  | .blockchain | .blockchainMonitor => source = true ∧ scope = chain

/-- Placeholders made from the tokens of a group are those of its fields. -/
theorem exists_find?_ofFields (g : KeyGroup) (place : String → Placeholder) {p : Placeholder} :
    (∃ field, (NameMap.ofList (g.fields.map fun f => (f.name, place f.token))).find? field =
      some p) ↔ ∃ f ∈ g.fields, p = place f.token := by
  constructor
  · rintro ⟨field, found⟩
    obtain ⟨f, hf, same⟩ := List.mem_map.mp (NameMap.mem_of_find?_ofList found)
    exact ⟨f, hf, (congrArg Prod.snd same).symm⟩
  · rintro ⟨f, hf, rfl⟩
    refine ⟨f.name, NameMap.find?_ofList_of_mem ?_ (List.mem_map.mpr ⟨f, hf, rfl⟩)⟩
    rw [List.map_map]
    exact g.nodup_names

/-- The placeholders of a group for each of some names. -/
theorem exists_find?_ofNames (g : KeyGroup) (alerter : String) (names : List String)
    {p : Placeholder} :
    (∃ name fields field, (NameMap.ofList (names.map fun n => (n, placeholders g alerter n))).find?
      name = some fields ∧ fields.find? field = some p) ↔
    ∃ name ∈ names, ∃ f ∈ g.fields, p = ⟨g.lookup, g.key alerter f.token name⟩ := by
  have group (name : String) :=
    exists_find?_ofFields g (fun token => ⟨g.lookup, g.key alerter token name⟩) (p := p)
  simp only [← placeholders_eq] at group
  simp only [NameMap.find?_ofList_map, ← group]
  constructor
  · rintro ⟨name, fields, field, part, found⟩
    split at part
    · rename_i mem
      cases part
      exact ⟨name, mem, field, found⟩
    · cases part
  · rintro ⟨name, mem, field, found⟩
    exact ⟨name, _, field, if_pos mem, found⟩

section Template

variable {alerter chain : String} {source : Bool} {nodes : NameMap Node} {p : Placeholder}

theorem exists_find?_blockchain :
    (∃ field, (templateOf alerter chain source nodes).blockchain.find? field = some p) ↔
      (source = false ∧ p = ⟨.hash, Bucket.sentinel⟩) ∨ (source = true ∧
        ∃ f ∈ KeyGroup.blockchain.fields,
          p = ⟨KeyGroup.blockchain.lookup, KeyGroup.blockchain.key alerter f.token chain⟩) := by
  cases source with
  | false =>
    have unknown := exists_find?_ofFields .blockchain (fun _ => ⟨Lookup.hash, Bucket.sentinel⟩)
      (p := p)
    refine unknown.trans ⟨?_, ?_⟩
    · rintro ⟨f, hf, rfl⟩
      exact .inl ⟨rfl, rfl⟩
    · rintro (⟨-, rfl⟩ | ⟨known, -⟩)
      · exact ⟨⟨"referendum_count", "bc1"⟩, .head _, rfl⟩
      · cases known
  | true =>
    have known := exists_find?_ofFields .blockchain
      (fun token => ⟨KeyGroup.blockchain.lookup, KeyGroup.blockchain.key alerter token chain⟩)
      (p := p)
    rw [← placeholders_eq] at known
    simpa [templateOf] using known

theorem exists_find?_blockchainMonitors :
    (∃ name fields field,
      (templateOf alerter chain source nodes).blockchainMonitors.find? name = some fields ∧
        fields.find? field = some p) ↔
      source = true ∧ ∃ f ∈ KeyGroup.blockchainMonitor.fields,
        p = ⟨KeyGroup.blockchainMonitor.lookup,
          KeyGroup.blockchainMonitor.key alerter f.token chain⟩ := by
  cases source with
  | false => simp [templateOf]
  | true =>
    have known := exists_find?_ofNames .blockchainMonitor alerter [chain] (p := p)
    simpa [templateOf] using known

/-- The placeholders of a chain's template: those of the fields that it asks about, and the sentinel
of a chain without a data source. -/
theorem mentions_templateOf : (templateOf alerter chain source nodes).Mentions p ↔
    (source = false ∧ p = ⟨.hash, Bucket.sentinel⟩) ∨
    ∃ g scope, AsksAbout chain source nodes g scope ∧
      ∃ f ∈ g.fields, p = ⟨g.lookup, g.key alerter f.token scope⟩ := by
  have node := exists_find?_ofNames .node alerter nodes.keys (p := p)
  have nodeMonitor := exists_find?_ofNames .nodeMonitor alerter nodes.keys (p := p)
  constructor
  · rintro (found | ⟨parts, part, found⟩)
    · rcases exists_find?_blockchain.mp found with sentinel | ⟨known, f, hf, rfl⟩
      · exact .inl sentinel
      · exact .inr ⟨.blockchain, chain, ⟨known, rfl⟩, f, hf, rfl⟩
    · simp only [List.mem_cons, List.not_mem_nil, or_false] at part
      rcases part with rfl | rfl | rfl
      · obtain ⟨name, listed, f, hf, rfl⟩ := node.mp found
        exact .inr ⟨.node, name, listed, f, hf, rfl⟩
      · obtain ⟨known, f, hf, rfl⟩ := exists_find?_blockchainMonitors.mp found
        exact .inr ⟨.blockchainMonitor, chain, ⟨known, rfl⟩, f, hf, rfl⟩
      · obtain ⟨name, listed, f, hf, rfl⟩ := nodeMonitor.mp found
        exact .inr ⟨.nodeMonitor, name, listed, f, hf, rfl⟩
  · rintro (sentinel | ⟨g, scope, asked, f, hf, rfl⟩)
    · exact .inl (exists_find?_blockchain.mpr (.inl sentinel))
    · cases g with
      | node => exact .inr ⟨_, .head _, node.mpr ⟨scope, asked, f, hf, rfl⟩⟩
      | nodeMonitor =>
        exact .inr ⟨_, .tail _ (.tail _ (.head _)), nodeMonitor.mpr ⟨scope, asked, f, hf, rfl⟩⟩
      | blockchain =>
        obtain ⟨known, rfl⟩ := asked
        exact .inl (exists_find?_blockchain.mpr (.inr ⟨known, f, hf, rfl⟩))
      | blockchainMonitor =>
        obtain ⟨known, rfl⟩ := asked
        exact .inr ⟨_, .tail _ (.head _),
          exists_find?_blockchainMonitors.mpr ⟨known, f, hf, rfl⟩⟩

end Template

end SnapshotPlan

/-! ## Places in the store -/

/-- A place where the store keeps a value. -/
inductive StorePlace where
  | key (key : String)
  | field (bucket name : String)
  deriving DecidableEq

/-- The place of a placeholder whose chain has the given bucket. -/
def Placeholder.place (bucket : String) (p : Placeholder) : StorePlace :=
  match p.lookup with
  | .flat => .key p.key
  | .hash => .field bucket p.key

namespace StoreRequest

/-- The request reads the place. -/
def Reads (r : StoreRequest) : StorePlace → Prop
  | .key key => key ∈ r.flatKeys
  | .field bucket name => bucket = r.hashKey ∧ name ∈ r.hashFields

/-- The reply of a store with the given contents. -/
def answeredFrom (contents : StorePlace → Option String) (r : StoreRequest) : StoreReply :=
  ⟨r.flatKeys.map fun key => contents (.key key),
    r.hashFields.map fun name => contents (.field r.hashKey name)⟩

/-- What is kept at other places does not show. -/
theorem answeredFrom_congr {r : StoreRequest} {before after : StorePlace → Option String}
    (same : ∀ place, r.Reads place → before place = after place) :
    r.answeredFrom before = r.answeredFrom after := by
  rw [answeredFrom, answeredFrom, List.map_congr_left fun key mem => same (.key key) mem,
    List.map_congr_left fun name mem => same (.field r.hashKey name) ⟨rfl, mem⟩]

end StoreRequest

theorem SnapshotTemplate.reads_request {t : SnapshotTemplate} {bucket : String}
    {place : StorePlace} :
    (t.request bucket).Reads place ↔ ∃ p, t.Mentions p ∧ p.place bucket = place := by
  cases place with
  | key key =>
    refine mem_keysOf_placeholders.trans ⟨fun h => ⟨_, h, rfl⟩, ?_⟩
    rintro ⟨⟨lookup, key⟩, mentioned, same⟩
    cases lookup <;> cases same
    exact mentioned
  | field other name =>
    constructor
    · rintro ⟨rfl, mem⟩
      exact ⟨_, mem_keysOf_placeholders.mp mem, rfl⟩
    · rintro ⟨⟨lookup, key⟩, mentioned, same⟩
      cases lookup <;> cases same
      exact ⟨rfl, mem_keysOf_placeholders.mpr mentioned⟩

/-! ## Two chains -/

/-- Placeholders of chains with different buckets have the same place only if they are one and the
same, with a plain key. -/
theorem Placeholder.eq_of_place {p q : Placeholder} {bucket other : String}
    (different : bucket ≠ other) (same : p.place bucket = q.place other) :
    p = q ∧ p.lookup = .flat := by
  obtain ⟨lookup, key⟩ := p
  obtain ⟨lookup', key'⟩ := q
  cases lookup <;> cases lookup' <;> cases same
  · exact ⟨rfl, rfl⟩
  · exact absurd rfl different

namespace SnapshotPlan

variable {t : Topology} {chain alerter : String} {plan : SnapshotPlan}
  (planned : ofChain chain t alerter = .ok plan)

include planned

/-- What a plan is made of. -/
theorem parts_of_planned : t.chains.monitoredNodes.find? chain = some plan.nodes ∧
    plan.template =
      templateOf alerter chain (t.chains.monitoredChains.contains chain) plan.nodes ∧
    plan.request = plan.template.request (Bucket.ofChain alerter chain) := by
  cases listed : t.chains.monitoredNodes.find? chain with
  | none =>
    simp only [ofChain, listed] at planned
    cases planned
  | some nodes =>
    rw [ofChain_of_monitored listed] at planned
    cases planned
    exact ⟨rfl, rfl, rfl⟩

theorem hashKey_planned : plan.request.hashKey = Bucket.ofChain alerter chain := by
  rw [(parts_of_planned planned).2.2, SnapshotTemplate.request]

theorem mem_keys_nodes {name : String} :
    name ∈ plan.nodes.keys ↔ ∃ node, t.chains.Monitored chain name node :=
  ChainMap.mem_keys_of_monitoredNodes (parts_of_planned planned).1

theorem reads_planned {place : StorePlace} :
    plan.request.Reads place ↔ ∃ p, (templateOf alerter chain
      (t.chains.monitoredChains.contains chain) plan.nodes).Mentions p ∧
        p.place (Bucket.ofChain alerter chain) = place := by
  obtain ⟨-, template, request⟩ := parts_of_planned planned
  rw [request, template]
  exact SnapshotTemplate.reads_request

end SnapshotPlan

/-- The key of a monitor of a node whose name is monitored in both chains. -/
def SharedMonitor (m : ChainMap) (alerter chain other key : String) : Prop :=
  ∃ name, (∃ node, m.Monitored chain name node) ∧ (∃ node, m.Monitored other name node) ∧
    ∃ token ∈ ["nm1", "nm2", "nm3"],
      key = alerter ++ ":" ++ token ++ "_Node monitor (" ++ name ++ ")"

section Chains

variable {t : Topology} {alerter chain other : String} (different : chain ≠ other)
  {plan plan' : SnapshotPlan} (planned : SnapshotPlan.ofChain chain t alerter = .ok plan)
  (planned' : SnapshotPlan.ofChain other t alerter = .ok plan')

include different planned planned'

/-- The places that are read for both chains are the monitors of nodes of the same name. -/
theorem shared_places {place : StorePlace} :
    plan.request.Reads place ∧ plan'.request.Reads place ↔
      ∃ key, place = .key key ∧ SharedMonitor t.chains alerter chain other key := by
  rw [SnapshotPlan.reads_planned planned, SnapshotPlan.reads_planned planned']
  constructor
  · rintro ⟨⟨p, mentioned, rfl⟩, q, mentioned', same⟩
    have buckets : Bucket.ofChain alerter chain ≠ Bucket.ofChain alerter other :=
      mt Bucket.ofChain_inj different
    obtain ⟨rfl, plain⟩ := Placeholder.eq_of_place buckets same.symm
    rcases SnapshotPlan.mentions_templateOf.mp mentioned with ⟨-, rfl⟩ | ⟨g, x, asked, f, hf, rfl⟩
    · cases plain
    rcases SnapshotPlan.mentions_templateOf.mp mentioned' with
      ⟨-, same⟩ | ⟨h, y, asked', k, hk, same⟩
    · exact absurd (plain.symm.trans (congrArg Placeholder.lookup same)) nofun
    obtain ⟨alike, keys⟩ := Placeholder.mk.inj same
    obtain ⟨rfl, -, rfl⟩ := KeyGroup.key_inj hf hk alike keys
    cases g with
    | node | blockchain => cases plain
    | blockchainMonitor => exact absurd (asked.2.symm.trans asked'.2) different
    | nodeMonitor =>
      refine ⟨_, rfl, x, (SnapshotPlan.mem_keys_nodes planned).mp asked,
        (SnapshotPlan.mem_keys_nodes planned').mp asked', f.token, ?_, KeyGroup.key_nodeMonitor ..⟩
      exact List.mem_map_of_mem hf
  · rintro ⟨key, rfl, name, monitored, monitored', token, listed, rfl⟩
    obtain ⟨f, hf, rfl⟩ : ∃ f ∈ KeyGroup.nodeMonitor.fields, f.token = token :=
      List.mem_map.mp listed
    rw [← KeyGroup.key_nodeMonitor]
    exact ⟨⟨_, SnapshotPlan.mentions_templateOf.mpr (.inr ⟨.nodeMonitor, name,
        (SnapshotPlan.mem_keys_nodes planned).mpr monitored, f, hf, rfl⟩), rfl⟩,
      ⟨_, SnapshotPlan.mentions_templateOf.mpr (.inr ⟨.nodeMonitor, name,
        (SnapshotPlan.mem_keys_nodes planned').mpr monitored', f, hf, rfl⟩), rfl⟩⟩

end Chains

/-- **What two chains share**: no field of a bucket, and of the plain keys exactly the monitors of
nodes whose name both chains monitor. What is written to another place of one chain leaves the
snapshot of the other as it is. -/
theorem chains_share_only_node_monitors {t : Topology} {alerter chain other : String}
    (different : chain ≠ other) {plan plan' : SnapshotPlan}
    (planned : SnapshotPlan.ofChain chain t alerter = .ok plan)
    (planned' : SnapshotPlan.ofChain other t alerter = .ok plan') :
    (∀ name ∈ plan.request.hashFields, ∀ name' ∈ plan'.request.hashFields,
      (plan.request.hashKey, name) ≠ (plan'.request.hashKey, name')) ∧
    (∀ key, key ∈ plan.request.flatKeys ∧ key ∈ plan'.request.flatKeys ↔
      SharedMonitor t.chains alerter chain other key) ∧
    ∀ before after : StorePlace → Option String,
      (∀ place, before place ≠ after place → plan.request.Reads place ∧
        ∀ key, SharedMonitor t.chains alerter chain other key → place ≠ .key key) →
      SnapshotRun.finish plan' (.ok (plan'.request.answeredFrom before)) =
        SnapshotRun.finish plan' (.ok (plan'.request.answeredFrom after)) := by
  refine ⟨?_, ?_, ?_⟩
  · intro name _ name' _ same
    rw [SnapshotPlan.hashKey_planned planned, SnapshotPlan.hashKey_planned planned'] at same
    exact different (Bucket.ofChain_inj (congrArg Prod.fst same))
  · intro key
    show plan.request.Reads (.key key) ∧ plan'.request.Reads (.key key) ↔ _
    refine (shared_places different planned planned').trans ⟨?_, ?_⟩
    · rintro ⟨_, same, shared⟩
      cases same
      exact shared
    · intro shared
      exact ⟨key, rfl, shared⟩
  · intro before after written
    rw [StoreRequest.answeredFrom_congr]
    intro place reads
    by_cases same : before place = after place
    · exact same
    · obtain ⟨reads', unshared⟩ := written place same
      obtain ⟨key, here, shared⟩ := (shared_places different planned planned').mp ⟨reads', reads⟩
      exact absurd here (unshared key shared)

/-- Two chains with a node of the same name, which both monitor. -/
def sameNode : Topology :=
  { Topology.initial with
    chains := .ofNodes
      [(Node.new "n" "c").withMonitored true, (Node.new "n" "d").withMonitored true,
        (Node.new "m" "d").withDataSource true] }

theorem chains_share_only_node_monitors_sameNode :
    "c" ≠ "d" ∧ ∃ plan plan',
      SnapshotPlan.ofChain "c" sameNode "a" = .ok plan ∧
      SnapshotPlan.ofChain "d" sameNode "a" = .ok plan' ∧
      (∀ name ∈ plan.request.hashFields, ∀ name' ∈ plan'.request.hashFields,
        (plan.request.hashKey, name) ≠ (plan'.request.hashKey, name')) ∧
      (∀ key, key ∈ plan.request.flatKeys ∧ key ∈ plan'.request.flatKeys ↔
        SharedMonitor sameNode.chains "a" "c" "d" key) ∧
      ∀ before after : StorePlace → Option String,
        (∀ place, before place ≠ after place → plan.request.Reads place ∧
          ∀ key, SharedMonitor sameNode.chains "a" "c" "d" key → place ≠ .key key) →
        SnapshotRun.finish plan' (.ok (plan'.request.answeredFrom before)) =
          SnapshotRun.finish plan' (.ok (plan'.request.answeredFrom after)) :=
  have different : "c" ≠ "d" := by decide
  ⟨different, _, _, rfl, rfl, chains_share_only_node_monitors different rfl rfl⟩

/-- So the keys of two chains need not be disjoint. -/
theorem same_node_shares_keys :
    ¬ ∀ (t : Topology) (alerter chain other : String) (plan plan' : SnapshotPlan), chain ≠ other →
      SnapshotPlan.ofChain chain t alerter = .ok plan →
      SnapshotPlan.ofChain other t alerter = .ok plan' →
      (∀ name ∈ plan.request.hashFields, ∀ name' ∈ plan'.request.hashFields,
        (plan.request.hashKey, name) ≠ (plan'.request.hashKey, name')) ∧
      ∀ key ∈ plan.request.flatKeys, key ∉ plan'.request.flatKeys := by
  intro disjoint
  exact (disjoint sameNode "a" "c" "d" _ _ (by decide) rfl rfl).2 "a:nm1_Node monitor (n)"
    (by decide +kernel) (by decide +kernel)

end ChainDashboard
