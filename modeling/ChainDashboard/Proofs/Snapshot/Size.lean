import ChainDashboard.Proofs.Snapshot.Request
import ChainDashboard.Proofs.Snapshot.Separation

/-!
# The size of a read

A plan asks about its chain and about each monitored node, and a key says what it is about. So no
two fields share a key, except that all fields of a chain without a data source have the sentinel
(`at?_templateOf_inj`), and the size of the read is a matter of counting (`planned_read_size`): 20
keys a node, and 5 more or only the sentinel for the chain.
-/

namespace ChainDashboard

/-- The number of monitored nodes of a chain. -/
def ChainMap.monitoredCount (m : ChainMap) (chain : String) : Nat :=
  ((m.find? chain).getD NameMap.empty).values.countP (·.monitored)

theorem ChainMap.length_keys_monitoredNodes {m : ChainMap} {chain : String} {nodes : NameMap Node}
    (h : m.monitoredNodes.find? chain = some nodes) :
    nodes.keys.length = m.monitoredCount chain := by
  rw [find?_monitoredNodes, Option.map_eq_some_iff] at h
  obtain ⟨all, held, rfl⟩ := h
  rw [monitoredCount, (Option.filter_eq_some_iff.mp held).1, Option.getD_some, NameMap.keys,
    NameMap.values, List.length_map, List.countP_map, List.countP_eq_length_filter]
  rfl

theorem NameMap.nodup_keys {α : Type u} (m : NameMap α) : m.keys.Nodup := by
  refine m.pairwise_keys.imp ?_
  rintro name _ less rfl
  exact String.lt_irrefl name less

/-- The tokens of a group tell its fields apart. -/
theorem KeyGroup.eq_of_sameToken {g : KeyGroup} {f k : KeyField} (hf : f ∈ g.fields)
    (hk : k ∈ g.fields) (same : f.token = k.token) : f = k := by
  have all : ∀ f ∈ g.fields, ∀ k ∈ g.fields, f.token = k.token → f = k := by
    cases g <;> decide
  exact all f hf k hk same

namespace SnapshotPlan

/-! ## What is asked about -/

/-- The chains and nodes that keys of a kind of look-up are about, with the group of the keys. -/
def subjects (chain : String) (source : Bool) (names : List String) :
    Lookup → List (KeyGroup × String)
  | .flat => (if source then [(.blockchainMonitor, chain)] else []) ++ names.map (.nodeMonitor, ·)
  | .hash => (if source then [(.blockchain, chain)] else []) ++ names.map (.node, ·)

/-- The keys about a chain or a node. -/
def keysAbout (alerter : String) (s : KeyGroup × String) : List String :=
  s.1.fields.map fun f => s.1.key alerter f.token s.2

/-- The sentinel is asked for in place of the fields of a chain without a data source. -/
def sentinels (source : Bool) : Lookup → List String
  | .flat => []
  | .hash => if source then [] else [Bucket.sentinel]

/-- All keys of a kind of look-up that a plan has to ask for. -/
def neededKeys (alerter chain : String) (source : Bool) (names : List String) (lookup : Lookup) :
    List String :=
  sentinels source lookup ++ (subjects chain source names lookup).flatMap (keysAbout alerter)

section Needed

variable {alerter chain : String} {source : Bool} {nodes : NameMap Node} {lookup : Lookup}

theorem mem_subjects {g : KeyGroup} {scope : String} :
    (g, scope) ∈ subjects chain source nodes.keys lookup ↔
      AsksAbout chain source nodes g scope ∧ g.lookup = lookup := by
  cases lookup <;> cases source <;> cases g <;>
    simp [subjects, AsksAbout, KeyGroup.lookup, KeyGroup.isAlerterScoped]

theorem nodup_subjects : (subjects chain source nodes.keys lookup).Nodup := by
  have named (g : KeyGroup) : (nodes.keys.map (g, ·)).Nodup :=
    nodes.nodup_keys.map fun _ _ same => (Prod.mk.inj same).2
  cases lookup <;> cases source <;> simp [subjects, named]

theorem mem_keysAbout {g : KeyGroup} {scope key : String} :
    key ∈ keysAbout alerter (g, scope) ↔ ∃ f ∈ g.fields, key = g.key alerter f.token scope := by
  simp only [keysAbout, List.mem_map, eq_comm]

theorem nodup_keysAbout (s : KeyGroup × String) : (keysAbout alerter s).Nodup := by
  obtain ⟨g, scope⟩ := s
  refine List.Nodup.map_on ?_ (g.nodup_names.of_map _)
  intro f hf k hk same
  exact KeyGroup.eq_of_sameToken hf hk (KeyGroup.key_inj hf hk rfl same).2.1

/-- Keys of one kind that are about different things are different. -/
theorem nodup_flatMap_keysAbout :
    ((subjects chain source nodes.keys lookup).flatMap (keysAbout alerter)).Nodup := by
  refine List.nodup_flatMap.mpr ⟨fun s _ => nodup_keysAbout s, ?_⟩
  refine nodup_subjects.imp_of_mem ?_
  rintro ⟨g, x⟩ ⟨h, y⟩ mem mem' different key about about'
  obtain ⟨-, kind⟩ := mem_subjects.mp mem
  obtain ⟨-, kind'⟩ := mem_subjects.mp mem'
  obtain ⟨f, hf, rfl⟩ := mem_keysAbout.mp about
  obtain ⟨k, hk, same⟩ := mem_keysAbout.mp about'
  obtain ⟨rfl, -, rfl⟩ := KeyGroup.key_inj hf hk (kind.trans kind'.symm) same
  exact different rfl

theorem mem_sentinels {key : String} : key ∈ sentinels source lookup ↔
    source = false ∧ (⟨lookup, key⟩ : Placeholder) = ⟨.hash, Bucket.sentinel⟩ := by
  cases lookup <;> cases source <;> simp [sentinels]

theorem nodup_neededKeys : (neededKeys alerter chain source nodes.keys lookup).Nodup := by
  refine List.nodup_append.mpr ⟨?_, nodup_flatMap_keysAbout, ?_⟩
  · cases lookup <;> cases source <;> simp [sentinels]
  · rintro key sentinel key' about rfl
    obtain ⟨⟨g, scope⟩, mem, about⟩ := List.mem_flatMap.mp about
    obtain ⟨f, hf, rfl⟩ := mem_keysAbout.mp about
    obtain ⟨-, rfl⟩ := mem_subjects.mp mem
    obtain ⟨shared, same⟩ := Placeholder.mk.inj (mem_sentinels.mp sentinel).2
    exact KeyGroup.key_ne_sentinel hf shared alerter scope same

/-- What a plan has to ask for is what its template mentions. -/
theorem mem_neededKeys {key : String} :
    key ∈ neededKeys alerter chain source nodes.keys lookup ↔
      (templateOf alerter chain source nodes).Mentions ⟨lookup, key⟩ := by
  rw [mentions_templateOf, neededKeys, List.mem_append, List.mem_flatMap, mem_sentinels]
  refine or_congr_right ⟨?_, ?_⟩
  · rintro ⟨⟨g, scope⟩, mem, about⟩
    obtain ⟨asked, rfl⟩ := mem_subjects.mp mem
    obtain ⟨f, hf, rfl⟩ := mem_keysAbout.mp about
    exact ⟨g, scope, asked, f, hf, rfl⟩
  · rintro ⟨g, scope, asked, f, hf, same⟩
    obtain ⟨rfl, rfl⟩ := Placeholder.mk.inj same
    exact ⟨(g, scope), mem_subjects.mpr ⟨asked, rfl⟩, mem_keysAbout.mpr ⟨f, hf, rfl⟩⟩

/-- A plan asks for the needed keys and for nothing else, in some order. -/
theorem perm_neededKeys :
    (SnapshotTemplate.keysOf lookup (templateOf alerter chain source nodes).placeholders).Perm
      (neededKeys alerter chain source nodes.keys lookup) := by
  refine (List.perm_ext_iff_of_nodup (nodup_eraseDups _) nodup_neededKeys).mpr fun key => ?_
  exact SnapshotTemplate.mem_keysOf_placeholders.trans mem_neededKeys.symm

theorem sentinel_mem_neededKeys :
    Bucket.sentinel ∈ neededKeys alerter chain source nodes.keys .hash ↔ source = false := by
  rw [mem_neededKeys, mentions_templateOf]
  constructor
  · rintro (⟨unknown, -⟩ | ⟨g, scope, -, f, hf, same⟩)
    · exact unknown
    · obtain ⟨shared, same⟩ := Placeholder.mk.inj same
      exact absurd same.symm (KeyGroup.key_ne_sentinel hf shared.symm alerter scope)
  · intro unknown
    exact .inl ⟨unknown, rfl⟩

/-- A plain key starts with the alerter. -/
theorem flat_of_mem_neededKeys {key : String}
    (mem : key ∈ neededKeys alerter chain source nodes.keys .flat) :
    ∃ rest, key = alerter ++ ":" ++ rest := by
  rcases mentions_templateOf.mp (mem_neededKeys.mp mem) with ⟨-, same⟩ | ⟨g, scope, -, f, -, same⟩
  · exact absurd (congrArg Placeholder.lookup same) nofun
  · obtain ⟨plain, rfl⟩ := Placeholder.mk.inj same
    have owned : g.isAlerterScoped = true := by cases g <;> first | rfl | cases plain
    exact ⟨f.token ++ g.suffix scope, by rw [KeyGroup.key, if_pos owned]⟩

theorem length_flatMap_keysAbout (alerter : String) (g : KeyGroup) (names : List String) :
    ((names.map (g, ·)).flatMap (keysAbout alerter)).length = g.fields.length * names.length := by
  simp [keysAbout, List.length_flatMap, Function.comp_def, Nat.mul_comm]

theorem length_neededKeys_flat (names : List String) :
    (neededKeys alerter chain source names .flat).length =
      (if source then 1 else 0) + 3 * names.length := by
  have monitors := length_flatMap_keysAbout alerter .nodeMonitor names
  rw [neededKeys, subjects, List.flatMap_append, List.length_append, List.length_append, monitors]
  cases source <;> simp [sentinels, keysAbout, KeyGroup.fields, KeyGroup.blockchainMonitorFields,
    KeyGroup.nodeMonitorFields]

theorem length_neededKeys_hash (names : List String) :
    (neededKeys alerter chain source names .hash).length =
      (if source then 4 else 1) + 17 * names.length := by
  have fields := length_flatMap_keysAbout alerter .node names
  rw [neededKeys, subjects, List.flatMap_append, List.length_append, List.length_append, fields]
  cases source <;> simp [sentinels, keysAbout, KeyGroup.fields, KeyGroup.blockchainFields,
    KeyGroup.nodeFields]

end Needed

end SnapshotPlan

/-! ## No two fields share a key -/

namespace FieldPlace

/-- The group of keys that the field at the place belongs to. -/
def group : FieldPlace → KeyGroup
  | .blockchain _ => .blockchain
  | .node .. => .node
  | .blockchainMonitor .. => .blockchainMonitor
  | .nodeMonitor .. => .nodeMonitor

/-- What the field at the place is about, in the template of a chain. -/
def scope (chain : String) : FieldPlace → String
  | .blockchain _ => chain
  | .node name _ | .blockchainMonitor name _ | .nodeMonitor name _ => name

theorem eq_of_group {place other : FieldPlace} {chain : String} (group : place.group = other.group)
    (scope : place.scope chain = other.scope chain) (field : place.field = other.field) :
    place = other := by
  cases place <;> cases other <;> cases group <;> cases field
  · rfl
  all_goals
    cases scope
    rfl

end FieldPlace

namespace SnapshotPlan

section Fields

variable {alerter chain : String} {source : Bool} {nodes : NameMap Node} {place other : FieldPlace}
  {p : Placeholder}

theorem find?_placeholders {g : KeyGroup} {scope field : String}
    (found : (placeholders g alerter scope).find? field = some p) :
    ∃ f ∈ g.fields, f.name = field ∧ p = ⟨g.lookup, g.key alerter f.token scope⟩ := by
  rw [placeholders_eq] at found
  obtain ⟨f, hf, same⟩ := List.mem_map.mp (NameMap.mem_of_find?_ofList found)
  exact ⟨f, hf, congrArg Prod.fst same, (congrArg Prod.snd same).symm⟩

theorem find?_placeholdersOf {g : KeyGroup} (names : List String) {name field : String}
    (found : ((NameMap.ofList (names.map fun n => (n, placeholders g alerter n))).find? name).bind
      (·.find? field) = some p) :
    ∃ f ∈ g.fields, f.name = field ∧ p = ⟨g.lookup, g.key alerter f.token name⟩ := by
  rw [NameMap.find?_ofList_map] at found
  split at found
  · exact find?_placeholders found
  · cases found

/-- Every field of a chain's template has the key of its own, unless the chain is without a data
source and the field has the sentinel. -/
theorem at?_templateOf (found : (templateOf alerter chain source nodes).at? place = some p) :
    (source = false ∧ p = ⟨.hash, Bucket.sentinel⟩) ∨
      ∃ f ∈ place.group.fields, f.name = place.field ∧
        p = ⟨place.group.lookup, place.group.key alerter f.token (place.scope chain)⟩ := by
  cases place with
  | blockchain field =>
    cases source with
    | false =>
      obtain ⟨f, -, same⟩ := List.mem_map.mp (NameMap.mem_of_find?_ofList found)
      exact .inl ⟨rfl, (congrArg Prod.snd same).symm⟩
    | true => exact .inr (find?_placeholders found)
  | node name field => exact .inr (find?_placeholdersOf nodes.keys found)
  | nodeMonitor name field => exact .inr (find?_placeholdersOf nodes.keys found)
  | blockchainMonitor name field =>
    cases source with
    | false => cases found
    | true => exact .inr (find?_placeholdersOf [chain] found)

/-- No two fields share a key, apart from the sentinel. -/
theorem at?_templateOf_inj (found : (templateOf alerter chain source nodes).at? place = some p)
    (found' : (templateOf alerter chain source nodes).at? other = some p) :
    place = other ∨ source = false ∧ p = ⟨.hash, Bucket.sentinel⟩ := by
  rcases at?_templateOf found with sentinel | ⟨f, hf, field, rfl⟩
  · exact .inr sentinel
  rcases at?_templateOf found' with sentinel | ⟨k, hk, field', same⟩
  · exact .inr sentinel
  obtain ⟨alike, same⟩ := Placeholder.mk.inj same
  obtain ⟨group, token, scope⟩ := KeyGroup.key_inj hf hk alike same
  have same_field : f = k := KeyGroup.eq_of_sameToken hf (group ▸ hk) token
  exact .inl (FieldPlace.eq_of_group group scope (by rw [← field, ← field', same_field]))

end Fields

end SnapshotPlan

/-! ## The read of a planned chain -/

/-- The read of a plan has the keys of the chain and of its monitored nodes, each once. -/
structure SnapshotPlan.ReadsExactly (m : ChainMap) (alerter chain : String)
    (plan : SnapshotPlan) : Prop where
  with_source : m.HasSource chain →
    plan.request.flatKeys.length = 1 + 3 * m.monitoredCount chain ∧
    plan.request.hashFields.length = 4 + 17 * m.monitoredCount chain ∧
    Bucket.sentinel ∉ plan.request.hashFields
  without_source : ¬ m.HasSource chain →
    plan.request.flatKeys.length = 3 * m.monitoredCount chain ∧
    plan.request.hashFields.length = 1 + 17 * m.monitoredCount chain ∧
    plan.request.hashFields.count Bucket.sentinel = 1
  flat_once : plan.request.flatKeys.Nodup
  hash_once : plan.request.hashFields.Nodup
  flat_prefix : ∀ key ∈ plan.request.flatKeys, ∃ rest, key = alerter ++ ":" ++ rest
  /-- No key is saved because two fields happen to have the same. -/
  own_keys : ∀ place other p, plan.template.at? place = some p → plan.template.at? other = some p →
    place = other ∨ ¬ m.HasSource chain ∧ p = ⟨.hash, Bucket.sentinel⟩
  nonempty : plan.request.hashFields ≠ []

section Planned

variable {t : Topology} {chain alerter : String} {plan : SnapshotPlan}

/-- A plan is made for its chain with or without a data source, and asks for the keys that it needs
then. -/
theorem SnapshotPlan.exists_needed (planned : SnapshotPlan.ofChain chain t alerter = .ok plan) :
    ∃ source, (source = true ↔ t.chains.HasSource chain) ∧
      plan.template = templateOf alerter chain source plan.nodes ∧
      plan.request.flatKeys.Perm (neededKeys alerter chain source plan.nodes.keys .flat) ∧
      plan.request.hashFields.Perm (neededKeys alerter chain source plan.nodes.keys .hash) := by
  obtain ⟨-, template, request⟩ := parts_of_planned planned
  refine ⟨t.chains.monitoredChains.contains chain, ?_, template, ?_, ?_⟩
  · rw [List.contains_iff_mem, ChainMap.mem_monitoredChains]
  all_goals
    rw [request, template]
    exact perm_neededKeys

/-- A plan asks for something: the sentinel, or fields of the chain. -/
theorem SnapshotPlan.hashFields_ne_nil (planned : SnapshotPlan.ofChain chain t alerter = .ok plan) :
    plan.request.hashFields ≠ [] := by
  obtain ⟨source, -, -, -, hash⟩ := SnapshotPlan.exists_needed planned
  have positive : 0 < plan.request.hashFields.length := by
    rw [hash.length_eq, SnapshotPlan.length_neededKeys_hash]
    split <;> omega
  exact List.ne_nil_of_length_pos positive

/-- **The exact size of a read**: a chain's plan asks for 3 plain keys and 17 fields of each
monitored node, and of the chain for 1 plain key and 4 fields, or for the sentinel if the chain has
no data source. -/
theorem planned_read_size (planned : SnapshotPlan.ofChain chain t alerter = .ok plan) :
    plan.ReadsExactly t.chains alerter chain := by
  obtain ⟨listed, -⟩ := SnapshotPlan.parts_of_planned planned
  obtain ⟨source, source_iff, template, flat, hash⟩ := SnapshotPlan.exists_needed planned
  have flat_length := flat.length_eq.trans (SnapshotPlan.length_neededKeys_flat _)
  have hash_length := hash.length_eq.trans (SnapshotPlan.length_neededKeys_hash _)
  rw [ChainMap.length_keys_monitoredNodes listed] at flat_length hash_length
  have hash_once : plan.request.hashFields.Nodup :=
    hash.nodup_iff.mpr SnapshotPlan.nodup_neededKeys
  have sentinel : Bucket.sentinel ∈ plan.request.hashFields ↔ source = false :=
    hash.mem_iff.trans SnapshotPlan.sentinel_mem_neededKeys
  constructor
  case with_source =>
    intro known
    obtain rfl := source_iff.mpr known
    exact ⟨flat_length, hash_length, by rw [sentinel]; exact Bool.noConfusion⟩
  case without_source =>
    intro unknown
    obtain rfl := Bool.eq_false_iff.mpr (mt source_iff.mp unknown)
    refine ⟨?_, hash_length, List.count_eq_one_of_mem hash_once (sentinel.mpr rfl)⟩
    exact flat_length.trans (Nat.zero_add _)
  case flat_once => exact flat.nodup_iff.mpr SnapshotPlan.nodup_neededKeys
  case hash_once => exact hash_once
  case flat_prefix => exact fun key mem => SnapshotPlan.flat_of_mem_neededKeys (flat.mem_iff.mp mem)
  case own_keys =>
    intro place other p found found'
    rw [template] at found found'
    refine (SnapshotPlan.at?_templateOf_inj found found').imp_right fun ⟨unknown, same⟩ => ⟨?_, same⟩
    rw [← source_iff, unknown]
    exact Bool.false_ne_true
  case nonempty => exact SnapshotPlan.hashFields_ne_nil planned

end Planned

/-- A chain without a data source, whose nodes are named like the chain and like keys. -/
def keyLikeNames : Topology :=
  { Topology.initial with
    chains := .ofNodes
      [(Node.new "c" "c").withMonitored true, (Node.new "n1_c" "c").withMonitored true,
        (Node.new "a:nm1_Node monitor (c)" "c").withMonitored true] }

theorem planned_read_size_keyLikeNames :
    ∃ plan, SnapshotPlan.ofChain "c" keyLikeNames "a" = .ok plan ∧
      plan.ReadsExactly keyLikeNames.chains "a" "c" :=
  ⟨_, rfl, planned_read_size rfl⟩

end ChainDashboard
