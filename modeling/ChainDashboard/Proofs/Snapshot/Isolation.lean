import ChainDashboard.Proofs.Monitoring
import ChainDashboard.Snapshot.Build

/-!
# A snapshot depends on its own chain alone

Planning filters the whole map of chains twice and then picks one chain. What it takes from the map
is no more than the names of the chain's monitored nodes, what is said of them as validators, and
whether the chain has a data source (`ChainMap.AlikeIn`). Everything else may differ, in other
chains and in the rest of this one: two topologies that agree on these, on the alerter and on the
way to the store ask for the same and give the same snapshots (`chain_snapshot_isolated`).
-/

namespace ChainDashboard

/-- Two maps are alike in a chain: it has the same monitored nodes, of which the same is said as
validators, and it has a data source in both or in neither. -/
structure ChainMap.AlikeIn (chain : String) (m m' : ChainMap) : Prop where
  monitored : ∀ name,
    ((m.node? chain name).filter (·.monitored)).map (·.validator) =
      ((m'.node? chain name).filter (·.monitored)).map (·.validator)
  source : m.HasSource chain ↔ m'.HasSource chain

/-! ## What is taken from the map -/

namespace ChainMap.AlikeIn

variable {chain : String} {m m' : ChainMap}

theorem exists_monitored (h : m.AlikeIn chain m') :
    (∃ name node, m.Monitored chain name node) ↔ ∃ name node, m'.Monitored chain name node := by
  refine exists_congr fun name => ?_
  have same := congrArg Option.isSome (h.monitored name)
  rw [Option.isSome_map, Option.isSome_map, Bool.eq_iff_iff] at same
  simpa only [Monitored, Option.isSome_iff_exists, Option.filter_eq_some_iff] using same

/-- The chain counts in both or in neither, and the view has the same nodes, of which the same is
said as validators. -/
theorem validators_monitoredNodes (h : m.AlikeIn chain m') :
    (m.monitoredNodes.find? chain).map (·.mapValues (·.validator)) =
      (m'.monitoredNodes.find? chain).map (·.mapValues (·.validator)) := by
  have listed : chain ∈ m.monitoredNodes.keys ↔ chain ∈ m'.monitoredNodes.keys := by
    rw [mem_keys_monitoredNodes, mem_keys_monitoredNodes, h.exists_monitored, h.source]
  rw [NameMap.mem_keys_iff, NameMap.mem_keys_iff] at listed
  cases held : m.monitoredNodes.find? chain with
  | none =>
    cases held' : m'.monitoredNodes.find? chain with
    | none => rfl
    | some nodes' => simp [held, held'] at listed
  | some nodes =>
    cases held' : m'.monitoredNodes.find? chain with
    | none => simp [held, held'] at listed
    | some nodes' =>
      refine congrArg some (NameMap.ext_find? fun name => ?_)
      rw [NameMap.find?_mapValues, NameMap.find?_mapValues, find?_of_monitoredNodes held,
        find?_of_monitoredNodes held']
      exact h.monitored name

theorem contains_monitoredChains (h : m.AlikeIn chain m') :
    m.monitoredChains.contains chain = m'.monitoredChains.contains chain := by
  rw [Bool.eq_iff_iff, List.contains_iff_mem, List.contains_iff_mem, mem_monitoredChains,
    mem_monitoredChains, h.source]

end ChainMap.AlikeIn

/-! ## What is made of it -/

/-- What a plan asks the store for, and the template for the answers. -/
def SnapshotPlan.asked (plan : SnapshotPlan) : SnapshotTemplate × StoreRequest :=
  (plan.template, plan.request)

/-- The template is made from the names of the nodes. -/
theorem SnapshotPlan.templateOf_congr (alerter chain : String) (source : Bool)
    {nodes nodes' : NameMap Node} (names : nodes.keys = nodes'.keys) :
    templateOf alerter chain source nodes = templateOf alerter chain source nodes' := by
  simp only [templateOf, names]

/-- The flags are made from what is said of the nodes as validators. -/
theorem ChainSnapshot.withValidators_congr (s : ChainSnapshot) {nodes nodes' : NameMap Node}
    (validators : nodes.mapValues (·.validator) = nodes'.mapValues (·.validator)) :
    s.withValidators nodes = s.withValidators nodes' := by
  have flag (name : String) :
      (nodes.find? name).bind (·.validator) = (nodes'.find? name).bind (·.validator) := by
    have said : ((nodes.mapValues (·.validator)).find? name).bind id =
        ((nodes'.mapValues (·.validator)).find? name).bind id := by
      rw [validators]
    simpa only [NameMap.find?_mapValues, Option.bind_map, Function.id_comp] using said
  simp only [withValidators, flag]

/-- Two plans differ in nothing but records of nodes. -/
structure SnapshotPlan.Alike (p q : SnapshotPlan) : Prop where
  asked : p.asked = q.asked
  validators : p.nodes.mapValues (·.validator) = q.nodes.mapValues (·.validator)

theorem SnapshotPlan.Alike.finish {p q : SnapshotPlan} (h : p.Alike q)
    (reply : Except StoreError StoreReply) :
    SnapshotRun.finish p reply = SnapshotRun.finish q reply := by
  obtain ⟨template, request⟩ := Prod.mk.inj h.asked
  simp only [SnapshotRun.finish, template, request,
    ChainSnapshot.withValidators_congr _ h.validators]

/-- Maps that are alike in a chain give it no plan, or plans that are alike. -/
theorem ChainMap.AlikeIn.plan {chain : String} {t u : Topology}
    (h : t.chains.AlikeIn chain u.chains) (alerter : String) :
    SnapshotPlan.ofChain chain t alerter = .error (.chainNotFound chain) ∧
        SnapshotPlan.ofChain chain u alerter = .error (.chainNotFound chain) ∨
      ∃ p q, SnapshotPlan.ofChain chain t alerter = .ok p ∧
        SnapshotPlan.ofChain chain u alerter = .ok q ∧ p.Alike q := by
  have validators := h.validators_monitoredNodes
  unfold SnapshotPlan.ofChain
  cases held : t.chains.monitoredNodes.find? chain with
  | none =>
    rw [held, Option.map_none, eq_comm, Option.map_eq_none_iff] at validators
    rw [validators]
    exact .inl ⟨rfl, rfl⟩
  | some nodes =>
    rw [held, Option.map_some, eq_comm, Option.map_eq_some_iff] at validators
    obtain ⟨nodes', held', same⟩ := validators
    have names : nodes.keys = nodes'.keys := by
      rw [← NameMap.keys_mapValues nodes (·.validator), ← same, NameMap.keys_mapValues]
    rw [held']
    refine .inr ⟨_, _, rfl, rfl, ?_, same.symm⟩
    rw [SnapshotPlan.asked, SnapshotPlan.asked, h.contains_monitoredChains,
      SnapshotPlan.templateOf_congr alerter chain _ names]

/-- **A chain's snapshot depends on the chain alone**: topologies that agree on the alerter, on the
way to the store and on what is monitored in the chain plan the same reads, and build the same
snapshot with the same reads, whatever the store. -/
theorem chain_snapshot_isolated {chain : String} {t u : Topology}
    (known : t.main.alerter = u.main.alerter) (connected : t.connection? = u.connection?)
    (alike : t.chains.AlikeIn chain u.chains) :
    (∀ alerter, (SnapshotPlan.ofChain chain t alerter).map SnapshotPlan.asked =
      (SnapshotPlan.ofChain chain u alerter).map SnapshotPlan.asked) ∧
    ∀ store, SnapshotRun.ofChain store chain t = SnapshotRun.ofChain store chain u := by
  constructor
  · intro alerter
    rcases alike.plan alerter with ⟨refused, refused'⟩ | ⟨p, q, planned, planned', same⟩
    · rw [refused, refused']
    · rw [planned, planned']
      exact congrArg Except.ok same.asked
  · intro store
    rw [SnapshotRun.ofChain, SnapshotRun.ofChain, known, connected]
    cases u.connection? with
    | none => rfl
    | some c =>
      cases u.main.alerter with
      | none => rfl
      | some a =>
        rcases alike.plan a with ⟨refused, refused'⟩ | ⟨p, q, planned, planned', same⟩
        · simp only [refused, refused']
        · have request : p.request = q.request := congrArg Prod.snd same.asked
          simp only [planned, planned', same.finish, request]

/-- The chain has its source in another node, and another chain counts in one of the maps only. -/
theorem chain_snapshot_isolated_otherSource :
    let n := ((Node.new "n" "c").withMonitored true).withValidator "yes"
    let settings : MainSettings := ⟨some "a", some ⟨true, "localhost", 6379, none⟩⟩
    let t : Topology := ⟨3, .ofNodes [n, (Node.new "s" "c").withDataSource true,
      (Node.new "m" "d").withMonitored true], NameMap.empty, settings, none, some 10⟩
    let u : Topology := ⟨8, .ofNodes [n.withDataSource true], .ofNames ["r"], settings,
      some ⟨"admin", "hash", "cookie"⟩, some 10⟩
    t.main.alerter = u.main.alerter ∧ t.connection? = u.connection? ∧
      t.chains.AlikeIn "c" u.chains ∧
      (∀ alerter, (SnapshotPlan.ofChain "c" t alerter).map SnapshotPlan.asked =
        (SnapshotPlan.ofChain "c" u alerter).map SnapshotPlan.asked) ∧
      ∀ store, SnapshotRun.ofChain store "c" t = SnapshotRun.ofChain store "c" u := by
  intro n settings t u
  have alike : t.chains.AlikeIn "c" u.chains := by
    constructor
    · intro name
      by_cases own : name = "n"
      · subst own
        decide
      · by_cases other : name = "s"
        · subst other
          decide
        · simp only [t, u, ChainMap.ofNodes, List.foldl_cons, List.foldl_nil, ChainMap.node?_add]
          simp [n, own, other, Node.new, Node.withMonitored, Node.withValidator,
            Node.withDataSource]
    · exact iff_of_true ⟨"s", (Node.new "s" "c").withDataSource true, by decide, rfl⟩
        ⟨"n", n.withDataSource true, by decide, rfl⟩
  exact ⟨rfl, rfl, alike, chain_snapshot_isolated rfl rfl alike⟩

end ChainDashboard
