import ChainDashboard.Monitoring
import Mathlib.Data.List.Basic
import Mathlib.Logic.Function.Iterate

/-!
# What the monitoring views hold

Each view is characterised by the nodes of the map it is taken from: a chain is listed if and only
if one of its nodes passes the view's test (`mem_keys_chainsWith`), and under a chain the map of
monitored nodes holds the monitored ones of its nodes (`find?_of_monitoredNodes`). The views lie
within each other, and a view of the map of monitored nodes only leaves out the chains that have no
node left (`views_nest`).
-/

namespace ChainDashboard.ChainMap

/-- A monitored node of the given chain and name is there. -/
def Monitored (m : ChainMap) (chain name : String) (node : Node) : Prop :=
  m.node? chain name = some node ∧ node.monitored = true

/-- One of the chain's nodes is a data source. -/
def HasSource (m : ChainMap) (chain : String) : Prop :=
  ∃ name node, m.node? chain name = some node ∧ node.dataSource = true

theorem find?_chainsWith (test : Node → Bool) (m : ChainMap) (chain : String) :
    (m.chainsWith test).find? chain =
      (m.find? chain).filter fun nodes => nodes.values.any test :=
  NameMap.find?_filter ..

/-- A chain passes if and only if one of its nodes does. -/
theorem mem_keys_chainsWith {test : Node → Bool} {m : ChainMap} {chain : String} :
    chain ∈ (m.chainsWith test).keys ↔
      ∃ name node, m.node? chain name = some node ∧ test node = true := by
  simp only [NameMap.mem_keys_iff, find?_chainsWith, Option.filter_eq_some_iff, List.any_eq_true,
    NameMap.mem_values_iff, node?, Option.bind_eq_some_iff]
  constructor
  · rintro ⟨nodes, held, node, ⟨name, found⟩, passes⟩
    exact ⟨name, node, ⟨nodes, held, found⟩, passes⟩
  · rintro ⟨name, node, ⟨nodes, held, found⟩, passes⟩
    exact ⟨nodes, held, node, ⟨name, found⟩, passes⟩

theorem mem_monitoredChains {m : ChainMap} {chain : String} :
    chain ∈ m.monitoredChains ↔ m.HasSource chain :=
  mem_keys_chainsWith

/-- The map of monitored nodes lists the chains that count, -/
theorem keys_monitoredNodes (m : ChainMap) : m.monitoredNodes.keys = m.involvedChains :=
  NameMap.keys_mapValues ..

/-- and a chain counts if and only if one of its nodes is monitored or a data source. -/
theorem mem_keys_monitoredNodes {m : ChainMap} {chain : String} :
    chain ∈ m.monitoredNodes.keys ↔
      (∃ name node, m.Monitored chain name node) ∨ m.HasSource chain := by
  rw [keys_monitoredNodes, involvedChains, mem_keys_chainsWith]
  simp only [isInvolved, Bool.or_eq_true, and_or_left, exists_or, Monitored, HasSource]

theorem find?_monitoredNodes (m : ChainMap) (chain : String) :
    m.monitoredNodes.find? chain =
      ((m.find? chain).filter fun nodes => nodes.values.any isInvolved).map
        fun nodes => nodes.filter fun _ n => n.monitored := by
  rw [monitoredNodes, NameMap.find?_mapValues, find?_chainsWith]

/-- Under a chain that counts, the view holds the chain's monitored nodes with their records. -/
theorem find?_of_monitoredNodes {m : ChainMap} {chain : String} {nodes : NameMap Node}
    (h : m.monitoredNodes.find? chain = some nodes) (name : String) :
    nodes.find? name = (m.node? chain name).filter (·.monitored) := by
  rw [find?_monitoredNodes, Option.map_eq_some_iff] at h
  obtain ⟨all, held, rfl⟩ := h
  obtain ⟨held, -⟩ := Option.filter_eq_some_iff.mp held
  rw [NameMap.find?_filter, node?, held, Option.bind_some]

/-- Under a chain that counts, the view holds exactly the chain's monitored nodes. -/
theorem find?_eq_some_of_monitoredNodes {m : ChainMap} {chain : String} {nodes : NameMap Node}
    (h : m.monitoredNodes.find? chain = some nodes) {name : String} {node : Node} :
    nodes.find? name = some node ↔ m.Monitored chain name node := by
  rw [find?_of_monitoredNodes h, Option.filter_eq_some_iff, Monitored]

theorem mem_keys_of_monitoredNodes {m : ChainMap} {chain : String} {nodes : NameMap Node}
    (h : m.monitoredNodes.find? chain = some nodes) {name : String} :
    name ∈ nodes.keys ↔ ∃ node, m.Monitored chain name node := by
  simp only [NameMap.mem_keys_iff, find?_eq_some_of_monitoredNodes h]

/-! ## Views of a view -/

theorem sublist_keys_chainsWith (test : Node → Bool) (m : ChainMap) :
    (m.chainsWith test).keys.Sublist m.keys :=
  List.filter_sublist.map Prod.fst

/-- A wider test lets the same chains pass, and perhaps more between them. -/
theorem sublist_keys_chainsWith_of_imp {test wider : Node → Bool}
    (h : ∀ n, test n = true → wider n = true) (m : ChainMap) :
    (m.chainsWith test).keys.Sublist (m.chainsWith wider).keys := by
  refine List.Sublist.map Prod.fst (List.monotone_filter_right m.entries ?_)
  intro entry passes
  obtain ⟨node, mem, passes⟩ := List.any_eq_true.mp passes
  exact List.any_eq_true.mpr ⟨node, mem, h node passes⟩

/-- The chains that have nodes at all. -/
def occupied (m : ChainMap) : ChainMap := m.filter fun _ nodes => !nodes.isEmpty

theorem find?_occupied (m : ChainMap) (chain : String) :
    m.occupied.find? chain = (m.find? chain).filter fun nodes => !nodes.isEmpty :=
  NameMap.find?_filter ..

theorem find?_occupied_eq_ite (m : ChainMap) (chain : String) :
    m.occupied.find? chain =
      if m.find? chain = some NameMap.empty then none else m.find? chain := by
  rw [find?_occupied]
  rcases m.find? chain with _ | ⟨_ | _, _⟩ <;> rfl

theorem occupied_occupied (m : ChainMap) : m.occupied.occupied = m.occupied := by
  apply NameMap.ext_find?
  intro chain
  rw [find?_occupied, find?_occupied, Option.filter_filter]
  simp only [Bool.and_self]

/-- No node is there that is not monitored. -/
def OnlyMonitored (m : ChainMap) : Prop :=
  ∀ chain nodes, m.find? chain = some nodes → ∀ node ∈ nodes.values, node.monitored = true

theorem onlyMonitored_monitoredNodes (m : ChainMap) : m.monitoredNodes.OnlyMonitored := by
  intro chain nodes held node mem
  obtain ⟨name, found⟩ := NameMap.mem_values_iff.mp mem
  exact ((find?_eq_some_of_monitoredNodes held).mp found).2

theorem OnlyMonitored.occupied {m : ChainMap} (h : m.OnlyMonitored) : m.occupied.OnlyMonitored := by
  intro chain nodes held
  rw [find?_occupied, Option.filter_eq_some_iff] at held
  exact h chain nodes held.1

/-- Where every node is monitored, a chain counts if it has a node, and keeps all of them. -/
theorem OnlyMonitored.monitoredNodes_eq {m : ChainMap} (h : m.OnlyMonitored) :
    m.monitoredNodes = m.occupied := by
  apply NameMap.ext_find?
  intro chain
  rw [find?_monitoredNodes, find?_occupied]
  cases held : m.find? chain with
  | none => rfl
  | some nodes =>
    have monitored := h chain nodes held
    have kept : (nodes.filter fun _ n => n.monitored) = nodes := by
      apply NameMap.ext_find?
      intro name
      rw [NameMap.find?_filter]
      cases found : nodes.find? name with
      | none => rfl
      | some node => exact if_pos (monitored node (NameMap.mem_values_iff.mpr ⟨name, found⟩))
    have counts : nodes.values.any isInvolved = !nodes.isEmpty := by
      obtain ⟨entries, sorted⟩ := nodes
      cases entries with
      | nil => rfl
      | cons first rest =>
        have first_monitored : first.2.monitored = true := monitored first.2 (.head _)
        simp [NameMap.values, NameMap.isEmpty, isInvolved, first_monitored]
    rw [Option.filter_some, Option.filter_some, counts]
    cases nodes.isEmpty with
    | true => rfl
    | false => exact congrArg some kept

/-- A chain is kept without nodes if it has a data source and no node of it is monitored. -/
theorem find?_monitoredNodes_eq_empty {m : ChainMap} {chain : String} :
    m.monitoredNodes.find? chain = some NameMap.empty ↔
      m.HasSource chain ∧ ¬ ∃ name node, m.Monitored chain name node := by
  constructor
  · intro idle
    have unmonitored : ¬ ∃ name node, m.Monitored chain name node := by
      rintro ⟨name, node, monitored⟩
      exact nomatch (find?_eq_some_of_monitoredNodes idle).mpr monitored
    have counts := mem_keys_monitoredNodes.mp (NameMap.mem_keys_iff.mpr ⟨_, idle⟩)
    exact ⟨counts.resolve_left unmonitored, unmonitored⟩
  · rintro ⟨source, unmonitored⟩
    obtain ⟨nodes, held⟩ := NameMap.mem_keys_iff.mp (mem_keys_monitoredNodes.mpr (.inr source))
    have idle : nodes = NameMap.empty := by
      apply NameMap.ext_find?
      intro name
      refine Option.eq_none_iff_forall_ne_some.mpr fun node found => unmonitored ⟨name, node, ?_⟩
      exact (find?_eq_some_of_monitoredNodes held).mp found
    rw [held, idle]

/-- How the views of a map lie within each other, and what they are of a view. -/
structure NestedViews (m : ChainMap) : Prop where
  sources : m.monitoredChains.Sublist m.involvedChains
  involved : m.involvedChains.Sublist m.keys
  sources_ascending : m.monitoredChains.Pairwise (· < ·)
  involved_ascending : m.involvedChains.Pairwise (· < ·)
  /-- The map of monitored nodes lists the chains that count. -/
  chains : m.monitoredNodes.keys = m.involvedChains
  /-- Under each of them are the chain's monitored nodes, as they are. -/
  nodes : ∀ chain nodes, m.monitoredNodes.find? chain = some nodes →
    ∀ name node, nodes.find? name = some node ↔ m.Monitored chain name node
  idle : ∀ chain, m.monitoredNodes.find? chain = some NameMap.empty ↔
    m.HasSource chain ∧ ¬ ∃ name node, m.Monitored chain name node
  /-- The view of the view lacks the chains without nodes, and nothing else. -/
  again : ∀ chain, m.monitoredNodes.monitoredNodes.find? chain =
    if m.monitoredNodes.find? chain = some NameMap.empty then none
    else m.monitoredNodes.find? chain
  settled : ∀ times, monitoredNodes^[times + 2] m = m.monitoredNodes.monitoredNodes

/-- **The views nest and settle**: fewer chains have a data source than count, and the map of
monitored nodes has the chains that count with their monitored nodes. Its own view leaves out the
chains without nodes, and from then on nothing changes. -/
theorem views_nest (m : ChainMap) : m.NestedViews where
  sources := sublist_keys_chainsWith_of_imp (fun n source => by simp [isInvolved, source]) m
  involved := sublist_keys_chainsWith isInvolved m
  sources_ascending := NameMap.pairwise_keys _
  involved_ascending := NameMap.pairwise_keys _
  chains := m.keys_monitoredNodes
  nodes _ _ held _ _ := find?_eq_some_of_monitoredNodes held
  idle _ := find?_monitoredNodes_eq_empty
  again chain := by
    rw [(onlyMonitored_monitoredNodes m).monitoredNodes_eq, find?_occupied_eq_ite]
  settled times := by
    have only := onlyMonitored_monitoredNodes m
    have fixed : m.monitoredNodes.occupied.monitoredNodes = m.monitoredNodes.occupied := by
      rw [only.occupied.monitoredNodes_eq, occupied_occupied]
    rw [Function.iterate_add_apply]
    show monitoredNodes^[times] m.monitoredNodes.monitoredNodes = _
    rw [only.monitoredNodes_eq]
    exact Function.iterate_fixed fixed times

/-- A chain with a data source only is there in the first view and not in the next. -/
example :
    let m : ChainMap := .ofNodes
      [(Node.new "n" "c").withMonitored true, (Node.new "s" "d").withDataSource true]
    m.monitoredNodes.keys = ["c", "d"] ∧ m.monitoredNodes.monitoredNodes.keys = ["c"] := by
  decide

end ChainDashboard.ChainMap
