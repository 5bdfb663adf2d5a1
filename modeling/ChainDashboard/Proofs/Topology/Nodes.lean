import ChainDashboard.Proofs.Topology.History

/-!
# Which nodes are loaded

A reload takes the nodes of its document as the sections describe them, and what was held before
does not matter. Every run of the loader leaves each node in its place, and two documents with the
same records load the same nodes whatever their sections are called, as long as no node is described
twice (`nodes_loaded_exactly`).
-/

namespace ChainDashboard

theorem Topology.Reflects.wellPlaced {events : List DocumentEvent} {t : Topology}
    (h : t.Reflects events) : t.chains.WellPlaced := by
  rw [h.chains.loaded]
  cases (sinceCleared .userNodes events).head? with
  | none => exact ChainMap.wellPlaced_empty
  | some d => exact ChainMap.wellPlaced_ofDocument d

/-- No node is described by two sections of the document. -/
def Document.DescribesOnce (d : Document) : Prop :=
  ∀ title other r r' chain name, d.record? title = some r → d.record? other = some r' →
    r.Describes chain name → r'.Describes chain name → title = other

theorem Document.DescribesOnce.distinctNodes {d : Document} (h : d.DescribesOnce) :
    ChainMap.DistinctNodes d.sections.values := by
  intro r mem r' mem' chain name describes describes'
  obtain ⟨title, held⟩ := NameMap.mem_values_iff.mp mem
  obtain ⟨other, held'⟩ := NameMap.mem_values_iff.mp mem'
  cases h title other r r' chain name held held' describes describes'
  exact Option.some.inj (held.symm.trans held')

/-- **Nodes are loaded exactly.** A nodes document loads the nodes that its sections describe, each
from the last of them; after every run of the loader from the start each node is in its place; and
two documents with the same records, in which no node is described twice, load the same. -/
theorem nodes_loaded_exactly :
    (∀ (s : LiveState) (d : Document),
      (s.reload .userNodes (.document d)).2.topology.chains.LoadedFrom d) ∧
    (∀ steps, (LiveState.initial.afterSteps steps).topology.chains.WellPlaced) ∧
    ∀ (s s' : LiveState) (d d' : Document), d.sections.values.Perm d'.sections.values →
      d.DescribesOnce → (s.reload .userNodes (.document d)).2.topology.chains =
        (s'.reload .userNodes (.document d')).2.topology.chains := by
  refine ⟨fun s d => ChainMap.loadedFrom_ofDocument d, fun steps => ?_,
    fun s s' d d' same once => ?_⟩
  · rw [LiveState.topology_afterSteps]
    exact (Topology.Reflects.run _).wellPlaced
  · exact ChainMap.ofDocument_congr once.distinctNodes fun r => same.mem_iff

/-- Two nodes of a chain, with the sections of one of them renamed. -/
theorem nodes_loaded_exactly_renamed :
    let n := [("node_name", "n "), ("chain_name", "c"), ("monitor_node", "yes")]
    let m := [("node_name", "m"), ("chain_name", "c")]
    let d := (Document.empty.withSection "node_1" n).withSection "node_2" m
    let d' := (Document.empty.withSection "node_3" n).withSection "node_2" m
    let loaded (d : Document) :=
      (LiveState.initial.reload .userNodes (.document d)).2.topology.chains
    d.sections.values.Perm d'.sections.values ∧ d.DescribesOnce ∧ loaded d = loaded d' ∧
      (loaded d).LoadedFrom d := by
  intro n m d d' loaded
  have same : d.sections.values.Perm d'.sections.values := by decide
  have once : d.DescribesOnce := by
    -- the name of the node tells the sections apart
    have named {title name : String} {r : Record} (held : d.record? title = some r)
        (given : r.Says "node_name" name) :
        title = "node_1" ∧ name = "n" ∨ title = "node_2" ∧ name = "m" := by
      rw [Document.record?_withSection, Document.record?_withSection] at held
      rw [← Record.field?_eq_some] at given
      split at held
      · cases held
        exact .inr ⟨‹_›, Option.some.inj (given.symm.trans (by decide))⟩
      · split at held
        · cases held
          exact .inl ⟨‹_›, Option.some.inj (given.symm.trans (by decide))⟩
        · cases held
    intro title other r r' chain name held held' describes describes'
    rcases named held describes.name with ⟨rfl, rfl⟩ | ⟨rfl, rfl⟩ <;>
      rcases named held' describes'.name with ⟨rfl, other⟩ | ⟨rfl, other⟩ <;>
      first | rfl | exact absurd other (by decide)
  exact ⟨same, once, nodes_loaded_exactly.2.2 .initial .initial d d' same once,
    nodes_loaded_exactly.1 .initial d⟩

end ChainDashboard
