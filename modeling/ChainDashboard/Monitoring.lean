import ChainDashboard.Node

/-!
Which chains and nodes are monitored. A chain counts if one of its nodes is a data source, and in
the wider views also if one of its nodes is monitored itself; the map of monitored nodes keeps a
chain that counts even if none of its nodes is left.
-/
namespace ChainDashboard.ChainMap

/-- The chains with a node that passes a test. -/
def chainsWith (test : Node → Bool) (m : ChainMap) : ChainMap :=
  m.filter fun _ nodes => nodes.values.any test

/-- The chains that data is taken from. -/
def monitoredChains (m : ChainMap) : List String :=
  (m.chainsWith (·.dataSource)).keys

/-- Whether a node makes its chain count. -/
def isInvolved (n : Node) : Bool := n.monitored || n.dataSource

/-- The chains with a node that is monitored or a data source. -/
def involvedChains (m : ChainMap) : List String := (m.chainsWith isInvolved).keys

/-- The monitored nodes of every such chain. -/
def monitoredNodes (m : ChainMap) : ChainMap :=
  (m.chainsWith isInvolved).mapValues fun nodes => nodes.filter fun _ n => n.monitored

end ChainDashboard.ChainMap
