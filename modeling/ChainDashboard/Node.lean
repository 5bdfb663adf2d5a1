import ChainDashboard.Document.Basic
import ChainDashboard.Text.Flag

/-!
Nodes of a chain and the map that keeps them. A node holds its record exactly as configured, for
listings, next to the flags that were read from it, for monitoring. Nodes are made from a record or
by setting their flags one by one; both ways keep record and flags in step.
-/
namespace ChainDashboard

/-- A record lacks a field that it has to have. -/
structure MissingField where
  name : String
  deriving DecidableEq, Repr

/-- The report of a missing field. -/
def MissingField.message (e : MissingField) : String := "record is missing `" ++ e.name ++ "`"

/-- A field that has to be there and must not be blank. -/
def Record.require (r : Record) (name : String) : Except MissingField String :=
  match r.field? name with
  | some value => .ok value
  | none => .error ⟨name⟩

/-- One node of a chain. -/
structure Node where
  name : String
  chain : String
  /-- Whether the node itself is monitored. -/
  monitored : Bool
  /-- Whether data about the chain is taken from the node. -/
  dataSource : Bool
  /-- What the configuration says about the node being a validator. -/
  validator : Option String
  /-- The configured fields. -/
  record : Record
  deriving DecidableEq

namespace Node

/-- Reads a node from its record. Name and chain are required; flags that are missing are off, and
a blank validator field says nothing. -/
def ofRecord (r : Record) : Except MissingField Node := do
  let name ← r.require "node_name"
  let chain ← r.require "chain_name"
  return {
    name, chain
    monitored := (r.find? "monitor_node").any Flag.read
    dataSource := (r.find? "use_as_data_source").any Flag.read
    validator := r.field? "node_is_validator"
    record := r }

/-- A node that is neither monitored nor a data source. -/
def new (name chain : String) : Node where
  name := name
  chain := chain
  monitored := false
  dataSource := false
  validator := none
  record := (NameMap.empty.insert "node_name" name).insert "chain_name" chain

/-- Switches monitoring of the node. -/
def withMonitored (on : Bool) (n : Node) : Node :=
  { n with monitored := on, record := n.record.insert "monitor_node" (Flag.text on) }

/-- Switches the node's use as a data source. -/
def withDataSource (on : Bool) (n : Node) : Node :=
  { n with dataSource := on, record := n.record.insert "use_as_data_source" (Flag.text on) }

/-- Sets what is said about the node being a validator. The text is kept as it is, and a blank one
says nothing. -/
def withValidator (value : String) (n : Node) : Node :=
  { n with
    validator := if (Text.nonBlank? value).isSome then some value else none
    record := n.record.insert "node_is_validator" value }

end Node

/-- The nodes of every chain, by chain name and then by node name. -/
abbrev ChainMap := NameMap (NameMap Node)

namespace ChainMap

/-- Adds a node to its chain, in place of any node of the same name there. -/
def add (m : ChainMap) (n : Node) : ChainMap :=
  m.insert n.chain (((m.find? n.chain).getD NameMap.empty).insert n.name n)

/-- The map of the given nodes; of two nodes with the same chain and name the later stands. -/
def ofNodes (nodes : List Node) : ChainMap := nodes.foldl add NameMap.empty

/-- The node of the given name in the given chain. -/
def node? (m : ChainMap) (chain name : String) : Option Node :=
  (m.find? chain).bind fun nodes => nodes.find? name

theorem node?_add (m : ChainMap) (n : Node) (chain name : String) :
    (m.add n).node? chain name =
      if chain = n.chain ∧ name = n.name then some n else m.node? chain name := by
  unfold node? add
  rw [NameMap.find?_insert]
  by_cases h : chain = n.chain
  · subst h
    by_cases h' : name = n.name
    · simp [NameMap.find?_insert, h']
    · cases e : m.find? n.chain <;> simp [NameMap.find?_insert, h']
  · simp [h]

/-- The map that a nodes document describes. Sections are taken in the order of their names, and
sections that are no complete record of a node are passed over. -/
def ofDocument (d : Document) : ChainMap :=
  ofNodes (d.sections.values.filterMap fun r => (Node.ofRecord r).toOption)

end ChainMap

/-- The name of the repository that a record configures. -/
def Record.repositoryName (r : Record) : Except MissingField String := r.require "repo_name"

/-- The repositories that a repositories document lists. -/
def NameSet.ofDocument (d : Document) : NameSet :=
  NameSet.ofNames (d.sections.values.filterMap fun r => r.repositoryName.toOption)

end ChainDashboard
