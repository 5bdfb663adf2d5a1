/-!
The keys under which monitoring state is stored. A key is a token followed by a suffix that names
what the value is about. Keys of monitors are written per alerter and carry its identifier in
front; keys of chains and nodes are shared, and are fields of a bucket that belongs to one chain.
-/
namespace ChainDashboard

/-- How a value is looked up in the store. -/
inductive Lookup where
  /-- A plain key. -/
  | flat
  /-- A field of the chain's bucket. -/
  | hash
  deriving DecidableEq, Repr

/-- A reported field and the token that stands for it in keys. -/
structure KeyField where
  name : String
  token : String
  deriving DecidableEq, Repr

/-- What a key is about. -/
inductive KeyGroup where
  | node | nodeMonitor | blockchain | blockchainMonitor
  deriving DecidableEq, Repr

namespace KeyGroup

/-- What is reported about a node. -/
def nodeFields : List KeyField := [
  ⟨"went_down_at", "n1"⟩,
  ⟨"bonded_balance", "n2"⟩,
  ⟨"is_syncing", "n3"⟩,
  ⟨"no_of_peers", "n4"⟩,
  ⟨"active", "n5"⟩,
  ⟨"council_member", "n6"⟩,
  ⟨"elected", "n7"⟩,
  ⟨"disabled", "n8"⟩,
  ⟨"no_of_blocks_authored", "n9"⟩,
  ⟨"time_of_last_block", "n10"⟩,
  ⟨"is_authoring", "n11"⟩,
  ⟨"time_of_last_block_check_activity", "n12"⟩,
  ⟨"time_of_last_height_check_activity", "n13"⟩,
  ⟨"time_of_last_height_change", "n14"⟩,
  ⟨"finalized_block_height", "n15"⟩,
  ⟨"no_change_in_height_warning_sent", "n16"⟩,
  ⟨"auth_index", "n17"⟩]

/-- What is reported about the monitor of a node. -/
def nodeMonitorFields : List KeyField := [
  ⟨"alive", "nm1"⟩,
  ⟨"session_index", "nm2"⟩,
  ⟨"last_height_checked", "nm3"⟩]

/-- What is reported about a chain. -/
def blockchainFields : List KeyField := [
  ⟨"referendum_count", "bc1"⟩,
  ⟨"public_prop_count", "bc2"⟩,
  ⟨"council_prop_count", "bc3"⟩,
  ⟨"validator_set_size", "bc4"⟩]

/-- What is reported about the monitor of a chain. -/
def blockchainMonitorFields : List KeyField := [⟨"alive", "bcm1"⟩]

/-- Every group, in the order of the tables. -/
def all : List KeyGroup := [.node, .nodeMonitor, .blockchain, .blockchainMonitor]

/-- The name of the group. -/
def label : KeyGroup → String
  | .node => "node"
  | .nodeMonitor => "node_monitor"
  | .blockchain => "blockchain"
  | .blockchainMonitor => "blockchain_monitor"

/-- The fields of a group, in the order of its table. -/
def fields : KeyGroup → List KeyField
  | .node => nodeFields
  | .nodeMonitor => nodeMonitorFields
  | .blockchain => blockchainFields
  | .blockchainMonitor => blockchainMonitorFields

/-- Whether the keys of a group belong to one alerter. -/
def isAlerterScoped : KeyGroup → Bool
  | .nodeMonitor | .blockchainMonitor => true
  | .node | .blockchain => false

/-- Keys of one alerter are plain; shared keys are fields of a bucket. -/
def lookup (g : KeyGroup) : Lookup := if g.isAlerterScoped then .flat else .hash

/-- The end of a key about the chain or node called `scope`. -/
def suffix (scope : String) : KeyGroup → String
  | .node | .blockchain => "_" ++ scope
  | .nodeMonitor => "_Node monitor (" ++ scope ++ ")"
  | .blockchainMonitor => "_Blockchain monitor (" ++ scope ++ ")"

/-- The key of a token, about `scope`, as the alerter writes it. -/
def key (g : KeyGroup) (alerter token scope : String) : String :=
  let unscoped := token ++ g.suffix scope
  if g.isAlerterScoped then alerter ++ ":" ++ unscoped else unscoped

/-- Every field of a group with its key, in the order of the table. -/
def keys (g : KeyGroup) (alerter scope : String) : List (String × String) :=
  g.fields.map fun f => (f.name, g.key alerter f.token scope)

end KeyGroup

namespace Bucket

/-- The buckets that hold fields, by what they are about. -/
def tokens : List (String × String) := [("blockchain", "hash_bc1")]

/-- The token of the buckets that hold what is known about chains and their nodes. -/
def blockchain : String := "hash_bc1"

/-- The bucket that the alerter keeps for a chain. -/
def ofChain (alerter chain : String) : String := alerter ++ ":" ++ blockchain ++ "_" ++ chain

/-- A field that never holds a value. It is asked for in place of what is not there to be known. -/
def sentinel : String := "_dummy_key_"

end Bucket

end ChainDashboard
