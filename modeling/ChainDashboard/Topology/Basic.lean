import ChainDashboard.Monitoring
import ChainDashboard.Topology.Settings

/-!
The topology: everything that the configuration documents say, as one value that readers take as a
whole. It is made of five slices. An update replaces one of them and counts up the version; the
others stay as they are.
-/
namespace ChainDashboard

/-- Everything the dashboard knows from its documents. -/
structure Topology where
  /-- The number of updates that led here. -/
  version : Nat
  chains : ChainMap
  repositories : NameSet
  main : MainSettings
  credentials : Option Credentials
  storeIndex : Option Int64
  deriving DecidableEq

/-- A new content for one slice. -/
inductive SliceUpdate where
  | chains (m : ChainMap)
  | repositories (names : NameSet)
  | main (settings : MainSettings)
  | credentials (c : Credentials)
  | storeIndex (index : Option Int64)
  deriving DecidableEq

namespace Topology

/-- The topology before anything was loaded. -/
def initial : Topology where
  version := 0
  chains := NameMap.empty
  repositories := NameMap.empty
  main := .none
  credentials := none
  storeIndex := none

instance : Inhabited Topology := ⟨initial⟩

/-- Replaces a slice. -/
def withSlice (t : Topology) : SliceUpdate → Topology
  | .chains m => { t with chains := m }
  | .repositories names => { t with repositories := names }
  | .main settings => { t with main := settings }
  | .credentials c => { t with credentials := some c }
  | .storeIndex index => { t with storeIndex := index }

/-- The topology that follows: one slice replaced and the version counted up. -/
def next (t : Topology) (u : SliceUpdate) : Topology :=
  { t.withSlice u with version := t.version + 1 }

@[simp] theorem version_next (t : Topology) (u : SliceUpdate) :
    (t.next u).version = t.version + 1 := rfl

/-- How the store is reached; `none` if it is not set up, disabled, or without an index. -/
def connection? (t : Topology) : Option StoreConnection :=
  match t.main.store, t.storeIndex with
  | some s, some index =>
    if s.enabled then some ⟨s.host, s.port, s.password, index⟩ else none
  | _, _ => none

end Topology

end ChainDashboard
