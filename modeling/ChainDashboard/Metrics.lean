import ChainDashboard.Document.Basic

/-!
What the dashboard counts about itself. A counter is named by the event it counts, so that a look
at the metrics can only ask for counters that exist; their text is made in one place, `lines`.
-/
namespace ChainDashboard

/-- How a reload or a reset ended. -/
inductive ReloadResult where
  | applied | notFound | fieldMissing | reset | error
  deriving DecidableEq, Repr

/-- The name of the result in metrics. -/
def ReloadResult.label : ReloadResult → String
  | .applied => "applied"
  | .notFound => "not_found"
  | .fieldMissing => "field_missing"
  | .reset => "reset"
  | .error => "error"

/-- What a watch reports about its file. -/
inductive FileEvent where
  /-- The file is there with a content other than the one seen last. -/
  | changed
  /-- The file is not there. -/
  | deleted
  deriving DecidableEq, Repr

/-- The name of the event in metrics. -/
def FileEvent.label : FileEvent → String
  | .changed => "changed"
  | .deleted => "deleted"

/-- How building a snapshot ended. -/
inductive SnapshotResult where
  | ok | chainNotFound | storeNotConfigured | storeAuth | storeConnection | storeError
  deriving DecidableEq, Repr

/-- The name of the result in metrics. -/
def SnapshotResult.label : SnapshotResult → String
  | .ok => "ok"
  | .chainNotFound => "chain_not_found"
  | .storeNotConfigured => "store_not_configured"
  | .storeAuth => "store_auth"
  | .storeConnection => "store_connection"
  | .storeError => "store_error"

/-- An event that is counted. -/
inductive Counter where
  | reload (kind : DocumentKind) (result : ReloadResult)
  | fileEvent (kind : DocumentKind) (event : FileEvent)
  | snapshot (result : SnapshotResult)
  | invalidEndpoint (method : String)
  deriving DecidableEq, Repr

namespace Counter

/-- A label's value inside its quotes. -/
def escapeLabel (s : String) : String :=
  String.join (s.toList.map fun c =>
    if c = '\\' then "\\\\" else if c = '"' then "\\\"" else if c = '\n' then "\\n"
    else c.toString)

/-- The name of the family that a counter belongs to. -/
def family : Counter → String
  | .reload .. => "dashboard_config_reloads_total"
  | .fileEvent .. => "dashboard_config_events_total"
  | .snapshot .. => "dashboard_snapshot_requests_total"
  | .invalidEndpoint .. => "dashboard_invalid_endpoint_total"

/-- The labels that tell a counter from the others of its family. -/
def labels : Counter → List (String × String)
  | .reload kind result => [("config", kind.label), ("result", result.label)]
  | .fileEvent kind event => [("config", kind.label), ("event", event.label)]
  | .snapshot result => [("result", result.label)]
  | .invalidEndpoint method => [("method", method)]

/-- The counter with its labels. -/
def text (c : Counter) : String :=
  c.family ++ "\x7b" ++ String.intercalate ","
    (c.labels.map fun l => l.1 ++ "=\"" ++ escapeLabel l.2 ++ "\"") ++ "\x7d"

end Counter

/-- Number and sum of observed values. -/
structure Observations where
  count : Nat
  sum : Nat
  deriving DecidableEq, Repr

/-- Everything counted so far. -/
structure Metrics where
  /-- The counters that were ever increased, with their values. -/
  counters : List (Counter × Nat)
  /-- The version of the topology, once there was an update. -/
  topologyVersion : Option Nat
  /-- How many keys each read of the store asked for, once there was one. -/
  keysRequested : Option Observations
  deriving DecidableEq, Repr

namespace Metrics

/-- Nothing counted yet. -/
def empty : Metrics := ⟨[], none, none⟩

/-- Adds one to a counter in a list of counters. -/
def bump (c : Counter) : List (Counter × Nat) → List (Counter × Nat)
  | [] => [(c, 1)]
  | (other, n) :: rest => if c = other then (other, n + 1) :: rest else (other, n) :: bump c rest

/-- Counts an event. -/
def increment (m : Metrics) (c : Counter) : Metrics := { m with counters := bump c m.counters }

/-- How often an event was counted. -/
def count (m : Metrics) (c : Counter) : Nat := ((m.counters.lookup c).getD 0)

/-- Notes the version of the topology. -/
def setVersion (m : Metrics) (version : Nat) : Metrics :=
  { m with topologyVersion := some version }

/-- Notes how many keys a read asks for. -/
def observeKeys (m : Metrics) (keys : Nat) : Metrics :=
  let seen := m.keysRequested.getD ⟨0, 0⟩
  { m with keysRequested := some ⟨seen.count + 1, seen.sum + keys⟩ }

theorem lookup_bump (c other : Counter) (counters : List (Counter × Nat)) :
    ((bump c counters).lookup other).getD 0 =
      (counters.lookup other).getD 0 + if other = c then 1 else 0 := by
  induction counters with
  | nil =>
    by_cases h : other = c
    · simp [bump, h]
    · simp [bump, List.lookup_cons, beq_false_of_ne h, h]
  | cons head rest ih =>
    obtain ⟨d, n⟩ := head
    rw [bump]
    split
    · rename_i same
      subst same
      by_cases h : other = c
      · simp [h]
      · simp [List.lookup_cons, beq_false_of_ne h, h]
    · rename_i different
      by_cases h : other = d
      · subst h
        simp [Ne.symm different]
      · simp [List.lookup_cons, beq_false_of_ne h, ih]

theorem count_increment (m : Metrics) (c other : Counter) :
    (m.increment c).count other = m.count other + if other = c then 1 else 0 :=
  lookup_bump c other m.counters

@[simp] theorem count_observeKeys (m : Metrics) (keys : Nat) (c : Counter) :
    (m.observeKeys keys).count c = m.count c := rfl

/-- One line for each value, sorted. What was never recorded has no line. -/
def lines (m : Metrics) : List String :=
  let counters := m.counters.map fun (c, n) => c.text ++ " " ++ toString n
  let version := m.topologyVersion.toList.map fun v =>
    "dashboard_topology_version " ++ toString v
  let keys := (m.keysRequested.toList.map fun o => [
    "dashboard_store_keys_requested_count " ++ toString o.count,
    "dashboard_store_keys_requested_sum " ++ toString o.sum]).flatten
  (counters ++ version ++ keys).mergeSort fun a b => decide (a ≤ b)

/-- All lines as one text. -/
def text (m : Metrics) : String := String.join (m.lines.map (· ++ "\n"))

end Metrics

end ChainDashboard
