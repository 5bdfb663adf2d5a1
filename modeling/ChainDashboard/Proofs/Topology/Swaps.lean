import ChainDashboard.Proofs.Topology.Slices
import Mathlib.Data.List.Nodup
import Mathlib.Data.List.Range
import Mathlib.Logic.Function.Basic

/-!
# Slices replaced from many threads

Threads share one snapshot of the topology. A call that replaces a slice loads the snapshot, computes
the one that follows from it and publishes that, but only if the snapshot it loaded is still the
current one; if it is not, the call starts again from the one that is. Snapshots are told apart by
where they are kept, and what is kept at a place stays there as long as a call works from it.

However the attempts of the threads fall in between each other, the published snapshots form one
sequence in which each follows from the one before it by a single call, and each call returns the
place of its own snapshot in that sequence (`SwapHistory.Serial`). When all calls have returned,
every one of them is in the sequence exactly once (`SharedTopology.Complete`). A call that is alone
does what `LiveState.publish` does (`SharedTopology.publish_alone`).
-/

namespace ChainDashboard

/-! ## The system -/

/-- A topology and the place where it is kept. -/
structure Snapshot where
  address : Nat
  topology : Topology

/-- How far a call that replaces a slice has come. -/
inductive SwapPhase where
  | loaded (u : SliceUpdate) (seen : Snapshot)
  | computed (u : SliceUpdate) (seen : Snapshot) (next : Topology)
  /-- The next topology was published in place of a snapshot. -/
  | published (u : SliceUpdate) (replaced : Snapshot)

/-- The snapshot that the call works from. -/
def SwapPhase.seen? : SwapPhase → Option Snapshot
  | .loaded _ seen | .computed _ seen _ => some seen
  | .published _ _ => none

/-- A topology that a thread's call published. -/
structure Publication (ι : Type) where
  thread : ι
  update : SliceUpdate
  topology : Topology

/-- A thread's call that returned a version. -/
structure SwapReturn (ι : Type) where
  thread : ι
  update : SliceUpdate
  version : Nat

/-- What the call returns that published the topology. -/
def Publication.return {ι : Type} (p : Publication ι) : SwapReturn ι :=
  ⟨p.thread, p.update, p.topology.version⟩

/-- What was seen of the system, each list in the order of time. -/
structure SwapHistory (ι : Type) where
  published : List (Publication ι)
  returned : List (SwapReturn ι)
  loaded : List Topology

/-- All topologies that were ever current, from the initial one on. -/
def SwapHistory.topologies {ι : Type} (h : SwapHistory ι) : List Topology :=
  .initial :: h.published.map (·.topology)

/-- The snapshot that is shared, the metrics, and the threads with their calls. -/
structure SharedTopology (ι : Type) where
  current : Snapshot
  metrics : Metrics
  calls : ι → Option SwapPhase
  /-- What no step depends on. -/
  history : SwapHistory ι

namespace SharedTopology

variable {ι : Type} [DecidableEq ι]

/-- The system before the first call. -/
def start : SharedTopology ι where
  current := ⟨0, .initial⟩
  metrics := .empty
  calls _ := none
  history := ⟨[], [], []⟩

/-- No call is in progress. -/
def Quiet (s : SharedTopology ι) : Prop := ∀ i, s.calls i = none

/-- A place at which neither the current snapshot is kept nor one that a call works from. -/
def Free (s : SharedTopology ι) (address : Nat) : Prop :=
  s.current.address ≠ address ∧
    ∀ i phase seen, s.calls i = some phase → phase.seen? = some seen → seen.address ≠ address

/-- The thread's call is in the given phase from now on. -/
def withCall (s : SharedTopology ι) (i : ι) (phase? : Option SwapPhase) : SharedTopology ι :=
  { s with calls := Function.update s.calls i phase? }

/-- The current snapshot was loaded. -/
def noteLoad (s : SharedTopology ι) : SharedTopology ι :=
  { s with history.loaded := s.history.loaded ++ [s.current.topology] }

/-- The thread's call puts a snapshot in the place of the current one. -/
def publish (s : SharedTopology ι) (i : ι) (u : SliceUpdate) (next : Snapshot) :
    SharedTopology ι where
  current := next
  metrics := s.metrics
  calls := Function.update s.calls i (some (.published u s.current))
  history := {
    s.history with published := s.history.published ++ [⟨i, u, next.topology⟩] }

/-- The thread's call notes the version that it published, and returns it. -/
def finish (s : SharedTopology ι) (i : ι) (u : SliceUpdate) (version : Nat) :
    SharedTopology ι where
  current := s.current
  metrics := s.metrics.setVersion version
  calls := Function.update s.calls i none
  history := { s.history with returned := s.history.returned ++ [⟨i, u, version⟩] }

/-- The steps of the system. Every thread that has no call may start one with any update. -/
inductive Step (s : SharedTopology ι) : SharedTopology ι → Prop where
  /-- A reader loads the snapshot. -/
  | read : Step s s.noteLoad
  | load {i : ι} (u : SliceUpdate) (idle : s.calls i = none) :
    Step s (s.noteLoad.withCall i (some (.loaded u s.current)))
  | compute {i : ι} {u : SliceUpdate} {seen : Snapshot}
    (loaded : s.calls i = some (.loaded u seen)) :
    Step s (s.withCall i (some (.computed u seen (seen.topology.next u))))
  | publish {i : ι} {u : SliceUpdate} {seen : Snapshot} {next : Topology} {address : Nat}
    (computed : s.calls i = some (.computed u seen next))
    (unchanged : seen.address = s.current.address) (free : s.Free address) :
    Step s (s.publish i u ⟨address, next⟩)
  | retry {i : ι} {u : SliceUpdate} {seen : Snapshot} {next : Topology}
    (computed : s.calls i = some (.computed u seen next))
    (changed : seen.address ≠ s.current.address) :
    Step s (s.noteLoad.withCall i (some (.loaded u s.current)))
  /-- The version of the replaced snapshot tells which version was published. -/
  | finish {i : ι} {u : SliceUpdate} {replaced : Snapshot}
    (published : s.calls i = some (.published u replaced)) :
    Step s (s.finish i u (replaced.topology.version + 1))

end SharedTopology

/-- The live state that the system is in. -/
def SharedTopology.live {ι : Type} (s : SharedTopology ι) : LiveState :=
  ⟨s.current.topology, s.metrics⟩

/-- The states that the system can be in. -/
inductive SwapRun {ι : Type} [DecidableEq ι] : SharedTopology ι → Prop where
  | start : SwapRun .start
  | step {s s' : SharedTopology ι} (run : SwapRun s) (step : s.Step s') : SwapRun s'

/-! ## What the history says -/

/-- One topology follows from another by an update: the version is counted up, the update's slice
holds what the update says, and the other slices are as before. -/
structure Topology.Follows (before : Topology) (u : SliceUpdate) (after : Topology) : Prop where
  version : after.version = before.version + 1
  held : u.HeldBy after
  others : ∀ kind, u.kind ≠ kind → after.Agree kind before

theorem Topology.follows_next (t : Topology) (u : SliceUpdate) : t.Follows u (t.next u) where
  version := rfl
  held := SliceUpdate.heldBy_next t u
  others _ other := Agree.next_other other t

/-- The calls fit into one sequence of topologies. -/
structure SwapHistory.Serial {ι : Type} (h : SwapHistory ι) : Prop where
  /-- The version is the place in the sequence. -/
  numbered : h.topologies.map (·.version) = List.range h.topologies.length
  loaded : ∀ t ∈ h.loaded, t ∈ h.topologies
  /-- The version that a call returns is that of the topology it published. -/
  returned : ∀ r ∈ h.returned, ∃ v before after, r.version = v + 1 ∧
    h.topologies[v]? = some before ∧ h.topologies[v + 1]? = some after ∧
    before.Follows r.update after
  /-- A thread's later call returns a later version. -/
  ascending : h.returned.Pairwise fun a b => a.thread = b.thread → a.version < b.version
  distinct : (h.returned.map (·.version)).Nodup

namespace SharedTopology

variable {ι : Type} [DecidableEq ι]

/-- Every call that was made is in the sequence, and none is lost. -/
structure Complete (s : SharedTopology ι) : Prop where
  version : s.current.topology.version = s.history.returned.length
  versions : (s.history.returned.map (·.version)).Perm
    (List.range' 1 s.history.returned.length)
  /-- A slice holds what the call of the highest version among its own said. -/
  latest : ∀ r ∈ s.history.returned,
    (∀ r' ∈ s.history.returned, r'.update.kind = r.update.kind → r'.version ≤ r.version) →
    r.update.HeldBy s.current.topology
  untouched : ∀ kind, (∀ r ∈ s.history.returned, r.update.kind ≠ kind) →
    s.current.topology.Agree kind .initial

/-- The thread has published a topology and is about to return its version. -/
def Owes (s : SharedTopology ι) (r : SwapReturn ι) : Prop :=
  ∃ replaced, s.calls r.thread = some (.published r.update replaced) ∧
    r.version = replaced.topology.version + 1

end SharedTopology

/-! ## The invariant -/

theorem getElem?_concat_eq_some {α : Type} {l : List α} {a b : α} {n : Nat}
    (h : (l ++ [a])[n]? = some b) : l[n]? = some b ∨ n = l.length ∧ a = b := by
  rw [List.getElem?_append] at h
  split at h
  · exact .inl h
  · obtain ⟨last, rfl⟩ := List.getElem?_eq_some_iff.mp h
    exact .inr ⟨by rw [List.length_singleton] at last; omega, by simp⟩

/-- What every run keeps. -/
structure SwapInvariant {ι : Type} [DecidableEq ι] (s : SharedTopology ι) : Prop where
  current : s.history.topologies.getLast? = some s.current.topology
  numbered : s.history.topologies.map (·.version) = List.range s.history.topologies.length
  loaded : ∀ t ∈ s.history.loaded, t ∈ s.history.topologies
  chained : ∀ (v : Nat) (p : Publication ι), s.history.published[v]? = some p →
    ∃ before, s.history.topologies[v]? = some before ∧ p.topology = before.next p.update
  /-- A snapshot that is where the current one is, is the current one. -/
  seen : ∀ i phase seen, s.calls i = some phase → phase.seen? = some seen →
    seen.address = s.current.address → seen = s.current
  computed : ∀ i u seen next, s.calls i = some (.computed u seen next) →
    next = seen.topology.next u
  /-- What was published is returned, or is going to be. -/
  accounted : ∀ r, r ∈ s.history.published.map (·.return) ↔ r ∈ s.history.returned ∨ s.Owes r
  ascending : s.history.returned.Pairwise fun a b => a.thread = b.thread → a.version < b.version
  owed : ∀ r, s.Owes r → ∀ r' ∈ s.history.returned, r'.thread = r.thread →
    r'.version < r.version

namespace SharedTopology

variable {ι : Type} [DecidableEq ι] {s : SharedTopology ι} {i : ι}

/-- A call after one thread's call was changed is that one or was there before. -/
theorem call_of_update {calls : ι → Option SwapPhase} {j : ι} {phase? : Option SwapPhase}
    {phase : SwapPhase} (h : Function.update calls i phase? j = some phase) :
    phase? = some phase ∧ j = i ∨ calls j = some phase := by
  by_cases own : j = i
  · subst own
    rw [Function.update_self] at h
    exact .inl ⟨h, rfl⟩
  · rw [Function.update_of_ne own] at h
    exact .inr h

/-- Only a published call owes, so a call that goes on otherwise changes no debts. -/
theorem owes_withCall {phase : SwapPhase}
    (before : ∀ u replaced, s.calls i ≠ some (.published u replaced))
    (after : ∀ u replaced, phase ≠ .published u replaced) (r : SwapReturn ι) :
    (s.withCall i (some phase)).Owes r ↔ s.Owes r := by
  by_cases own : r.thread = i
  · subst own
    simp [Owes, withCall, before, after]
  · simp [Owes, withCall, own]

theorem owes_publish {u : SliceUpdate} {next : Snapshot} (r : SwapReturn ι)
    (before : ∀ u replaced, s.calls i ≠ some (.published u replaced)) :
    (s.publish i u next).Owes r ↔
      r = ⟨i, u, s.current.topology.version + 1⟩ ∨ s.Owes r := by
  obtain ⟨thread, update, version⟩ := r
  by_cases own : thread = i
  · subst own
    simp [Owes, publish, before, eq_comm]
  · simp [Owes, publish, own]

theorem owes_finish {u : SliceUpdate} {replaced : Snapshot}
    (published : s.calls i = some (.published u replaced)) (r : SwapReturn ι) :
    (s.finish i u (replaced.topology.version + 1)).Owes r ↔
      s.Owes r ∧ r ≠ ⟨i, u, replaced.topology.version + 1⟩ := by
  obtain ⟨thread, update, version⟩ := r
  by_cases own : thread = i
  · subst own
    simp [Owes, finish, published, eq_comm]
  · simp [Owes, finish, own]

omit [DecidableEq ι] in
theorem Owes.unique {r r' : SwapReturn ι} (h : s.Owes r) (h' : s.Owes r')
    (same : r.thread = r'.thread) : r = r' := by
  obtain ⟨thread, update, version⟩ := r
  obtain ⟨thread', update', version'⟩ := r'
  obtain ⟨replaced, published, rfl⟩ := h
  obtain ⟨replaced', published', rfl⟩ := h'
  cases same
  cases published.symm.trans published'
  rfl

end SharedTopology

/-- A call that no other call interrupts publishes its update; it has yet to return. -/
theorem SharedTopology.publishes_alone {ι : Type} [DecidableEq ι] {s : SharedTopology ι} {i : ι}
    {address : Nat} (idle : s.calls i = none) (free : s.Free address) (u : SliceUpdate) :
    ∃ s', Relation.ReflTransGen Step s s' ∧ s'.live = ⟨s.current.topology.next u, s.metrics⟩ ∧
      s'.calls = Function.update s.calls i (some (.published u s.current)) := by
  let loaded := s.noteLoad.withCall i (some (.loaded u s.current))
  let next := s.current.topology.next u
  let computed := loaded.withCall i (some (.computed u s.current next))
  have own {phase : SwapPhase} {calls : ι → Option SwapPhase} :
      Function.update calls i (some phase) i = some phase := Function.update_self ..
  have stillFree : computed.Free address := by
    refine ⟨free.1, fun j phase seen call works => ?_⟩
    rcases call_of_update call with ⟨⟨⟩, -⟩ | other
    · cases works
      exact free.1
    rcases call_of_update other with ⟨⟨⟩, -⟩ | before
    · cases works
      exact free.1
    · exact free.2 j phase seen before works
  refine ⟨computed.publish i u ⟨address, next⟩, ?_, rfl, ?_⟩
  · exact .head (.load u idle) <| .head (.compute own) <| .single (.publish own rfl stillFree)
  · simp [computed, loaded, publish, withCall, noteLoad]

/-- A call that no other call interrupts publishes its update on the live state. -/
theorem SharedTopology.publish_alone {ι : Type} [DecidableEq ι] {s : SharedTopology ι} {i : ι}
    {address : Nat} (idle : s.calls i = none) (free : s.Free address) (u : SliceUpdate) :
    ∃ s', Relation.ReflTransGen Step s s' ∧ s'.live = s.live.publish u ∧ s'.calls = s.calls := by
  obtain ⟨published, steps, live, calls⟩ := publishes_alone idle free u
  have own : published.calls i = some (.published u s.current) := by
    rw [calls, Function.update_self]
  refine ⟨published.finish i u (s.current.topology.version + 1), steps.tail (.finish own), ?_, ?_⟩
  · obtain ⟨topology, metrics⟩ := LiveState.mk.inj live
    rw [SharedTopology.live, finish, topology, metrics]
    rfl
  · simp [finish, calls, ← idle]

theorem SwapHistory.length_topologies {ι : Type} (h : SwapHistory ι) :
    h.topologies.length = h.published.length + 1 := by
  simp [topologies]

theorem SwapHistory.getElem?_topologies_succ {ι : Type} (h : SwapHistory ι) (v : Nat) :
    h.topologies[v + 1]? = h.published[v]?.map (·.topology) := by
  rw [topologies, List.getElem?_cons_succ, List.getElem?_map]

namespace SwapInvariant

variable {ι : Type} [DecidableEq ι] {s : SharedTopology ι} {i : ι}

theorem start : SwapInvariant (.start : SharedTopology ι) where
  current := rfl
  numbered := rfl
  loaded _ h := nomatch h
  chained _ _ h := nomatch h
  seen _ _ _ h := nomatch h
  computed _ _ _ _ h := nomatch h
  accounted r := by simp [SharedTopology.start, SharedTopology.Owes]
  ascending := .nil
  owed _ _ _ h := nomatch h

/-- The current topology is the last of the sequence. -/
theorem last (inv : SwapInvariant s) :
    s.history.topologies[s.history.published.length]? = some s.current.topology := by
  rw [← inv.current, List.getLast?_eq_getElem?, SwapHistory.length_topologies,
    Nat.add_sub_cancel]

theorem version_eq (inv : SwapInvariant s) {v : Nat} {t : Topology}
    (h : s.history.topologies[v]? = some t) : t.version = v := by
  have place := congrArg (·[v]?) inv.numbered
  obtain ⟨inside, -⟩ := List.getElem?_eq_some_iff.mp h
  simpa [h, List.getElem?_range inside] using place

theorem version_current (inv : SwapInvariant s) :
    s.current.topology.version = s.history.published.length :=
  inv.version_eq inv.last

/-- A published topology has its place as its version. -/
theorem version_published (inv : SwapInvariant s) {v : Nat} {p : Publication ι}
    (h : s.history.published[v]? = some p) : p.topology.version = v + 1 := by
  refine inv.version_eq ?_
  rw [SwapHistory.getElem?_topologies_succ, h, Option.map_some]

theorem version_returned_le (inv : SwapInvariant s) {r : SwapReturn ι}
    (h : r ∈ s.history.returned) : r.version ≤ s.current.topology.version := by
  obtain ⟨p, published, rfl⟩ := List.mem_map.mp ((inv.accounted r).mpr (.inl h))
  obtain ⟨v, place⟩ := List.getElem?_of_mem published
  rw [inv.version_current]
  show p.topology.version ≤ _
  rw [inv.version_published place]
  exact (List.getElem?_eq_some_iff.mp place).1

theorem noteLoad (inv : SwapInvariant s) : SwapInvariant s.noteLoad where
  current := inv.current
  numbered := inv.numbered
  loaded t h := by
    rcases List.mem_append.mp h with h | h
    · exact inv.loaded t h
    · rw [List.mem_singleton.mp h]
      exact List.mem_of_getLast? inv.current
  chained := inv.chained
  seen := inv.seen
  computed := inv.computed
  accounted := inv.accounted
  ascending := inv.ascending
  owed := inv.owed

/-- A call that goes on without publishing. -/
theorem withCall (inv : SwapInvariant s) {phase : SwapPhase}
    (before : ∀ u replaced, s.calls i ≠ some (.published u replaced))
    (after : ∀ u replaced, phase ≠ .published u replaced)
    (seen : ∀ seen, phase.seen? = some seen → seen.address = s.current.address →
      seen = s.current)
    (computed : ∀ u seen next, phase = .computed u seen next → next = seen.topology.next u) :
    SwapInvariant (s.withCall i (some phase)) where
  current := inv.current
  numbered := inv.numbered
  loaded := inv.loaded
  chained := inv.chained
  seen j p snapshot call works same := by
    rcases SharedTopology.call_of_update call with ⟨own, -⟩ | other
    · cases own
      exact seen snapshot works same
    · exact inv.seen j p snapshot other works same
  computed j u snapshot next call := by
    rcases SharedTopology.call_of_update call with ⟨own, -⟩ | other
    · exact computed u snapshot next (Option.some.inj own)
    · exact inv.computed j u snapshot next other
  accounted r := by
    rw [SharedTopology.owes_withCall before after]
    exact inv.accounted r
  ascending := inv.ascending
  owed r debt := inv.owed r ((SharedTopology.owes_withCall before after r).mp debt)

/-- A call that starts from the current snapshot, for the first time or again. -/
theorem load (inv : SwapInvariant s) {u : SliceUpdate}
    (before : ∀ u replaced, s.calls i ≠ some (.published u replaced)) :
    SwapInvariant (s.noteLoad.withCall i (some (.loaded u s.current))) := by
  refine inv.noteLoad.withCall before (fun _ _ same => nomatch same) ?_
    (fun _ _ _ same => nomatch same)
  rintro seen ⟨⟩ -
  rfl

theorem publish (inv : SwapInvariant s) {u : SliceUpdate} {seen : Snapshot} {next : Topology}
    {address : Nat} (computed : s.calls i = some (.computed u seen next))
    (unchanged : seen.address = s.current.address) (free : s.Free address) :
    SwapInvariant (s.publish i u ⟨address, next⟩) := by
  have follows : next = s.current.topology.next u := by
    rw [inv.computed i u seen next computed, inv.seen i _ seen computed rfl unchanged]
  have topologies : (s.publish i u ⟨address, next⟩).history.topologies =
      s.history.topologies ++ [next] := by
    simp [SharedTopology.publish, SwapHistory.topologies]
  have unpublished : ∀ u' replaced, s.calls i ≠ some (.published u' replaced) := by
    intro u' replaced published
    cases computed.symm.trans published
  constructor
  case current => rw [topologies, List.getLast?_concat]; rfl
  case numbered =>
    rw [topologies, List.map_append, inv.numbered, List.length_append, List.length_singleton,
      List.range_succ, List.map_singleton, follows, Topology.version_next, inv.version_current,
      SwapHistory.length_topologies]
  case loaded =>
    intro t h
    rw [topologies]
    exact List.mem_append_left _ (inv.loaded t h)
  case chained =>
    intro v p place
    rw [topologies]
    rcases getElem?_concat_eq_some place with old | ⟨rfl, rfl⟩
    · obtain ⟨before, found, made⟩ := inv.chained v p old
      obtain ⟨inside, -⟩ := List.getElem?_eq_some_iff.mp found
      exact ⟨before, (List.getElem?_append_left inside).trans found, made⟩
    · obtain ⟨inside, -⟩ := List.getElem?_eq_some_iff.mp inv.last
      exact ⟨s.current.topology, (List.getElem?_append_left inside).trans inv.last, follows⟩
  case seen =>
    intro j phase snapshot call works same
    rcases SharedTopology.call_of_update call with ⟨own, -⟩ | other
    · cases own
      cases works
    · -- the new snapshot is at a place where no call had one
      exact absurd same (free.2 j phase snapshot other works)
  case computed =>
    intro j u' snapshot next' call
    rcases SharedTopology.call_of_update call with ⟨own, -⟩ | other
    · cases own
    · exact inv.computed j u' snapshot next' other
  case accounted =>
    intro r
    rw [SharedTopology.owes_publish r unpublished, SharedTopology.publish, List.map_append,
      List.mem_append, inv.accounted r, follows]
    simp [Publication.return, or_assoc, or_comm]
  case ascending => exact inv.ascending
  case owed =>
    intro r debt r' returned same
    rcases (SharedTopology.owes_publish r unpublished).mp debt with rfl | before
    · exact Nat.lt_succ_of_le (inv.version_returned_le returned)
    · exact inv.owed r before r' returned same

theorem finish (inv : SwapInvariant s) {u : SliceUpdate} {replaced : Snapshot}
    (published : s.calls i = some (.published u replaced)) :
    SwapInvariant (s.finish i u (replaced.topology.version + 1)) := by
  have debt : s.Owes ⟨i, u, replaced.topology.version + 1⟩ := ⟨replaced, published, rfl⟩
  constructor
  case current => exact inv.current
  case numbered => exact inv.numbered
  case loaded => exact inv.loaded
  case chained => exact inv.chained
  case seen =>
    intro j phase snapshot call works same
    rcases SharedTopology.call_of_update call with ⟨own, -⟩ | other
    · cases own
    · exact inv.seen j phase snapshot other works same
  case computed =>
    intro j u' snapshot next call
    rcases SharedTopology.call_of_update call with ⟨own, -⟩ | other
    · cases own
    · exact inv.computed j u' snapshot next other
  case accounted =>
    intro r
    rw [SharedTopology.owes_finish published, SharedTopology.finish, List.mem_append,
      List.mem_singleton]
    refine (inv.accounted r).trans ?_
    by_cases paid : r = ⟨i, u, replaced.topology.version + 1⟩
    · subst paid
      simp [debt]
    · simp [paid]
  case ascending =>
    refine List.pairwise_append.mpr ⟨inv.ascending, List.pairwise_singleton _ _, ?_⟩
    intro before returned last isLast
    rw [List.mem_singleton.mp isLast]
    exact inv.owed _ debt before returned
  case owed =>
    intro r owes r' returned same
    obtain ⟨owes, different⟩ := (SharedTopology.owes_finish published r).mp owes
    rcases List.mem_append.mp returned with before | last
    · exact inv.owed r owes r' before same
    · -- a thread owes for one call at a time
      rw [List.mem_singleton.mp last] at same
      exact absurd (owes.unique debt same.symm) different

/-- One step keeps the invariant. -/
theorem step (inv : SwapInvariant s) {s' : SharedTopology ι} (step : s.Step s') :
    SwapInvariant s' := by
  cases step with
  | read => exact inv.noteLoad
  | load u idle =>
    exact inv.load fun _ _ published => nomatch idle.symm.trans published
  | compute loaded =>
    refine inv.withCall ?_ ?_ ?_ ?_
    · intro u' replaced published
      cases loaded.symm.trans published
    · rintro u' replaced ⟨⟩
    · rintro seen ⟨⟩ same
      exact inv.seen _ _ _ loaded rfl same
    · rintro u' seen next ⟨⟩
      rfl
  | publish computed unchanged free => exact inv.publish computed unchanged free
  | retry computed changed =>
    exact inv.load fun _ _ published => nomatch computed.symm.trans published
  | finish published => exact inv.finish published

/-- Every run keeps it. -/
theorem run (run : SwapRun s) : SwapInvariant s := by
  induction run with
  | start => exact start
  | step _ step ih => exact ih.step step

/-! ## What follows from the invariant -/

/-- What was returned was published at the place that the version tells. -/
theorem place_of_returned (inv : SwapInvariant s) {r : SwapReturn ι}
    (h : r ∈ s.history.returned) :
    ∃ v p, s.history.published[v]? = some p ∧ p.return = r ∧ r.version = v + 1 := by
  obtain ⟨p, published, rfl⟩ := List.mem_map.mp ((inv.accounted r).mpr (.inl h))
  obtain ⟨v, place⟩ := List.getElem?_of_mem published
  exact ⟨v, p, place, rfl, inv.version_published place⟩

theorem eq_of_version_eq (inv : SwapInvariant s) {r r' : SwapReturn ι}
    (h : r ∈ s.history.returned) (h' : r' ∈ s.history.returned) (same : r.version = r'.version) :
    r = r' := by
  obtain ⟨v, p, place, rfl, version⟩ := inv.place_of_returned h
  obtain ⟨v', p', place', rfl, version'⟩ := inv.place_of_returned h'
  obtain rfl : v = v' := by omega
  cases place.symm.trans place'
  rfl

theorem serial (inv : SwapInvariant s) : s.history.Serial where
  numbered := inv.numbered
  loaded := inv.loaded
  returned r h := by
    obtain ⟨v, p, place, rfl, version⟩ := inv.place_of_returned h
    obtain ⟨before, found, made⟩ := inv.chained v p place
    refine ⟨v, before, p.topology, version, found, ?_, made ▸ before.follows_next p.update⟩
    rw [SwapHistory.getElem?_topologies_succ, place, Option.map_some]
  ascending := inv.ascending
  distinct := by
    refine List.pairwise_map.mpr (inv.ascending.imp_of_mem ?_)
    intro r r' h h' later same
    -- calls of one version are one call, and that is not later than itself
    have one := inv.eq_of_version_eq h h' same
    exact absurd (later (congrArg (·.thread) one)) (by omega)

theorem versions_published (inv : SwapInvariant s) :
    s.history.published.map (·.return.version) = List.range' 1 s.history.published.length := by
  refine List.ext_getElem (by simp) fun v inside _ => ?_
  rw [List.length_map] at inside
  rw [List.getElem_map, List.getElem_range', Nat.one_mul, Nat.add_comm]
  exact inv.version_published (List.getElem?_eq_getElem inside)

/-- When no call is in progress, what was published is what was returned. -/
theorem returned_perm (inv : SwapInvariant s) (quiet : s.Quiet) :
    s.history.returned.Perm (s.history.published.map (·.return)) := by
  have published : (s.history.published.map (·.return)).Nodup := by
    refine List.Nodup.of_map (·.version) ?_
    rw [List.map_map]
    exact inv.versions_published.symm ▸ List.nodup_range'
  refine (List.perm_ext_iff_of_nodup (.of_map _ inv.serial.distinct) published).mpr fun r => ?_
  rw [inv.accounted r, or_iff_left]
  rintro ⟨replaced, owing, -⟩
  exact nomatch (quiet r.thread).symm.trans owing

/-- What holds at a place of the sequence, and is kept by each call after it, holds in the end. -/
theorem current_of_kept (inv : SwapInvariant s) {P : Topology → Prop} {v : Nat} {t : Topology}
    (place : s.history.topologies[v]? = some t) (holds : P t)
    (kept : ∀ w p before, s.history.published[w]? = some p → v ≤ w → P before →
      P (before.next p.update)) :
    P s.current.topology := by
  -- the induction is on how far a topology is behind the place
  have later : ∀ n t, s.history.topologies[v + n]? = some t → P t := by
    intro n
    induction n with
    | zero =>
      intro t' found
      cases place.symm.trans found
      exact holds
    | succ n ih =>
      intro t' found
      rw [← Nat.add_assoc, SwapHistory.getElem?_topologies_succ] at found
      obtain ⟨p, published, rfl⟩ := Option.map_eq_some_iff.mp found
      obtain ⟨before, found, made⟩ := inv.chained _ p published
      rw [made]
      exact kept _ p before published (Nat.le_add_right v n) (ih before found)
  obtain ⟨inside, -⟩ := List.getElem?_eq_some_iff.mp place
  rw [SwapHistory.length_topologies] at inside
  refine later (s.history.published.length - v) _ ?_
  rw [Nat.add_sub_cancel' (Nat.le_of_lt_succ inside)]
  exact inv.last

theorem complete (inv : SwapInvariant s) (quiet : s.Quiet) : s.Complete := by
  have perm := inv.returned_perm quiet
  have length : s.history.returned.length = s.history.published.length := by
    rw [perm.length_eq, List.length_map]
  have returned {v : Nat} {p : Publication ι} (place : s.history.published[v]? = some p) :
      p.return ∈ s.history.returned :=
    perm.mem_iff.mpr (List.mem_map_of_mem (List.mem_of_getElem? place))
  constructor
  case version => rw [length, inv.version_current]
  case versions =>
    rw [length, ← inv.versions_published]
    simpa [Function.comp_def] using perm.map (·.version)
  case latest =>
    intro r h highest
    obtain ⟨v, p, place, rfl, version⟩ := inv.place_of_returned h
    obtain ⟨before, -, made⟩ := inv.chained v p place
    have last : s.history.topologies[v + 1]? = some p.topology := by
      rw [SwapHistory.getElem?_topologies_succ, place, Option.map_some]
    have held : p.update.HeldBy p.topology := made ▸ SliceUpdate.heldBy_next before p.update
    refine inv.current_of_kept (P := fun t => p.update.HeldBy t) last held ?_
    · intro w p' before' place' after held
      refine held.of_agree (Topology.Agree.next_other ?_ before')
      intro same
      have later : p'.topology.version ≤ p.topology.version :=
        highest p'.return (returned place') same
      rw [inv.version_published place, inv.version_published place'] at later
      omega
  case untouched =>
    intro kind others
    refine inv.current_of_kept (P := fun t => t.Agree kind .initial) (v := 0) rfl
      (.refl kind .initial) ?_
    intro w p before place _ agree
    exact (Topology.Agree.next_other (others p.return (returned place)) before).trans agree

end SwapInvariant

/-- **No update is lost**, whatever the threads call and however their attempts interleave: the
published topologies form one sequence in which each call has its place, and once no call is in
progress the sequence consists of the calls that returned. -/
theorem swaps_are_serial {ι : Type} [DecidableEq ι] {s : SharedTopology ι} (run : SwapRun s) :
    s.history.Serial ∧ (s.Quiet → s.Complete) :=
  ⟨(SwapInvariant.run run).serial, (SwapInvariant.run run).complete⟩

/-- Two threads load the same snapshot. One publishes first, so the other has to try again; it
puts its own where the initial one was. -/
theorem swaps_are_serial_retried :
    ∃ s : SharedTopology Bool, SwapRun s ∧ s.Quiet ∧ s.history.Serial ∧ s.Complete ∧
      s.history.returned = [⟨false, .storeIndex (some 1), 1⟩, ⟨true, .main .none, 2⟩] ∧
      s.history.loaded.map (·.version) = [0, 0, 1] := by
  have overtaken := (SwapRun.start : SwapRun (SharedTopology.start : SharedTopology Bool))
    |>.step (.load (i := true) (.main .none) rfl)
    |>.step (.load (i := false) (.storeIndex (some 1)) rfl)
    |>.step (.compute (i := true) rfl)
    |>.step (.compute (i := false) rfl)
    |>.step (.publish (i := false) rfl rfl (show SharedTopology.Free _ 1 by
      refine ⟨by decide, ?_⟩
      rintro (_ | _) phase seen ⟨⟩ ⟨⟩ <;> decide))
  have run := overtaken
    |>.step (.retry (i := true) rfl (by decide))
    |>.step (.finish (i := false) rfl)
    |>.step (.compute (i := true) rfl)
    |>.step (.publish (i := true) rfl rfl (show SharedTopology.Free _ 0 by
      refine ⟨by decide, ?_⟩
      rintro (_ | _) phase seen ⟨⟩ ⟨⟩
      decide))
    |>.step (.finish (i := true) rfl)
  obtain ⟨serial, complete⟩ := swaps_are_serial run
  refine ⟨_, run, ?quiet, serial, complete ?quiet, rfl, rfl⟩
  rintro (_ | _) <;> rfl

end ChainDashboard
