import ChainDashboard.Proofs.Topology.Swaps

/-!
# The version that the metrics show

A call that replaces a slice notes its version in the metrics after it has published the topology,
in a step of its own. Other calls may publish and note theirs in between, so the metrics show the
version of the call that returned last (`SwapRun.shown`). That is the version of the current
topology exactly when this call also published last (`shown_version`). When a call is overtaken
between its two steps, however many calls overtake it, the metrics stay behind
(`SwapRun.exists_behind`), and nothing but another call puts them right.
-/

namespace ChainDashboard

namespace SharedTopology

variable {ι : Type} [DecidableEq ι]

/-- The version that the metrics show is never ahead of the topology, and it is that of the call
that returned last. -/
structure ShowsVersion (s : SharedTopology ι) : Prop where
  last : s.metrics.topologyVersion = s.history.returned.getLast?.map (·.version)
  behind : ∀ version, s.metrics.topologyVersion = some version →
    1 ≤ version ∧ version ≤ s.current.topology.version
  /-- When all calls have returned, it is the current version exactly if the call that published
  last was the last one to return. -/
  current : s.Quiet → s.history.returned ≠ [] →
    (s.metrics.topologyVersion = some s.current.topology.version ↔
      s.history.returned.getLast? = s.history.published.getLast?.map (·.return))

end SharedTopology

section Shown

variable {ι : Type} [DecidableEq ι] {s s' : SharedTopology ι}

open SharedTopology

/-- The metrics and the returned calls change together. -/
theorem SharedTopology.Step.shown (step : s.Step s')
    (before : s.metrics.topologyVersion = s.history.returned.getLast?.map (·.version)) :
    s'.metrics.topologyVersion = s'.history.returned.getLast?.map (·.version) := by
  cases step with
  | read => exact before
  | load u idle => exact before
  | compute loaded => exact before
  | publish computed unchanged free => exact before
  | retry computed changed => exact before
  | finish published => simp [SharedTopology.finish, Metrics.setVersion]

theorem SwapRun.shown (run : SwapRun s) :
    s.metrics.topologyVersion = s.history.returned.getLast?.map (·.version) := by
  induction run with
  | start => rfl
  | step _ step ih => exact step.shown ih

namespace SwapInvariant

theorem one_le_version_returned (inv : SwapInvariant s) {r : SwapReturn ι}
    (h : r ∈ s.history.returned) : 1 ≤ r.version := by
  obtain ⟨v, p, -, -, version⟩ := inv.place_of_returned h
  omega

/-- The call that published last has published the current topology. -/
theorem version_getLast_published (inv : SwapInvariant s) {p : Publication ι}
    (last : s.history.published.getLast? = some p) :
    p.return.version = s.current.topology.version := by
  rw [List.getLast?_eq_getElem?] at last
  have inside := (List.getElem?_eq_some_iff.mp last).1
  calc p.return.version
    _ = s.history.published.length - 1 + 1 := inv.version_published last
    _ = s.history.published.length := by omega
    _ = s.current.topology.version := inv.version_current.symm

/-- Only the call that published last has returned the current version. -/
theorem eq_return_of_version_current (inv : SwapInvariant s) (quiet : s.Quiet) {r : SwapReturn ι}
    (h : r ∈ s.history.returned) {p : Publication ι}
    (last : s.history.published.getLast? = some p)
    (current : r.version = s.current.topology.version) : r = p.return := by
  have returned : p.return ∈ s.history.returned :=
    (inv.returned_perm quiet).mem_iff.mpr (List.mem_map_of_mem (List.mem_of_getLast? last))
  exact inv.eq_of_version_eq h returned (current.trans (inv.version_getLast_published last).symm)

end SwapInvariant

end Shown

/-- **The metrics show the version that was returned last**, which need not be the current one. -/
theorem shown_version {ι : Type} [DecidableEq ι] {s : SharedTopology ι} (run : SwapRun s) :
    s.ShowsVersion := by
  have inv := SwapInvariant.run run
  constructor
  case last => exact run.shown
  case behind =>
    intro version shown
    rw [run.shown] at shown
    obtain ⟨r, last, rfl⟩ := Option.map_eq_some_iff.mp shown
    have returned := List.mem_of_getLast? last
    exact ⟨inv.one_le_version_returned returned, inv.version_returned_le returned⟩
  case current =>
    intro quiet called
    obtain ⟨r, last⟩ := List.getLast?_isSome.mpr called |> Option.isSome_iff_exists.mp
    have returned := List.mem_of_getLast? last
    obtain ⟨p, published⟩ : ∃ p, s.history.published.getLast? = some p := by
      obtain ⟨p, member, -⟩ := List.mem_map.mp ((inv.returned_perm quiet).mem_iff.mp returned)
      exact Option.isSome_iff_exists.mp (List.getLast?_isSome.mpr (List.ne_nil_of_mem member))
    rw [run.shown, last, published, Option.map_some, Option.map_some, Option.some.injEq,
      Option.some.injEq]
    constructor
    · exact inv.eq_return_of_version_current quiet returned published
    · rintro rfl
      exact inv.version_getLast_published published

/-- Two calls overlap, and the one that published last is the last to return. -/
theorem shown_version_inOrder :
    ∃ s : SharedTopology Bool, SwapRun s ∧ s.ShowsVersion ∧ s.Quiet ∧
      s.history.returned = [⟨false, .storeIndex (some 1), 1⟩, ⟨true, .main .none, 2⟩] ∧
      s.metrics.topologyVersion = some 2 ∧ s.current.topology.version = 2 := by
  have published := (SwapRun.start : SwapRun (SharedTopology.start : SharedTopology Bool))
    |>.step (.load (i := false) (.storeIndex (some 1)) rfl)
    |>.step (.compute (i := false) rfl)
    |>.step (.publish (i := false) rfl rfl (show SharedTopology.Free _ 1 by
      refine ⟨by decide, ?_⟩
      rintro (_ | _) phase seen ⟨⟩ ⟨⟩
      decide))
    |>.step (.load (i := true) (.main .none) rfl)
    |>.step (.compute (i := true) rfl)
    |>.step (.publish (i := true) rfl rfl (show SharedTopology.Free _ 2 by
      refine ⟨by decide, ?_⟩
      rintro (_ | _) phase seen ⟨⟩ ⟨⟩
      decide))
  have run := published
    |>.step (.finish (i := false) rfl)
    |>.step (.finish (i := true) rfl)
  refine ⟨_, run, shown_version run, ?_, rfl, rfl, rfl⟩
  rintro (_ | _) <;> rfl

/-! ## Calls that are overtaken -/

section Overtaken

variable {ι : Type} [DecidableEq ι] {s s' : SharedTopology ι}

open SharedTopology

theorem SwapRun.trans (run : SwapRun s) (steps : Relation.ReflTransGen Step s s') : SwapRun s' := by
  induction steps with
  | refl => exact run
  | tail _ step ih => exact ih.step step

omit [DecidableEq ι] in
/-- If no call works from a snapshot, there is a place for a new one. -/
theorem SharedTopology.exists_free
    (none_works : ∀ i phase, s.calls i = some phase → phase.seen? = none) :
    ∃ address, s.Free address := by
  refine ⟨s.current.address + 1, by omega, fun i phase seen call works => ?_⟩
  cases (none_works i phase call).symm.trans works

theorem LiveState.version_publishAll (updates : List SliceUpdate) (s : LiveState) :
    (updates.foldl publish s).topology.version = s.topology.version + updates.length := by
  induction updates generalizing s with
  | nil => rfl
  | cons u rest ih =>
    rw [List.foldl_cons, ih, LiveState.publish, Topology.version_next, List.length_cons]
    omega

/-- A thread may make any calls one after the other while no other call works from a snapshot. -/
theorem SharedTopology.publishAll_alone {j : ι} (idle : s.calls j = none)
    (none_works : ∀ i phase, s.calls i = some phase → phase.seen? = none)
    (updates : List SliceUpdate) :
    ∃ s', Relation.ReflTransGen Step s s' ∧ s'.live = updates.foldl LiveState.publish s.live ∧
      s'.calls = s.calls := by
  induction updates generalizing s with
  | nil => exact ⟨s, .refl, rfl, rfl⟩
  | cons u rest ih =>
    obtain ⟨address, free⟩ := exists_free none_works
    obtain ⟨next, steps, live, calls⟩ := publish_alone idle free u
    rw [← calls] at idle none_works
    obtain ⟨last, more, live', calls'⟩ := ih idle none_works
    exact ⟨last, steps.trans more, by rw [live', live, List.foldl_cons], calls'.trans calls⟩

/-- **The metrics may stay behind**: while a call has published and not yet returned, another thread
makes any number of calls. When all have returned, the metrics show the version of the first. -/
theorem SwapRun.exists_behind (run : SwapRun s) (quiet : s.Quiet) {i j : ι} (different : i ≠ j)
    (u : SliceUpdate) (updates : List SliceUpdate) :
    ∃ s' : SharedTopology ι, SwapRun s' ∧ s'.Quiet ∧
      s'.metrics.topologyVersion = some (s.current.topology.version + 1) ∧
      s'.current.topology.version = s.current.topology.version + 1 + updates.length := by
  obtain ⟨address, free⟩ := s.exists_free fun k _ call => nomatch (quiet k).symm.trans call
  obtain ⟨first, begun, live, calls⟩ := publishes_alone (quiet i) free u
  have own : first.calls i = some (.published u s.current) := by rw [calls, Function.update_self]
  have elsewhere : ∀ k, k ≠ i → first.calls k = none := by
    intro k other
    rw [calls, Function.update_of_ne other, quiet k]
  have none_works : ∀ k phase, first.calls k = some phase → phase.seen? = none := by
    intro k phase call
    by_cases same : k = i
    · subst same
      cases own.symm.trans call
      rfl
    · exact nomatch (elsewhere k same).symm.trans call
  obtain ⟨last, more, live', calls'⟩ :=
    publishAll_alone (elsewhere j different.symm) none_works updates
  have published : last.calls i = some (.published u s.current) := calls' ▸ own
  refine ⟨_, ((run.trans begun).trans more).step (.finish published), fun k => ?_, rfl, ?_⟩
  · by_cases same : k = i
    · subst same
      exact Function.update_self ..
    · have unchanged : last.calls k = none := calls' ▸ elsewhere k same
      exact (Function.update_of_ne same ..).trans unchanged
  · calc last.current.topology.version
      _ = (updates.foldl LiveState.publish first.live).topology.version :=
        congrArg (·.topology.version) live'
      _ = first.live.topology.version + updates.length := LiveState.version_publishAll ..
      _ = s.current.topology.version + 1 + updates.length := by rw [live]; rfl

end Overtaken

/-- So when all calls have returned, the metrics need not show the current version. -/
theorem shown_version_overtaken :
    ¬ ∀ s : SharedTopology Bool, SwapRun s → s.Quiet → s.history.returned ≠ [] →
      s.metrics.topologyVersion = some s.current.topology.version := by
  intro law
  obtain ⟨s, run, quiet, shown, version⟩ :=
    SwapRun.exists_behind (SwapRun.start (ι := Bool)) (fun _ => rfl) (show false ≠ true by decide)
      (.storeIndex (some 1)) [.main .none]
  have called : s.history.returned ≠ [] := by
    intro none
    rw [run.shown, none] at shown
    cases shown
  rw [law s run quiet called, version] at shown
  cases shown

end ChainDashboard
