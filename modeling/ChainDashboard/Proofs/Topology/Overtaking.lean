import ChainDashboard.Proofs.Topology.Overlap
import ChainDashboard.Proofs.Watch.Convergence

/-!
# Operations of one kind that overlap

Two operations of one kind need not be atomic when they overlap. A reload can put the document that
it read over what another one made of a newer one (`Overtaken`), and a store that was cleared comes
back with a reload that took it before (`BroughtBack`). No serial order of the operations leads
there: what begins after the last edit reads the files as they are in the end
(`Serializes.holds_of_late`).
-/

namespace ChainDashboard

/-! ## What every serial order leaves -/

theorem SequentialState.files_afterAll {ι : Type} (ops : ι → LoaderOperation) (q : SequentialState)
    (order : List (LoaderAction ι × List ι)) :
    (q.afterAll ops order).files = (order.map Prod.fst).foldl LoaderAction.files q.files := by
  induction order generalizing q with
  | nil => rfl
  | cons entry order ih => exact ih (q.after ops entry)

/-- If no file is edited any more, the operations take effect on the same files. -/
theorem SequentialState.live_of_unedited {ι : Type} {ops : ι → LoaderOperation}
    {q : SequentialState} {order : List (LoaderAction ι × List ι)}
    (unedited : ∀ entry ∈ order, entry.1.files q.files = q.files) :
    (q.afterAll ops order).live =
      (order.flatMap Prod.snd).foldl (fun s i => (ops i).run q.files s) q.live := by
  induction order generalizing q with
  | nil => rfl
  | cons entry order ih =>
    have files : (q.after ops entry).files = q.files := unedited entry List.mem_cons_self
    have rest : ∀ e ∈ order, e.1.files (q.after ops entry).files = (q.after ops entry).files :=
      fun e h => files.symm ▸ unedited e (List.mem_cons_of_mem entry h)
    rw [List.flatMap_cons, List.foldl_append]
    refine (ih rest).trans ?_
    rw [files, after, unedited entry List.mem_cons_self]

/-- An operation that did not act so far has not taken effect. -/
theorem Serializes.due_of_late {ι : Type} [DecidableEq ι] {schedule : List (LoaderAction ι)}
    {before after : List (LoaderAction ι × List ι)} {i : ι}
    (h : Serializes schedule (before ++ after)) (acts : .step i ∈ schedule)
    (late : .step i ∉ before.map Prod.fst) : i ∈ after.flatMap Prod.snd := by
  have due : i ∈ (before ++ after).flatMap Prod.snd :=
    List.count_pos_iff.mp (h.once i acts ▸ Nat.one_pos)
  rw [List.flatMap_append, List.mem_append] at due
  -- what took effect before had its first step before
  refine due.resolve_left fun early => late ?_
  obtain ⟨⟨action, operations⟩, entry, operation⟩ := List.mem_flatMap.mp early
  obtain ⟨first, last, rfl⟩ := List.append_of_mem entry
  have begun := (h.within first action operations (last ++ after) (by simp) i operation).1
  simp only [List.mem_append, List.mem_singleton] at begun
  simpa [or_assoc] using begun.imp_right .inl

/-- In every serial order an operation that begins after the last edit leaves behind what it
establishes, if all operations keep that. -/
theorem Serializes.holds_of_late {ι : Type} [DecidableEq ι] {ops : ι → LoaderOperation}
    {before after : List (LoaderAction ι)} {order : List (LoaderAction ι × List ι)} {i : ι}
    (serial : Serializes (before ++ after) order) (late : .step i ∉ before)
    (acts : .step i ∈ after) (unedited : ∀ action ∈ after, ∃ j, action = .step j)
    (files : DocumentKind → FileState) {P : LiveState → Prop}
    (kept : ∀ j s, P s → P ((ops j).run (before.foldl LoaderAction.files files) s))
    (established : ∀ s, P ((ops i).run (before.foldl LoaderAction.files files) s))
    (s : LiveState) : P (SequentialState.afterAll ops ⟨files, s⟩ order).live := by
  obtain ⟨first, last, rfl, rfl, rfl⟩ := List.map_eq_append_iff.mp serial.actions
  -- the order is cut where the last edit is; from there on every operation sees the same files
  have due := serial.due_of_late (List.mem_append_right _ acts) late
  let q := SequentialState.afterAll ops ⟨files, s⟩ first
  have reached : q.files = (first.map Prod.fst).foldl LoaderAction.files files :=
    SequentialState.files_afterAll ops _ first
  have steps : ∀ entry ∈ last, entry.1.files q.files = q.files := by
    intro entry h
    obtain ⟨j, step⟩ := unedited entry.1 (List.mem_map_of_mem h)
    rw [step, LoaderAction.files]
  rw [SequentialState.afterAll, List.foldl_append]
  show P (q.afterAll ops last).live
  obtain ⟨earlier, later, split⟩ := List.append_of_mem due
  rw [SequentialState.live_of_unedited steps, split, List.foldl_append, List.foldl_cons, reached]
  exact List.foldlRecOn later _ (established _) fun s holds j _ => kept j s holds

/-! ## An older document -/

theorem ListingKind.held_eq_of_agree (k : ListingKind) {t u : Topology} (h : t.Agree k.kind u) :
    k.held t = k.held u := by
  cases k with
  | nodes => exact congrArg SliceUpdate.chains h
  | repositories => exact congrArg SliceUpdate.repositories h

namespace Overtaken

/-- A reload reads its document. Then the file is edited and another reload happens as a whole,
before the first one publishes what it read. -/
def schedule (k : ListingKind) (file : FileState) : List (LoaderAction Bool) :=
  [.step false, .edit k.kind file] ++ [.step true, .step true, .step false]

def ops (k : ListingKind) : Bool → LoaderOperation := fun _ => .reload k.kind

variable {k : ListingKind} {files : DocumentKind → FileState} {file : FileState} {old new : Document}

/-- What is held in the end is the older document. -/
theorem held (readsOld : DocumentReading.ofFile (files k.kind) = .document old)
    (readsNew : DocumentReading.ofFile file = .document new) (s : LiveState) :
    let w := (OverlapState.start files s).afterAll (ops k) (schedule k file)
    w.Quiet ∧ k.held w.live.topology = k.listed (some old) := by
  intro w
  have notMerged : k.kind.isMerged = false := by cases k <;> rfl
  have reached : w.phase = (fun _ => .done) ∧ w.live =
      (s.apply k.kind (.ofDocument k.kind s.topology new)).apply k.kind
        (.ofDocument k.kind s.topology old) := by
    simp only [w, schedule, ops, OverlapState.afterAll, OverlapState.after, OverlapState.start,
      LoaderAction.files, LoaderOperation.advance, List.cons_append, List.nil_append,
      List.foldl_cons, List.foldl_nil, Function.update_self, readsOld, readsNew, notMerged]
    exact ⟨funext fun i => by cases i <;> rfl, rfl⟩
  obtain ⟨phases, live⟩ := reached
  refine ⟨fun i => phases ▸ id, ?_⟩
  rw [live]
  cases k <;> rfl

/-- In every serial order it is the newer one. -/
theorem held_serial (readsNew : DocumentReading.ofFile file = .document new)
    {order : List (LoaderAction Bool × List Bool)}
    (serial : Serializes (schedule k file) order) (s : LiveState) :
    k.held (SequentialState.afterAll (ops k) ⟨files, s⟩ order).live.topology =
      k.listed (some new) := by
  have reloads (i : Bool) (s : LiveState) :
      k.held ((ops k i).run (Function.update files k.kind file) s).topology =
        k.listed (some new) := by
    show k.held (s.handleChange k.kind (.ofFile (Function.update files k.kind file k.kind))).topology
      = _
    rw [Function.update_self, readsNew]
    cases k <;> rfl
  exact serial.holds_of_late (P := fun s => k.held s.topology = k.listed (some new)) (by simp)
    List.mem_cons_self (by simp) files (fun i s _ => reloads i s) (reloads true) s

/-- **An older text overwrites a newer one** that lists something else. -/
theorem not_atomic (readsOld : DocumentReading.ofFile (files k.kind) = .document old)
    (readsNew : DocumentReading.ofFile file = .document new)
    (different : k.listed (some old) ≠ k.listed (some new)) (s : LiveState) :
    ((OverlapState.start files s).afterAll (ops k) (schedule k file)).Quiet ∧
      ¬ AtomicFrom (ops k) files s (schedule k file) := by
  obtain ⟨quiet, older⟩ := held readsOld readsNew s
  refine ⟨quiet, fun ⟨order, serial, same⟩ => different ?_⟩
  rw [← older, ← held_serial readsNew serial s]
  exact k.held_eq_of_agree (same k.kind)

end Overtaken

/-! ## A cleared value -/

namespace BroughtBack

/-- A reload has merged its main document with what is held. Then that is cleared, before the reload
publishes what it merged. -/
def schedule : List (LoaderAction Bool) := [.step false, .step false] ++ [.step true, .step false]

def ops : Bool → LoaderOperation
  | false => .reload .userMain
  | true => .reset .userMain

variable {files : DocumentKind → FileState} {d : Document}

/-- What is held in the end is the store from before. -/
theorem store (reads : DocumentReading.ofFile (files .userMain) = .document d)
    (storeless : d.storeSettings.toOption = none) (s : LiveState) :
    let w := (OverlapState.start files s).afterAll ops schedule
    w.Quiet ∧ w.live.topology.main.store = s.topology.main.store := by
  intro w
  have reached : w.phase = (fun _ => .done) ∧
      w.live = (s.reset .userMain).apply .userMain (.ofDocument .userMain s.topology d) := by
    simp only [w, schedule, ops, OverlapState.afterAll, OverlapState.after, OverlapState.start,
      LoaderAction.files, LoaderOperation.advance, List.cons_append, List.nil_append,
      List.foldl_cons, List.foldl_nil, Function.update_self, reads]
    exact ⟨funext fun i => by cases i <;> rfl, rfl⟩
  obtain ⟨phases, live⟩ := reached
  refine ⟨fun i => phases ▸ id, ?_⟩
  -- the reset in between is overwritten as a whole
  have merged : w.live.topology.main = (s.topology.afterEvent (.read .userMain d)).main := by
    rw [live]
    rfl
  rw [merged, Topology.afterEvent_userMain, storeless]
  rfl

/-- In every serial order there is none. -/
theorem store_serial (reads : DocumentReading.ofFile (files .userMain) = .document d)
    (storeless : d.storeSettings.toOption = none) {order : List (LoaderAction Bool × List Bool)}
    (serial : Serializes schedule order) (s : LiveState) :
    (SequentialState.afterAll ops ⟨files, s⟩ order).live.topology.main.store = none := by
  have kept (i : Bool) (s : LiveState) (none : s.topology.main.store = none) :
      ((ops i).run files s).topology.main.store = .none := by
    cases i with
    | true => rfl
    | false =>
      show (s.handleChange .userMain (.ofFile (files .userMain))).topology.main.store = _
      rw [reads, s.topology_handleChange]
      show (s.topology.afterEvent (.read .userMain d)).main.store = _
      rw [Topology.afterEvent_userMain, storeless]
      exact none
  exact serial.holds_of_late (P := fun s => s.topology.main.store = none) (by simp)
    List.mem_cons_self (by simp) files kept (fun _ => rfl) s

/-- **A cleared store comes back** with a document that says nothing about the store. -/
theorem not_atomic (reads : DocumentReading.ofFile (files .userMain) = .document d)
    (storeless : d.storeSettings.toOption = none) {s : LiveState} (held : s.topology.main.store ≠ none) :
    ((OverlapState.start files s).afterAll ops schedule).Quiet ∧
      ¬ AtomicFrom ops files s schedule := by
  obtain ⟨quiet, back⟩ := store reads storeless s
  refine ⟨quiet, fun ⟨order, serial, same⟩ => held ?_⟩
  rw [← back, ← store_serial reads storeless serial s]
  exact congrArg MainSettings.store (same .userMain)

end BroughtBack

/-- So operations of one kind that overlap need not be atomic: the older list of repositories stays,
and a store that was cleared is held again. -/
theorem overlapping_operations_not_atomic :
    (let files := fun _ => FileState.ofText "[r]\nrepo_name=old\n"
      let schedule := Overtaken.schedule .repositories (.ofText "[r]\nrepo_name=new\n")
      let ops := Overtaken.ops .repositories
      ((OverlapState.start files .initial).afterAll ops schedule).Quiet ∧
        ¬ AtomicFrom ops files .initial schedule) ∧
    (let files := fun _ => FileState.ofText "[general]\nunique_alerter_identifier=panic\n"
      let s := LiveState.initial.publish (.main ⟨none, some ⟨true, "localhost", 6379, none⟩⟩)
      ((OverlapState.start files s).afterAll BroughtBack.ops BroughtBack.schedule).Quiet ∧
        ¬ AtomicFrom BroughtBack.ops files s BroughtBack.schedule) := by
  constructor
  · intro files schedule ops
    have old : DocumentReading.ofFile (files .userRepos) =
        .document (Document.empty.withSection "r" [("repo_name", "old")]) := by decide +kernel
    have new : DocumentReading.ofFile (.ofText "[r]\nrepo_name=new\n") =
        .document (Document.empty.withSection "r" [("repo_name", "new")]) := by decide +kernel
    exact Overtaken.not_atomic (k := .repositories) old new (by decide) .initial
  · intro files s
    have reads : DocumentReading.ofFile (files .userMain) = .document
        (Document.empty.withSection "general" [("unique_alerter_identifier", "panic")]) := by
      decide +kernel
    exact BroughtBack.not_atomic reads (by decide) nofun

end ChainDashboard
