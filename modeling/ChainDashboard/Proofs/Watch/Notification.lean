import ChainDashboard.Proofs.Watch.Convergence
import ChainDashboard.Proofs.Watch.Deduplication

/-!
# No notification is lost

Files are edited at any time, and every edit is followed by an event with the paths that it touched.
Events are delivered later and in any order; one that names the watched file leaves a signal, of
which one at most is kept. The task takes the signal, reads the file and handles what it found, in
three steps, and anything may happen in between.

One signal is enough: whenever the watcher does not know the file as it is, an event that names the
file is on its way, or a signal waits, or the file is about to be read (`NotifiedInvariant`). Nor is
a signal too much: every reading is owed to an event that names the file (`Step.due_le`), and the
other events might as well not be delivered (`NotifiedRun.without_foreign`).
-/

namespace ChainDashboard

/-! ## Waking, in two steps -/

theorem ChangeWatcher.observe_seen (w : ChangeWatcher) {state : FileState} (seen : state.isSeen) :
    ∃ event?, (w.observe state).1 = .ok event? := by
  cases state with
  | absent => exact ⟨_, rfl⟩
  | file content =>
    simp only [observe]
    split <;> exact ⟨_, rfl⟩
  | unreadable e => cases seen

namespace WatchTask

/-- An observation concerns neither the name of the file nor the signal. -/
theorem look_keeps {state : FileState} {t after : WatchTask} {event? : Option FileEvent}
    (looked : t.look state = (event?, after)) :
    after.fileName = t.fileName ∧ after.signal = t.signal := by
  unfold look at looked
  split at looked <;> cases looked <;> exact ⟨rfl, rfl⟩

/-- A task that sees what there is remembers it, and goes on. -/
theorem look_seen {state : FileState} (seen : state.isSeen) {t after : WatchTask}
    {event? : Option FileEvent} (looked : t.look state = (event?, after)) :
    after.changes.path = t.changes.path ∧ after.changes.lastDigest = state.digest? ∧
      after.ended = t.ended := by
  have path := t.changes.path_observe state
  have digest := t.changes.lastDigest_observe state
  rw [if_pos seen] at digest
  unfold look at looked
  split at looked
  · rename_i observed
    rw [observed] at path digest
    cases looked
    exact ⟨path, digest, rfl⟩
  · rename_i observed
    obtain ⟨_, ok⟩ := t.changes.observe_seen seen
    rw [observed] at ok
    cases ok

theorem notify_of_names {paths : List String} {t : WatchTask} (named : names paths t.fileName) :
    t.notify paths = { t with signal := true } := if_pos named

theorem notify_of_not_names {paths : List String} {t : WatchTask}
    (foreign : names paths t.fileName = false) : t.notify paths = t :=
  if_neg (by simp [foreign])

end WatchTask

theorem ChangeWatcher.start_seen {path : String} {state : FileState} {changes : ChangeWatcher}
    (started : start path state = .ok changes) :
    changes.path = path ∧ state.isSeen ∧ changes.lastDigest = state.digest? := by
  cases state <;> cases started <;> exact ⟨rfl, rfl, rfl⟩

/-- What registering a task comes to. -/
structure WatchTask.Registered (task : WatchTask) (disk : Disk) (path : String) : Prop where
  fileName : Path.fileName? path = some task.fileName
  watches : task.changes.path = path
  seen : (disk.state path).isSeen
  known : task.changes.lastDigest = (disk.state path).digest?
  unsignalled : task.signal = false
  running : task.ended = none

theorem WatchTask.registered {disk : Disk} {path : String} {task : WatchTask}
    (registered : register disk path = .ok task) : task.Registered disk path := by
  unfold register at registered
  cases started : ChangeWatcher.start path (disk.state path) with
  | error e =>
    rw [started] at registered
    cases registered
  | ok changes =>
    obtain ⟨same, seen, known⟩ := ChangeWatcher.start_seen started
    simp only [started] at registered
    cases named : Path.fileName? path with
    | none =>
      rw [named] at registered
      cases registered
    | some fileName =>
      rw [named] at registered
      cases placed : watchDirectory disk path with
      | error e =>
        simp only [placed] at registered
        cases registered
      | ok place =>
        simp only [placed] at registered
        cases registered
        exact ⟨named, same, seen, known, rfl, rfl⟩

/-! ## The system -/

/-- The disk, the task that watches a file on it, and the events in between. -/
structure NotifiedTask where
  disk : Disk
  task : WatchTask
  phase : TaskPhase
  /-- The paths of each event that is on its way. -/
  undelivered : List (List String)

namespace NotifiedTask

/-- What is found at the watched path. -/
def file (w : NotifiedTask) : FileState := w.disk.state w.task.changes.path

/-- Every event on its way is about other files. -/
def AllForeign (w : NotifiedTask) : Prop :=
  ∀ paths ∈ w.undelivered, WatchTask.names paths w.task.fileName = false

/-- Nothing is left to be done about the file, and the task waits for a signal. -/
structure Quiet (w : NotifiedTask) : Prop where
  delivered : w.AllForeign
  unsignalled : w.task.signal = false
  waiting : w.phase = .idle

end NotifiedTask

/-- What happens to the system. -/
inductive NotifyStep where
  | edit (disk : Disk) (paths : List String)
  | deliver (paths : List String)
  | receive
  | observe
  | handle

namespace NotifyStep

def isObserve : NotifyStep → Bool
  | .observe => true
  | _ => false

/-- An event that names the file is delivered. -/
def tells (fileName : String) : NotifyStep → Bool
  | .deliver paths => WatchTask.names paths fileName
  | _ => false

/-- An event about other files is delivered. -/
def isForeign (fileName : String) : NotifyStep → Bool
  | .deliver paths => !WatchTask.names paths fileName
  | _ => false

end NotifyStep

/-- How each step changes the system, and when it is possible. An edit may do anything to the disk,
but the file stays one that can be read, and the event of an edit that touched it names it. -/
inductive NotifiedTask.Step (w : NotifiedTask) : NotifyStep → NotifiedTask → Prop where
  | edit {disk : Disk} {paths : List String}
    (readable : (disk.state w.task.changes.path).isSeen)
    (named : disk.state w.task.changes.path ≠ w.file → WatchTask.names paths w.task.fileName) :
    Step w (.edit disk paths) { w with disk, undelivered := w.undelivered ++ [paths] }
  | deliver {paths : List String} (sent : paths ∈ w.undelivered) :
    Step w (.deliver paths) {
      w with task := w.task.notify paths, undelivered := w.undelivered.erase paths }
  | receive (waiting : w.phase = .idle) (running : w.task.ended = none)
    (signalled : w.task.signal = true) :
    Step w .receive { w with task := w.task.receive, phase := .awake }
  | observe {event? : Option FileEvent} {task : WatchTask} (awake : w.phase = .awake)
    (looked : w.task.look w.file = (event?, task)) :
    Step w .observe { w with task, phase := event?.elim .idle .handling }
  | handle {event : FileEvent} (handling : w.phase = .handling event) :
    Step w .handle { w with phase := .idle }

/-- The runs of a task from its registration on, with the steps that were made. -/
inductive NotifiedRun (disk : Disk) (task : WatchTask) : List NotifyStep → NotifiedTask → Prop where
  | start : NotifiedRun disk task [] ⟨disk, task, .idle, []⟩
  | step {trace : List NotifyStep} {w w' : NotifiedTask} {label : NotifyStep}
    (run : NotifiedRun disk task trace w) (step : w.Step label w') :
    NotifiedRun disk task (trace ++ [label]) w'

/-! ## The invariant -/

/-- What every run keeps. -/
structure NotifiedInvariant (path fileName : String) (w : NotifiedTask) : Prop where
  path : w.task.changes.path = path
  name : w.task.fileName = fileName
  running : w.task.ended = none
  readable : w.file.isSeen
  /-- If the watcher does not know the file as it is, something will make the task read it. -/
  known : w.AllForeign → w.task.signal = false → w.phase ≠ .awake →
    w.task.changes.lastDigest = w.file.digest?

namespace NotifiedInvariant

variable {path fileName : String} {w : NotifiedTask}

theorem start {disk : Disk} {task : WatchTask}
    (registered : WatchTask.register disk path = .ok task) :
    NotifiedInvariant path task.fileName ⟨disk, task, .idle, []⟩ := by
  have task := WatchTask.registered registered
  have file : NotifiedTask.file ⟨disk, _, .idle, []⟩ = disk.state path :=
    congrArg disk.state task.watches
  exact {
    path := task.watches
    name := rfl
    running := task.running
    readable := file ▸ task.seen
    known := fun _ _ _ => file ▸ task.known }

theorem edit (inv : NotifiedInvariant path fileName w) {disk : Disk} {paths : List String}
    (readable : (disk.state w.task.changes.path).isSeen)
    (named : disk.state w.task.changes.path ≠ w.file → WatchTask.names paths w.task.fileName) :
    NotifiedInvariant path fileName { w with disk, undelivered := w.undelivered ++ [paths] } := by
  refine { inv with readable, known := ?_ }
  intro foreign unsignalled asleep
  -- the event of the edit is about other files too, so the file is as it was
  have same : disk.state w.task.changes.path = w.file := by
    by_cases same : disk.state w.task.changes.path = w.file
    · exact same
    · have := foreign paths (List.mem_append_right _ (.head _))
      exact absurd (named same) (by simpa using this)
  have before : w.AllForeign := fun paths sent => foreign paths (List.mem_append_left _ sent)
  show w.task.changes.lastDigest = (disk.state w.task.changes.path).digest?
  rw [same]
  exact inv.known before unsignalled asleep

theorem deliver (inv : NotifiedInvariant path fileName w) (paths : List String) :
    NotifiedInvariant path fileName {
      w with task := w.task.notify paths, undelivered := w.undelivered.erase paths } := by
  cases named : WatchTask.names paths w.task.fileName with
  | true =>
    rw [WatchTask.notify_of_names named]
    exact { inv with known := nofun }
  | false =>
    rw [WatchTask.notify_of_not_names named]
    refine { inv with known := ?_ }
    intro foreign unsignalled asleep
    refine inv.known ?_ unsignalled asleep
    intro other sent
    by_cases same : other = paths
    · exact same ▸ named
    · exact foreign other ((List.mem_erase_of_ne same).mpr sent)

theorem receive (inv : NotifiedInvariant path fileName w) :
    NotifiedInvariant path fileName { w with task := w.task.receive, phase := .awake } :=
  { inv with known := fun _ _ asleep => absurd rfl asleep }

theorem observe (inv : NotifiedInvariant path fileName w) {event? : Option FileEvent}
    {task : WatchTask} (looked : w.task.look w.file = (event?, task)) :
    NotifiedInvariant path fileName { w with task, phase := event?.elim .idle .handling } := by
  obtain ⟨path, digest, ended⟩ := WatchTask.look_seen inv.readable looked
  have file : w.disk.state task.changes.path = w.file := congrArg w.disk.state path
  exact {
    path := path.trans inv.path
    name := (WatchTask.look_keeps looked).1.trans inv.name
    running := ended.trans inv.running
    readable := by
      show (w.disk.state task.changes.path).isSeen
      rw [file]
      exact inv.readable
    known := fun _ _ _ => by
      show task.changes.lastDigest = (w.disk.state task.changes.path).digest?
      rw [file]
      exact digest }

theorem handle (inv : NotifiedInvariant path fileName w) {event : FileEvent}
    (handling : w.phase = .handling event) :
    NotifiedInvariant path fileName { w with phase := .idle } := by
  refine { inv with known := ?_ }
  intro foreign unsignalled _
  exact inv.known foreign unsignalled (by rw [handling]; exact nofun)

/-- One step keeps the invariant. -/
theorem step {w' : NotifiedTask} {label : NotifyStep} (inv : NotifiedInvariant path fileName w)
    (step : w.Step label w') : NotifiedInvariant path fileName w' := by
  cases step with
  | edit readable named => exact inv.edit readable named
  | deliver sent => exact inv.deliver _
  | receive waiting running signalled => exact inv.receive
  | observe awake looked => exact inv.observe looked
  | handle handling => exact inv.handle handling

/-- Every run keeps it. -/
theorem run {disk : Disk} {task : WatchTask} {trace : List NotifyStep}
    (registered : WatchTask.register disk path = .ok task) (run : NotifiedRun disk task trace w) :
    NotifiedInvariant path task.fileName w := by
  induction run with
  | start => exact start registered
  | step _ step ih => exact ih.step step

end NotifiedInvariant

/-! ## What is read, and why -/

namespace NotifiedTask

/-- How often the file is going to be read for what was delivered so far. -/
def due (w : NotifiedTask) : Nat := (if w.phase = .awake then 1 else 0) + w.task.signal.toNat

/-- A reading is owed to an event that names the file. -/
theorem Step.due_le {w w' : NotifiedTask} {label : NotifyStep} (step : w.Step label w') :
    [label].countP NotifyStep.isObserve + w'.due ≤
      w.due + [label].countP (NotifyStep.tells w.task.fileName) := by
  cases step with
  | edit readable named => simp [due, NotifyStep.isObserve]
  | @deliver paths sent =>
    cases named : WatchTask.names paths w.task.fileName with
    | true =>
      rw [WatchTask.notify_of_names named]
      simp [due, NotifyStep.isObserve, NotifyStep.tells, named]
    | false =>
      rw [WatchTask.notify_of_not_names named]
      simp [due, NotifyStep.isObserve]
  | receive waiting running signalled =>
    simp [due, NotifyStep.isObserve, WatchTask.receive, waiting, signalled]
  | @observe event? task awake looked =>
    cases event? <;> simp [due, NotifyStep.isObserve, awake, (WatchTask.look_keeps looked).2]
  | handle handling => simp [due, NotifyStep.isObserve, handling]

/-- The events on their way that name the file are those of the list. -/
def Awaits (w : NotifiedTask) (sent : List (List String)) : Prop :=
  sent.filter (WatchTask.names · w.task.fileName) =
    w.undelivered.filter (WatchTask.names · w.task.fileName)

/-- The task can do the same with other events on their way, as long as those that name the file
are the same. The delivery of an event about other files is nothing to follow. -/
theorem Step.follow {w w' : NotifiedTask} {label : NotifyStep} {sent : List (List String)}
    (same : w.Awaits sent) (step : w.Step label w') :
    ∃ sent', w'.Awaits sent' ∧
      if label.isForeign w.task.fileName then
        { w with undelivered := sent } = { w' with undelivered := sent' }
      else { w with undelivered := sent }.Step label { w' with undelivered := sent' } := by
  cases step with
  | @edit disk paths readable named =>
    refine ⟨sent ++ [paths], ?_, .edit readable named⟩
    simp only [Awaits, List.filter_append]
    rw [same]
  | @deliver paths listed =>
    cases named : WatchTask.names paths w.task.fileName with
    | true =>
      have mem : paths ∈ sent := by
        have : paths ∈ w.undelivered.filter (WatchTask.names · w.task.fileName) :=
          List.mem_filter.mpr ⟨listed, named⟩
        rw [← same] at this
        exact (List.mem_filter.mp this).1
      refine ⟨sent.erase paths, ?_, ?_⟩
      · rw [WatchTask.notify_of_names named]
        simp only [Awaits, ← List.erase_filter]
        rw [same]
      · rw [if_neg (by simp [NotifyStep.isForeign, named])]
        exact .deliver mem
    | false =>
      refine ⟨sent, ?_, ?_⟩
      · rw [WatchTask.notify_of_not_names named]
        simp only [Awaits, ← List.erase_filter]
        rw [List.erase_of_not_mem]
        · exact same
        · simp [named]
      · rw [WatchTask.notify_of_not_names named, if_pos (by simp [NotifyStep.isForeign, named])]
  | receive waiting running signalled =>
    exact ⟨sent, same, .receive waiting running signalled⟩
  | @observe event? task awake looked =>
    refine ⟨sent, ?_, .observe awake looked⟩
    simp only [Awaits, (WatchTask.look_keeps looked).1]
    exact same
  | handle handling => exact ⟨sent, same, .handle handling⟩

end NotifiedTask

namespace NotifiedRun

variable {disk : Disk} {path : String} {task : WatchTask} {trace : List NotifyStep}
  {w : NotifiedTask} (registered : WatchTask.register disk path = .ok task)
  (run : NotifiedRun disk task trace w)

include registered run

theorem observes_le :
    trace.countP NotifyStep.isObserve + w.due ≤ trace.countP (NotifyStep.tells task.fileName) := by
  induction run with
  | start =>
    simp [NotifiedTask.due, (WatchTask.registered registered).unsignalled]
  | @step trace w w' label run step ih =>
    have once := step.due_le
    rw [(NotifiedInvariant.run registered run).name] at once
    rw [List.countP_append, List.countP_append]
    omega

/-- Without the deliveries of events about other files, the task does the same. -/
theorem without_foreign :
    ∃ sent, NotifiedRun disk task (trace.filter fun label => !label.isForeign task.fileName)
      { w with undelivered := sent } ∧ w.Awaits sent := by
  induction run with
  | start => exact ⟨[], .start, rfl⟩
  | @step trace w w' label run step ih =>
    obtain ⟨sent, followed, same⟩ := ih
    obtain ⟨sent', same', step'⟩ := step.follow same
    rw [(NotifiedInvariant.run registered run).name] at step'
    refine ⟨sent', ?_, same'⟩
    rw [List.filter_append]
    cases foreign : label.isForeign task.fileName with
    | true =>
      rw [if_pos foreign] at step'
      simpa [foreign, ← step'] using followed
    | false =>
      rw [if_neg (by simp [foreign])] at step'
      simpa [foreign] using followed.step step'

end NotifiedRun

/-! ## Catching up -/

/-- What is left of a phase. -/
def TaskPhase.work : TaskPhase → Nat
  | .idle => 0
  | .handling _ => 1
  | .awake => 2

namespace NotifiedTask

/-- What is left to be done if there are no more edits. An event outweighs the signal that it may
leave, and a signal the phases that follow it. -/
def work (w : NotifiedTask) : Nat :=
  4 * w.undelivered.length + 3 * w.task.signal.toNat + w.phase.work

/-- As long as something is left to be done, some of it can be done. -/
theorem quiet_or_step {w : NotifiedTask} (running : w.task.ended = none) :
    w.Quiet ∨ ∃ label w', w.Step label w' ∧ w'.disk = w.disk ∧ w'.work < w.work := by
  obtain ⟨disk, task, phase, undelivered⟩ := w
  cases undelivered with
  | cons paths rest =>
    refine .inr ⟨_, _, .deliver (.head rest), rfl, ?_⟩
    have : (task.notify paths).signal.toNat ≤ 1 := Bool.toNat_le _
    simp only [work, List.erase_cons_head, List.length_cons]
    omega
  | nil =>
    cases phase with
    | handling event => exact .inr ⟨_, _, .handle rfl, rfl, by simp [work, TaskPhase.work]⟩
    | awake =>
      match looked : task.look (disk.state task.changes.path) with
      | (event?, after) =>
        refine .inr ⟨_, _, .observe rfl looked, rfl, ?_⟩
        have signal := (WatchTask.look_keeps looked).2
        cases event? <;> simp [work, TaskPhase.work, signal]
    | idle =>
      cases signalled : task.signal with
      | true =>
        refine .inr ⟨_, _, .receive rfl running signalled, rfl, ?_⟩
        simp [work, TaskPhase.work, WatchTask.receive, signalled]
      | false => exact .inl ⟨nofun, signalled, rfl⟩

end NotifiedTask

/-- Without more edits everything gets done. -/
theorem NotifiedRun.catches_up {disk : Disk} {path : String} {task : WatchTask}
    {trace : List NotifyStep} {w : NotifiedTask}
    (registered : WatchTask.register disk path = .ok task) (run : NotifiedRun disk task trace w) :
    ∃ more w', NotifiedRun disk task (trace ++ more) w' ∧ w'.Quiet ∧ w'.disk = w.disk := by
  rcases NotifiedTask.quiet_or_step (NotifiedInvariant.run registered run).running with
    quiet | ⟨label, w', step, same, less⟩
  · exact ⟨[], w, by rwa [List.append_nil], quiet, rfl⟩
  · obtain ⟨more, w'', run', quiet, same'⟩ := (run.step step).catches_up registered
    exact ⟨label :: more, w'', by simpa using run', quiet, same'.trans same⟩
termination_by w.work

/-- **No notification is lost**: with no event about the file on its way, no signal and the task
waiting, the watcher remembers the file as it is. The file is read no more often than events that
name it are delivered, and without the deliveries of the others everything is the same. -/
theorem no_notification_lost {disk : Disk} {path : String} {task : WatchTask}
    {trace : List NotifyStep} {w : NotifiedTask}
    (registered : WatchTask.register disk path = .ok task) (run : NotifiedRun disk task trace w) :
    Path.fileName? path = some task.fileName ∧
    (w.Quiet →
      (w.disk.state path = .absent ∧ w.task.changes.lastDigest = none) ∨
      ∃ content, w.disk.state path = .file content ∧
        w.task.changes.lastDigest = some (Digest.ofContent content)) ∧
    trace.countP NotifyStep.isObserve ≤ trace.countP (NotifyStep.tells task.fileName) ∧
    ∃ w', NotifiedRun disk task (trace.filter fun label => !label.isForeign task.fileName) w' ∧
      w'.disk = w.disk ∧ w'.task = w.task ∧ w'.phase = w.phase := by
  have inv := NotifiedInvariant.run registered run
  refine ⟨(WatchTask.registered registered).fileName, ?_, ?_, ?_⟩
  · intro quiet
    have asleep : w.phase ≠ .awake := by
      rw [quiet.waiting]
      exact nofun
    have known := inv.known quiet.delivered quiet.unsignalled asleep
    have seen := inv.readable
    rw [NotifiedTask.file, inv.path] at known seen
    cases state : w.disk.state path with
    | absent => exact .inl ⟨rfl, by rw [known, state, FileState.digest?]⟩
    | file content => exact .inr ⟨content, rfl, by rw [known, state, FileState.digest?]⟩
    | unreadable e =>
      rw [state] at seen
      cases seen
  · have := run.observes_le registered
    omega
  · obtain ⟨sent, followed, -⟩ := run.without_foreign registered
    exact ⟨_, followed, rfl, rfl, rfl⟩

/-- A disk with a file of the given text at `user.ini`. -/
def userDisk (text : String) : Disk := (Disk.new "/").put ["user.ini"] (.file text.toUTF8)

theorem state_userDisk : ∀ text ∈ ["a", "b", "c"],
    (userDisk text).state "user.ini" = .file text.toUTF8 := by
  decide +kernel

/-- The task that waits for `user.ini` to be written. -/
def userTask (signal : Bool) : WatchTask where
  changes := ⟨"user.ini", none⟩
  fileName := "user.ini"
  directory := "."
  place := []
  attached := true
  signal
  ended := none

theorem register_userTask :
    WatchTask.register (Disk.new "/") "user.ini" = .ok (userTask false) := by
  have task : (WatchTask.register (Disk.new "/") "user.ini").toOption = some (userTask false) := by
    decide +kernel
  cases registered : WatchTask.register (Disk.new "/") "user.ini" with
  | error e =>
    rw [registered] at task
    cases task
  | ok _ =>
    rw [registered] at task
    cases task
    rfl

theorem names_user : WatchTask.names ["user.ini"] "user.ini" := by decide +kernel

theorem edit_userTask (text : String) (listed : text ∈ ["a", "b", "c"]) (disk : Disk)
    (signal : Bool) (phase : TaskPhase) (undelivered : List (List String)) :
    NotifiedTask.Step ⟨disk, userTask signal, phase, undelivered⟩
      (.edit (userDisk text) ["user.ini"])
      ⟨userDisk text, userTask signal, phase, undelivered ++ [["user.ini"]]⟩ :=
  have state : (userDisk text).state (userTask signal).changes.path = .file text.toUTF8 :=
    state_userDisk text listed
  .edit (by rw [state, FileState.isSeen]) fun _ => names_user

theorem deliver_userTask (disk : Disk) (signal : Bool) (phase : TaskPhase)
    (undelivered : List (List String)) :
    NotifiedTask.Step ⟨disk, userTask signal, phase, ["user.ini"] :: undelivered⟩
      (.deliver ["user.ini"]) ⟨disk, userTask true, phase, undelivered⟩ := by
  have step := NotifiedTask.Step.deliver
    (w := ⟨disk, userTask signal, phase, ["user.ini"] :: undelivered⟩) (.head _)
  rw [WatchTask.notify_of_names names_user, List.erase_cons_head] at step
  exact step

/-- The second notification finds the signal of the first, and the last edit comes after the signal
was taken and before the file is read. -/
theorem run_coalesced : NotifiedRun (Disk.new "/") (userTask false)
    [.edit (userDisk "a") ["user.ini"], .edit (userDisk "b") ["user.ini"], .deliver ["user.ini"],
      .deliver ["user.ini"], .receive, .edit (userDisk "c") ["user.ini"]]
    ⟨userDisk "c", userTask false, .awake, [["user.ini"]]⟩ := by
  have registered : NotifiedRun (Disk.new "/") (userTask false) [] _ := .start
  have edited := (registered.step (edit_userTask "a" (by decide) ..)).step
    (edit_userTask "b" (by decide) ..)
  have told := (edited.step (deliver_userTask ..)).step (deliver_userTask ..)
  exact (told.step (.receive rfl rfl rfl)).step (edit_userTask "c" (by decide) ..)

theorem no_notification_lost_coalesced :
    ∃ trace w, WatchTask.register (Disk.new "/") "user.ini" = .ok (userTask false) ∧
      NotifiedRun (Disk.new "/") (userTask false) trace w ∧ w.Quiet ∧
      w.task.changes.lastDigest = some (Digest.ofContent "c".toUTF8) := by
  obtain ⟨more, w, run, quiet, disk⟩ := run_coalesced.catches_up register_userTask
  refine ⟨_, w, register_userTask, run, quiet, ?_⟩
  have present : w.disk.state "user.ini" = .file "c".toUTF8 := by
    rw [disk]
    exact state_userDisk "c" (by decide)
  rcases (no_notification_lost register_userTask run).2.1 quiet with
    ⟨gone, -⟩ | ⟨content, here, digest⟩
  · cases present.symm.trans gone
  · cases present.symm.trans here
    exact digest

end ChainDashboard
