import ChainDashboard.Watch.Task

/-!
# What a watched document settles to

The file of a document is edited at any time, and each edit leaves a signal. The task that watches
it takes the signal, observes the file and handles the event, each in a step of its own; the first
load is one more step, somewhere after the watch was started. Observing and loading read the file at
different times, so what is held may come from a content that the watcher never saw.

Once everything is handled, nothing is held for a file that is gone. For a file that is there, what
is held is made from the document that the loader took in last (`WatchInvariant`), and that is the
file's own unless the file came back to a content that it had before: the watcher compares with the
content it saw last, and takes the file that came back for one that never changed
(`WatchRun.return_missed`).
-/

namespace ChainDashboard

/-! ## Documents that are listings -/

/-- The documents of which each reading replaces everything that the one before it left. -/
inductive ListingKind where
  | nodes
  | repositories

namespace ListingKind

def kind : ListingKind → DocumentKind
  | .nodes => .userNodes
  | .repositories => .userRepos

/-- What the topology holds. -/
def held (t : Topology) : ListingKind → SliceUpdate
  | .nodes => .chains t.chains
  | .repositories => .repositories t.repositories

/-- What a document lists; nothing if there is no document. -/
def listed (d? : Option Document) : ListingKind → SliceUpdate
  | .nodes => .chains (d?.elim NameMap.empty ChainMap.ofDocument)
  | .repositories => .repositories (d?.elim NameMap.empty NameSet.ofDocument)

end ListingKind

/-- The document that a reading gives. -/
def DocumentReading.document? : DocumentReading → Option Document
  | .document d => some d
  | .notFound | .failed _ => none

/-- The state of a path that holds the given content, or nothing. -/
def FileState.ofContent? (content? : Option ByteArray) : FileState := content?.elim .absent .file

namespace ListingKind

variable {k : ListingKind} {s : LiveState} {d? : Option Document}

theorem held_handleChange (h : k.held s.topology = k.listed d?) (reading : DocumentReading) :
    k.held (s.handleChange k.kind reading).topology = k.listed (reading.document?.or d?) := by
  cases reading with
  | document d => cases k <;> rfl
  | notFound => cases k <;> exact h
  | failed cause => cases k <;> exact h

theorem held_handleEvent_changed (h : k.held s.topology = k.listed d?)
    (reading : DocumentReading) :
    k.held (s.handleEvent k.kind .changed reading).topology =
      k.listed (reading.document?.or d?) := by
  have counted : k.held (s.counting (.fileEvent k.kind .changed)).topology = k.listed d? := by
    cases k <;> exact h
  exact held_handleChange counted reading

theorem held_handleEvent_deleted (k : ListingKind) (s : LiveState) (reading : DocumentReading) :
    k.held (s.handleEvent k.kind .deleted reading).topology = k.listed none := by
  cases k <;> rfl

end ListingKind

/-! ## The system -/

/-- What the task does at the moment. -/
inductive TaskPhase where
  | idle
  /-- It took a signal. -/
  | awake
  | handling (event : FileEvent)
  deriving DecidableEq

/-- A document's file, the task that watches it, and the live state. -/
structure WatchedDocument where
  content? : Option ByteArray
  /-- Whether a signal waits. -/
  signal : Bool
  phase : TaskPhase
  changes : ChangeWatcher
  /-- Whether the first load was made. -/
  loaded : Bool
  live : LiveState

namespace WatchedDocument

/-- What is found at the document's path. -/
def file (w : WatchedDocument) : FileState := .ofContent? w.content?

/-- The system when the watch was started and nothing loaded yet. -/
def start (content? : Option ByteArray) (changes : ChangeWatcher) : WatchedDocument where
  content?
  signal := false
  phase := .idle
  changes
  loaded := false
  live := .initial

/-- Nothing is left to be done. -/
structure Settled (w : WatchedDocument) : Prop where
  loaded : w.loaded = true
  quiet : w.signal = false
  idle : w.phase = .idle

end WatchedDocument

/-- What happens to the system. -/
inductive WatchStep where
  | edit (content? : Option ByteArray)
  | take
  | observe
  | handle
  | load

/-- How each step changes the system, and when it is possible. Edits always are. -/
inductive WatchedDocument.Step (k : ListingKind) (w : WatchedDocument) :
    WatchStep → WatchedDocument → Prop where
  | edit (content? : Option ByteArray) :
    Step k w (.edit content?) { w with content?, signal := true }
  | take (idle : w.phase = .idle) (waiting : w.signal = true) :
    Step k w .take { w with signal := false, phase := .awake }
  | observe {event? : Option FileEvent} {changes : ChangeWatcher} (awake : w.phase = .awake)
    (observed : w.changes.observe w.file = (.ok event?, changes)) :
    Step k w .observe { w with changes, phase := event?.elim .idle .handling }
  | handle {event : FileEvent} (handling : w.phase = .handling event) :
    Step k w .handle {
      w with phase := .idle, live := w.live.handleEvent k.kind event (.ofFile w.file) }
  | load (first : w.loaded = false) :
    Step k w .load {
      w with loaded := true, live := w.live.handleChange k.kind (.ofFile w.file) }

/-- What is remembered of a run for the sake of the proof. -/
structure WatchHistory where
  /-- The contents that the file had and that were replaced by something else. -/
  replaced : List ByteArray
  /-- The document that the loader took in last, `none` if it was cleared since. -/
  taken? : Option Document

namespace WatchHistory

/-- The history after the loader read the document. -/
def taking (reading : DocumentReading) (h : WatchHistory) : WatchHistory :=
  { h with taken? := reading.document?.or h.taken? }

/-- The history after a step from `w`. -/
def next (h : WatchHistory) (w : WatchedDocument) : WatchStep → WatchHistory
  | .edit content? =>
    if content? = w.content? then h
    else { h with replaced := w.content?.toList ++ h.replaced }
  | .take | .observe => h
  | .handle =>
    match w.phase with
    | .handling .deleted => { h with taken? := none }
    | .handling .changed => h.taking (.ofFile w.file)
    | _ => h
  | .load => h.taking (.ofFile w.file)

end WatchHistory

/-- The runs of the system, with their histories. -/
inductive WatchRun (k : ListingKind) : WatchHistory → WatchedDocument → Prop where
  | start {path : String} {content? : Option ByteArray} {changes : ChangeWatcher}
    (started : ChangeWatcher.start path (.ofContent? content?) = .ok changes) :
    WatchRun k ⟨[], none⟩ (.start content? changes)
  | step {h : WatchHistory} {w w' : WatchedDocument} {label : WatchStep} (run : WatchRun k h w)
    (step : w.Step k label w') : WatchRun k (h.next w label) w'

/-! ## What observing tells -/

namespace ChangeWatcher

variable {content? : Option ByteArray} {changes after : ChangeWatcher} {event? : Option FileEvent}

theorem lastDigest_start {path : String}
    (h : start path (.ofContent? content?) = .ok changes) :
    changes.lastDigest = content?.map Digest.ofContent := by
  cases content? <;> cases h <;> rfl

/-- What the watcher remembers, and what the event tells about the file. -/
structure Observed (before : ChangeWatcher) (content? : Option ByteArray)
    (event? : Option FileEvent) (after : ChangeWatcher) : Prop where
  remembered : after.lastDigest = content?.map Digest.ofContent
  deleted : event? = some .deleted ↔ content? = none
  /-- There is no event exactly for the content that was remembered. -/
  silent : event? = none ↔
    ∃ content, content? = some content ∧ before.lastDigest = some (Digest.ofContent content)

theorem observed (h : changes.observe (.ofContent? content?) = (.ok event?, after)) :
    changes.Observed content? event? after := by
  cases content? with
  | none =>
    cases h
    exact ⟨rfl, by simp, by simp⟩
  | some content =>
    change (if changes.lastDigest = some (Digest.ofContent content) then _ else _) = _ at h
    by_cases same : changes.lastDigest = some (Digest.ofContent content)
    · rw [if_pos same] at h
      cases h
      exact ⟨same, by simp, by simp [same]⟩
    · rw [if_neg same] at h
      cases h
      exact ⟨rfl, by simp, by simp [same]⟩

end ChangeWatcher

/-! ## The invariant -/

/-- No content that was replaced has the digest of this one. -/
def WatchHistory.Unseen (h : WatchHistory) (content : ByteArray) : Prop :=
  ∀ old ∈ h.replaced, Digest.ofContent old ≠ Digest.ofContent content

/-- What every run keeps. -/
structure WatchInvariant (k : ListingKind) (h : WatchHistory) (w : WatchedDocument) : Prop where
  /-- What is held comes from the document that was taken in last. -/
  held : k.held w.live.topology = k.listed h.taken?
  /-- Without a signal, the watcher knows the file as it is. -/
  seen : w.signal = false → w.phase ≠ .awake →
    w.changes.lastDigest = w.content?.map Digest.ofContent
  /-- Without a signal, the event at hand is true of the file as it is. -/
  event : w.signal = false → ∀ e, w.phase = .handling e → (e = .changed ↔ w.content?.isSome)
  /-- A deletion that is being handled is all that the watcher knows. -/
  forgotten : w.phase = .handling .deleted → w.changes.lastDigest = none
  /-- The watcher knows no content but those that the file had. -/
  known : ∀ digest ∈ w.changes.lastDigest, ∃ content,
    (w.content? = some content ∨ content ∈ h.replaced) ∧ Digest.ofContent content = digest
  /-- Of a file that is gone nothing is left. -/
  cleared : w.content? = none → w.signal = false → w.phase = .idle → h.taken? = none
  /-- A content that is new, and that the watcher knows, was taken in by the loader. -/
  taken : w.loaded = true → w.phase ≠ .handling .changed →
    ∀ content d, w.content? = some content → h.Unseen content →
      w.changes.lastDigest = some (Digest.ofContent content) →
      DocumentReading.ofFile w.file = .document d → h.taken? = some d

namespace WatchInvariant

variable {k : ListingKind} {h : WatchHistory} {w : WatchedDocument}

theorem start {path : String} {content? : Option ByteArray} {changes : ChangeWatcher}
    (started : ChangeWatcher.start path (.ofContent? content?) = .ok changes) :
    WatchInvariant k ⟨[], none⟩ (.start content? changes) where
  held := by cases k <;> rfl
  seen _ _ := ChangeWatcher.lastDigest_start started
  event _ _ handling := nomatch handling
  forgotten handling := nomatch handling
  known digest remembered := by
    rw [Option.mem_def, WatchedDocument.start, ChangeWatcher.lastDigest_start started,
      Option.map_eq_some_iff] at remembered
    obtain ⟨content, present, same⟩ := remembered
    exact ⟨content, .inl present, same⟩
  cleared _ _ _ := rfl
  taken loaded := nomatch loaded

theorem edit (inv : WatchInvariant k h w) (content? : Option ByteArray) :
    WatchInvariant k (h.next w (.edit content?)) { w with content?, signal := true } := by
  by_cases same : content? = w.content?
  · -- the file is written again as it was
    subst same
    rw [WatchHistory.next, if_pos rfl]
    exact { inv with seen := nofun, event := nofun, cleared := nofun }
  · rw [WatchHistory.next, if_neg same]
    have known : ∀ digest ∈ w.changes.lastDigest, ∃ content,
        content ∈ w.content?.toList ++ h.replaced ∧ Digest.ofContent content = digest := by
      intro digest remembered
      obtain ⟨content, had, same⟩ := inv.known digest remembered
      exact ⟨content, by simpa using had, same⟩
    refine {
      held := inv.held
      seen := nofun
      event := nofun
      forgotten := inv.forgotten
      known := ?_
      cleared := nofun
      taken := ?_ }
    · intro digest remembered
      obtain ⟨content, had, same⟩ := known digest remembered
      exact ⟨content, .inr had, same⟩
    · -- what the watcher knows was replaced, so a new content is not it
      intro _ _ content d _ unseen remembered
      obtain ⟨old, had, same⟩ := known _ remembered
      exact absurd same (unseen old had)

theorem take (inv : WatchInvariant k h w) (idle : w.phase = .idle) :
    WatchInvariant k h { w with signal := false, phase := .awake } where
  held := inv.held
  seen _ asleep := absurd rfl asleep
  event _ _ handling := nomatch handling
  forgotten handling := nomatch handling
  known := inv.known
  cleared _ _ asleep := nomatch asleep
  taken loaded _ := inv.taken loaded (by rw [idle]; exact nofun)

theorem observe (inv : WatchInvariant k h w) (awake : w.phase = .awake) {event? : Option FileEvent}
    {changes : ChangeWatcher} (observed : w.changes.observe w.file = (.ok event?, changes)) :
    WatchInvariant k h { w with changes, phase := event?.elim .idle .handling } := by
  obtain ⟨remembered, deleted, silent⟩ := ChangeWatcher.observed observed
  have handling {e : FileEvent} (h : event?.elim .idle .handling = TaskPhase.handling e) :
      event? = some e := by
    cases event? <;> cases h
    rfl
  constructor
  case held => exact inv.held
  case seen => exact fun _ _ => remembered
  case event =>
    intro _ e phase
    have happened := handling phase
    cases e with
    | changed =>
      have present : w.content? ≠ none := mt deleted.mpr (by simp [happened])
      simpa using Option.isSome_iff_ne_none.mpr present
    | deleted => simp [deleted.mp happened]
  case forgotten =>
    intro phase
    show changes.lastDigest = none
    rw [remembered, deleted.mp (handling phase), Option.map_none]
  case known =>
    intro digest known
    rw [remembered] at known
    obtain ⟨content, present, same⟩ := Option.map_eq_some_iff.mp known
    exact ⟨content, .inl present, same⟩
  case cleared =>
    intro gone _ idle
    rw [deleted.mpr gone] at idle
    cases idle
  case taken =>
    -- the loader has to have taken in the content before: there was no event for it
    intro loaded unhandled content d present unseen _ reads
    have quiet : event? = none := by
      match event?, deleted with
      | none, _ => rfl
      | some .changed, _ => exact absurd rfl unhandled
      | some .deleted, deleted => exact nomatch present.symm.trans (deleted.mp rfl)
    obtain ⟨same, here, knew⟩ := silent.mp quiet
    have : same = content := Option.some.inj (here.symm.trans present)
    subst this
    exact inv.taken loaded (by rw [awake]; exact nofun) same d present unseen knew reads

theorem handle (inv : WatchInvariant k h w) {event : FileEvent}
    (handling : w.phase = .handling event) :
    WatchInvariant k (h.next w .handle) {
      w with phase := .idle, live := w.live.handleEvent k.kind event (.ofFile w.file) } := by
  have seen (quiet : w.signal = false) := inv.seen quiet (by rw [handling]; exact nofun)
  cases event with
  | deleted =>
    rw [WatchHistory.next, handling]
    refine {
      held := ListingKind.held_handleEvent_deleted k w.live (.ofFile w.file)
      seen := fun quiet _ => seen quiet
      event := fun _ _ phase => nomatch phase
      forgotten := fun phase => nomatch phase
      known := inv.known
      cleared := fun _ _ _ => rfl
      taken := ?_ }
    -- the watcher knows no content while a deletion is handled
    intro _ _ content d _ _ remembered
    exact nomatch (inv.forgotten handling).symm.trans remembered
  | changed =>
    rw [WatchHistory.next, handling]
    refine {
      held := ListingKind.held_handleEvent_changed inv.held _
      seen := fun quiet _ => seen quiet
      event := fun _ _ phase => nomatch phase
      forgotten := fun phase => nomatch phase
      known := inv.known
      cleared := ?_
      taken := ?_ }
    · -- the file that was reported is still there, or a signal would wait
      intro gone quiet _
      have present := (inv.event quiet .changed handling).mp rfl
      rw [show w.content? = none from gone] at present
      cases present
    · intro _ _ content d _ _ _ reads
      rw [WatchHistory.taking, show DocumentReading.ofFile w.file = .document d from reads]
      rfl

theorem load (inv : WatchInvariant k h w) :
    WatchInvariant k (h.next w .load) {
      w with loaded := true, live := w.live.handleChange k.kind (.ofFile w.file) } := by
  refine {
    held := ListingKind.held_handleChange inv.held _
    seen := inv.seen
    event := inv.event
    forgotten := inv.forgotten
    known := inv.known
    cleared := ?_
    taken := ?_ }
  · intro gone quiet idle
    have nothing : w.file = .absent := by
      rw [WatchedDocument.file, show w.content? = none from gone]
      rfl
    rw [WatchHistory.next, nothing]
    exact inv.cleared gone quiet idle
  · intro _ _ content d _ _ _ reads
    rw [WatchHistory.next, WatchHistory.taking,
      show DocumentReading.ofFile w.file = .document d from reads]
    rfl

/-- One step keeps the invariant. -/
theorem step {w' : WatchedDocument} {label : WatchStep} (inv : WatchInvariant k h w)
    (step : w.Step k label w') : WatchInvariant k (h.next w label) w' := by
  cases step with
  | edit content? => exact inv.edit content?
  | take idle waiting => exact inv.take idle
  | observe awake observed => exact inv.observe awake observed
  | handle handling => exact inv.handle handling
  | load first => exact inv.load

/-- Every run keeps it. -/
theorem run (run : WatchRun k h w) : WatchInvariant k h w := by
  induction run with
  | start started => exact start started
  | step _ step ih => exact ih.step step

end WatchInvariant

/-! ## What is held in the end -/

/-- **What a watched document settles to.** A file that is gone leaves nothing. Of a file that can
be read, its own listing is held exactly if the document that was taken in last lists the same; and
it always is if the file had no content before that looks like the present one. -/
theorem settled_listing {k : ListingKind} {h : WatchHistory} {w : WatchedDocument}
    (run : WatchRun k h w) (settled : w.Settled) :
    (w.content? = none → k.held w.live.topology = k.listed none) ∧
    ∀ content d, w.content? = some content → DocumentReading.ofFile w.file = .document d →
      (k.held w.live.topology = k.listed (some d) ↔ k.listed h.taken? = k.listed (some d)) ∧
      (h.Unseen content → k.held w.live.topology = k.listed (some d)) := by
  have inv := WatchInvariant.run run
  have idle : w.phase ≠ .awake ∧ w.phase ≠ .handling .changed := by
    rw [settled.idle]
    exact ⟨nofun, nofun⟩
  constructor
  · intro gone
    rw [inv.held, inv.cleared gone settled.quiet settled.idle]
  · intro content d present reads
    refine ⟨by rw [inv.held], ?_⟩
    intro unseen
    have remembered : w.changes.lastDigest = some (Digest.ofContent content) := by
      rw [inv.seen settled.quiet idle.1, present, Option.map_some]
    rw [inv.held, inv.taken settled.loaded idle.2 content d present unseen remembered reads]

theorem WatchRun.reach {k : ListingKind} {h h' : WatchHistory} {w w' : WatchedDocument}
    {label : WatchStep} (run : WatchRun k h w) (step : w.Step k label w')
    (history : h.next w label = h') : WatchRun k h' w' :=
  history ▸ run.step step

/-- A file that is written after the first load is reloaded, and then all is done. -/
theorem WatchRun.reloads_added (k : ListingKind) (content : ByteArray) :
    ∃ h w, WatchRun k h w ∧ w.Settled ∧ w.content? = some content ∧ h.replaced = [] := by
  let blind : ChangeWatcher := ⟨"", none⟩
  let knowing : ChangeWatcher := ⟨"", some (Digest.ofContent content)⟩
  have started : WatchRun k ⟨[], none⟩ (.start none blind) :=
    .start (show ChangeWatcher.start "" .absent = .ok blind from rfl)
  have loaded : WatchRun k ⟨[], none⟩
      ⟨none, false, .idle, blind, true, LiveState.initial.handleChange k.kind .notFound⟩ :=
    started.reach (.load rfl) rfl
  have woken := (loaded.step (.edit (some content))).step (.take rfl rfl)
  have reported : blind.observe (.file content) = (.ok (some .changed), knowing) := by
    rw [ChangeWatcher.observe, if_neg nofun]
  have observed :=
    woken.step (@WatchedDocument.Step.observe k _ (some .changed) knowing rfl reported)
  exact ⟨_, _, observed.step (.handle rfl), ⟨rfl, rfl, rfl⟩, rfl, rfl⟩

/-- A document with one repository. -/
def oneRepository : ByteArray := "[r]\nrepo_name=panic\n".toUTF8

theorem read_oneRepository : DocumentReading.ofFile (.file oneRepository) =
    .document (Document.empty.withSection "r" [("repo_name", "panic")]) := by
  decide +kernel

theorem settled_listing_oneRepository :
    ∃ h w, WatchRun .repositories h w ∧ w.Settled ∧ w.content? = some oneRepository ∧
      w.live.topology.repositories.keys = ["panic"] := by
  obtain ⟨h, w, run, settled, present, replaced⟩ :=
    WatchRun.reloads_added .repositories oneRepository
  have reads : DocumentReading.ofFile w.file =
      .document (Document.empty.withSection "r" [("repo_name", "panic")]) := by
    rw [WatchedDocument.file, present]
    exact read_oneRepository
  have unseen : h.Unseen oneRepository := by simp [WatchHistory.Unseen, replaced]
  have listing := ((settled_listing run settled).2 oneRepository _ present reads).2 unseen
  refine ⟨h, w, run, settled, present, ?_⟩
  rw [SliceUpdate.repositories.inj listing]
  decide

/-! ## Returning to an earlier content -/

/-- **A return is missed**: the file changes or goes before the first load and is back after it.
Nothing is left to be done, and what is held is what the first load found in between. -/
theorem WatchRun.return_missed (k : ListingKind) {content : ByteArray} {between? : Option ByteArray}
    (different : between? ≠ some content) :
    ∃ h w, WatchRun k h w ∧ w.Settled ∧ w.content? = some content ∧
      h.replaced = between?.toList ++ [content] ∧
      k.held w.live.topology =
        k.listed (DocumentReading.ofFile (.ofContent? between?)).document? := by
  let watcher : ChangeWatcher := ⟨"", some (Digest.ofContent content)⟩
  let reading := DocumentReading.ofFile (.ofContent? between?)
  let live := LiveState.initial.handleChange k.kind reading
  have started : WatchRun k ⟨[], none⟩ (.start (some content) watcher) :=
    .start (show ChangeWatcher.start "" (.file content) = .ok watcher from rfl)
  have changed : WatchRun k ⟨[content], none⟩ ⟨between?, true, .idle, watcher, false, .initial⟩ :=
    started.reach (.edit between?) (if_neg different)
  have loaded : WatchRun k ⟨[content], reading.document?⟩
      ⟨between?, true, .idle, watcher, true, live⟩ :=
    changed.reach (.load rfl) (congrArg (WatchHistory.mk [content]) Option.or_none)
  have returned : WatchRun k ⟨between?.toList ++ [content], reading.document?⟩
      ⟨some content, true, .idle, watcher, true, live⟩ :=
    loaded.reach (.edit (some content)) (if_neg different.symm)
  have woken : WatchRun k ⟨between?.toList ++ [content], reading.document?⟩
      ⟨some content, false, .awake, watcher, true, live⟩ :=
    returned.reach (.take rfl rfl) rfl
  have ignored : watcher.observe (.file content) = (.ok none, watcher) := by
    rw [ChangeWatcher.observe, if_pos rfl]
  have settled : WatchRun k ⟨between?.toList ++ [content], reading.document?⟩
      ⟨some content, false, .idle, watcher, true, live⟩ :=
    woken.reach (@WatchedDocument.Step.observe k _ none watcher rfl ignored) rfl
  exact ⟨_, _, settled, ⟨rfl, rfl, rfl⟩, rfl, rfl, (WatchInvariant.run settled).held⟩

/-- So what is held need not be the file's own listing, even if no two contents are confused: the
file is deleted before the first load and written again after it. -/
theorem settled_listing_returned :
    ¬ ∀ (k : ListingKind) (h : WatchHistory) (w : WatchedDocument) (content : ByteArray)
        (d : Document), WatchRun k h w → w.Settled → w.content? = some content →
      (∀ a ∈ content :: h.replaced, ∀ b ∈ content :: h.replaced,
        Digest.ofContent a = Digest.ofContent b → a = b) →
      DocumentReading.ofFile w.file = .document d →
      k.held w.live.topology = k.listed (some d) := by
  intro law
  obtain ⟨h, w, run, settled, present, replaced, held⟩ :=
    WatchRun.return_missed .repositories (show none ≠ some oneRepository from nofun)
  have reads : DocumentReading.ofFile w.file =
      .document (Document.empty.withSection "r" [("repo_name", "panic")]) := by
    rw [WatchedDocument.file, present]
    exact read_oneRepository
  have alone : ∀ a ∈ oneRepository :: h.replaced, a = oneRepository := by
    simp [replaced]
  have listing := law .repositories h w oneRepository _ run settled present
    (fun a ha b hb _ => (alone a ha).trans (alone b hb).symm) reads
  exact absurd (held.symm.trans listing) (by decide)

end ChainDashboard
