import ChainDashboard.Proofs.Topology.Slices
import ChainDashboard.Watch.Task

/-!
# Skipping contents that are not new

The file of a document goes from state to state. After each of them the watcher looks at it once,
and what it reports is handled before the next state. Without a watcher the same states would be
taken in one by one, with a reset for a file that is gone and a reload for everything else. Both
ways lead to the same slices: a content that the watcher skips is the one that was read last, and
reading it again would change nothing (`Deduplicated.again`). What the watcher reports is decided
by the state and by the latest state before it that could be read (`Reported`).
-/

namespace ChainDashboard

/-! ## States of the file -/

namespace FileState

/-- Whether it can be seen what the state is. -/
def isSeen : FileState → Bool
  | .absent | .file _ => true
  | .unreadable _ => false

/-- The digest of the content, if there is one. -/
def digest? : FileState → Option String
  | .file content => some (Digest.ofContent content)
  | .absent | .unreadable _ => none

/-- What a state comes to for the slice of a kind. -/
def events (kind : DocumentKind) : FileState → List DocumentEvent
  | .absent => [.cleared kind]
  | .file content => (DocumentReading.ofFile (.file content)).events kind
  | .unreadable _ => []

end FileState

/-- The latest of some states that could be seen. -/
def latestSeen? (states : List FileState) : Option FileState :=
  states.reverse.find? FileState.isSeen

theorem latestSeen?_append (states : List FileState) (state : FileState) :
    latestSeen? (states ++ [state]) =
      if state.isSeen then some state else latestSeen? states := by
  rw [latestSeen?, List.reverse_append, List.reverse_singleton, List.singleton_append,
    List.find?_cons, latestSeen?]
  cases state.isSeen <;> rfl

/-! ## The two runs -/

/-- The watcher of a document's file and the live state in which its reports are handled. -/
structure WatchedState where
  changes : ChangeWatcher
  live : LiveState

/-- The file has taken a new state: the watcher looks at it, and its report is handled. -/
def WatchedState.after (kind : DocumentKind) (w : WatchedState) (state : FileState) :
    WatchedState :=
  match w.changes.observe state with
  | (.ok (some event), changes) => ⟨changes, w.live.handleEvent kind event (.ofFile state)⟩
  | (.ok none, changes) => ⟨changes, w.live⟩
  | (.error _, changes) => ⟨changes, w.live⟩

/-- The file has taken a new state, which is taken in whether or not it is new. -/
def LiveState.taking (kind : DocumentKind) (s : LiveState) (state : FileState) : LiveState :=
  match state with
  | .absent => s.reset kind
  | .file _ | .unreadable _ => s.handleChange kind (.ofFile state)

theorem LiveState.topology_taking (kind : DocumentKind) (s : LiveState) (state : FileState) :
    (s.taking kind state).topology = s.topology.afterEvents (state.events kind) := by
  cases state with
  | absent => exact topology_reset kind s
  | file content => exact topology_handleChange kind _ s
  | unreadable e => exact topology_handleChange kind _ s

theorem LiveState.topology_handleEvent (kind : DocumentKind) (event : FileEvent)
    (reading : DocumentReading) (s : LiveState) :
    (s.handleEvent kind event reading).topology = s.topology.afterEvents (match event with
      | .changed => reading.events kind
      | .deleted => [.cleared kind]) := by
  cases event with
  | changed => exact topology_handleChange kind reading (s.counting (.fileEvent kind .changed))
  | deleted => exact topology_reset kind (s.counting (.fileEvent kind .deleted))

theorem WatchedState.changes_after (kind : DocumentKind) (w : WatchedState) (state : FileState) :
    (w.after kind state).changes = (w.changes.observe state).2 := by
  rw [after]
  split <;> simp_all

/-- With the watcher, a state is taken in unless it is skipped. -/
theorem WatchedState.topology_after (kind : DocumentKind) (w : WatchedState) (state : FileState) :
    (w.after kind state).live.topology = w.live.topology.afterEvents
      (if (w.changes.observe state).1 = .ok none then [] else state.events kind) := by
  cases state with
  | absent => exact LiveState.topology_handleEvent kind .deleted (.ofFile .absent) w.live
  | unreadable e => rfl
  | file content =>
    rw [after, ChangeWatcher.observe]
    by_cases same : w.changes.lastDigest = some (Digest.ofContent content)
    · simp only [if_pos same]
      rfl
    · simp only [if_neg same]
      exact LiveState.topology_handleEvent kind .changed _ w.live

/-! ## What is reported -/

/-- What the watcher says of a state after some others. -/
structure Reported (path : String) (earlier : List FileState) (state : FileState)
    (report : Except WatchError (Option FileEvent)) : Prop where
  deleted : report = .ok (some .deleted) ↔ state = .absent
  failed : ∀ e, report = .error (.digest path e) ↔ state = .unreadable e
  changed : report = .ok (some .changed) ↔
    ∃ content, state = .file content ∧ latestSeen? earlier ≠ some (.file content)
  silent : report = .ok none ↔
    ∃ content, state = .file content ∧ latestSeen? earlier = some (.file content)

/-- No two contents among the states have the same digest. -/
def DistinctDigests (states : List FileState) : Prop :=
  ∀ a b, FileState.file a ∈ states → FileState.file b ∈ states →
    Digest.ofContent a = Digest.ofContent b → a = b

theorem DistinctDigests.of_subset {states fewer : List FileState} (h : DistinctDigests states)
    (subset : fewer ⊆ states) : DistinctDigests fewer :=
  fun a b ha hb => h a b (subset ha) (subset hb)

theorem ChangeWatcher.lastDigest_observe (w : ChangeWatcher) (state : FileState) :
    (w.observe state).2.lastDigest = if state.isSeen then state.digest? else w.lastDigest := by
  cases state with
  | absent => rfl
  | unreadable e => rfl
  | file content =>
    show (if w.lastDigest = some (Digest.ofContent content) then _ else _ :
      Except WatchError (Option FileEvent) × ChangeWatcher).2.lastDigest =
        some (Digest.ofContent content)
    by_cases same : w.lastDigest = some (Digest.ofContent content)
    · rw [if_pos same, same]
    · rw [if_neg same]

theorem ChangeWatcher.path_observe (w : ChangeWatcher) (state : FileState) :
    (w.observe state).2.path = w.path := by
  cases state with
  | absent => rfl
  | unreadable e => rfl
  | file content =>
    show (if w.lastDigest = some (Digest.ofContent content) then _ else _ :
      Except WatchError (Option FileEvent) × ChangeWatcher).2.path = w.path
    split <;> rfl

/-! ## Both runs side by side -/

/-- What holds after the same states with the watcher and without it. -/
structure Deduplicated (kind : DocumentKind) (path : String) (states : List FileState)
    (w : WatchedState) (s : LiveState) : Prop where
  path : w.changes.path = path
  /-- The watcher remembers the latest state that it could see. -/
  digest : w.changes.lastDigest = (latestSeen? states).bind FileState.digest?
  slices : w.live.topology.SameSlices s.topology
  /-- Taking that state in again would change nothing. -/
  again : ∀ content, latestSeen? states = some (.file content) →
    (s.topology.afterEvents (FileState.events kind (.file content))).SameSlices s.topology

/-- A document that is read again, or cannot be read again, changes no slice. -/
theorem Topology.SameSlices.events_again (kind : DocumentKind) (reading : DocumentReading)
    (t : Topology) :
    ((t.afterEvents (reading.events kind)).afterEvents (reading.events kind)).SameSlices
      (t.afterEvents (reading.events kind)) := by
  cases reading with
  | document d => exact read_again kind d t
  | notFound => exact refl t
  | failed cause => exact refl t

namespace Deduplicated

variable {kind : DocumentKind} {path : String} {states : List FileState} {w : WatchedState}
  {s : LiveState} {state : FileState}

theorem start {changes : ChangeWatcher} (started : ChangeWatcher.start path state = .ok changes)
    (s : LiveState) :
    Deduplicated kind path [state] ⟨changes, s.handleChange kind (.ofFile state)⟩
      (s.handleChange kind (.ofFile state)) := by
  have seen : latestSeen? [state] = if state.isSeen then some state else none :=
    latestSeen?_append [] state
  constructor
  · cases state <;> cases started <;> rfl
  · cases state <;> cases started <;> rfl
  · exact .refl _
  · intro content latest
    have file : state = .file content := by
      cases state <;> rw [seen] at latest <;> cases latest
      rfl
    subst file
    rw [LiveState.topology_handleChange]
    exact Topology.SameSlices.events_again kind _ s.topology

/-- What is remembered is the digest of a content exactly if the content was seen last. -/
theorem remembers (h : Deduplicated kind path states w s) {content : ByteArray}
    (distinct : DistinctDigests (states ++ [.file content])) :
    w.changes.lastDigest = some (Digest.ofContent content) ↔
      latestSeen? states = some (.file content) := by
  rw [h.digest]
  constructor
  · intro same
    obtain ⟨state, latest, digest⟩ := Option.bind_eq_some_iff.mp same
    cases state with
    | absent => cases digest
    | unreadable e => cases digest
    | file last =>
      have present : FileState.file last ∈ states :=
        List.mem_reverse.mp (List.mem_of_find?_eq_some latest)
      rw [latest, distinct last content (List.mem_append_left _ present)
        (List.mem_append_right _ List.mem_cons_self) (Option.some.inj digest)]
  · intro latest
    rw [latest]
    rfl

theorem reported (h : Deduplicated kind path states w s)
    (distinct : DistinctDigests (states ++ [state])) :
    Reported path states state (w.changes.observe state).1 := by
  cases state with
  | absent => constructor <;> simp [ChangeWatcher.observe]
  | unreadable e => constructor <;> simp [ChangeWatcher.observe, h.path]
  | file content =>
    have remembers := h.remembers distinct
    by_cases same : latestSeen? states = some (.file content)
    · rw [ChangeWatcher.observe, if_pos (remembers.mpr same)]
      constructor <;> simp [same]
    · rw [ChangeWatcher.observe, if_neg (mt remembers.mp same)]
      constructor <;> simp [same]

/-- The same state is taken in by both runs, or skipped by the watcher. -/
theorem step (h : Deduplicated kind path states w s)
    (distinct : DistinctDigests (states ++ [state])) :
    Deduplicated kind path (states ++ [state]) (w.after kind state) (s.taking kind state) := by
  constructor
  case path => rw [WatchedState.changes_after, ChangeWatcher.path_observe, h.path]
  case digest =>
    rw [WatchedState.changes_after, ChangeWatcher.lastDigest_observe, latestSeen?_append, h.digest]
    split <;> rfl
  case slices =>
    rw [WatchedState.topology_after, LiveState.topology_taking]
    by_cases skipped : (w.changes.observe state).1 = .ok none
    · -- what is skipped was taken in last, so taking it in again changes nothing
      obtain ⟨content, rfl, latest⟩ := (h.reported distinct).silent.mp skipped
      rw [if_pos skipped]
      exact h.slices.trans (h.again content latest).symm
    · rw [if_neg skipped]
      exact h.slices.afterEvents _
  case again =>
    intro content latest
    rw [latestSeen?_append] at latest
    rw [LiveState.topology_taking]
    cases state with
    | absent => cases latest
    | unreadable e => exact h.again content latest
    | file new =>
      cases latest
      exact .events_again kind _ s.topology

/-- So do all states that follow. -/
theorem run {first : FileState} {changes : ChangeWatcher}
    (started : ChangeWatcher.start path first = .ok changes) (s : LiveState)
    (states : List FileState) (distinct : DistinctDigests (first :: states)) :
    Deduplicated kind path (first :: states)
      (states.foldl (WatchedState.after kind) ⟨changes, s.handleChange kind (.ofFile first)⟩)
      (states.foldl (LiveState.taking kind) (s.handleChange kind (.ofFile first))) := by
  induction states using List.reverseRecOn with
  | nil => exact start started s
  | append_singleton states state ih =>
    rw [List.foldl_append, List.foldl_append]
    have before : DistinctDigests (first :: states) :=
      distinct.of_subset (List.cons_subset_cons first (List.subset_append_left states [state]))
    exact (ih before).step distinct

end Deduplicated

/-- **Skipping is invisible**: from any live state and whatever states the file goes through, the
run with the watcher ends with the same slices as the run that takes in every state. On the way a
missing file is reported each time, a file that cannot be read is an error each time, and a file
that can be read is reported exactly if the latest state seen before was not the same. -/
theorem skipping_unchanged {kind : DocumentKind} {path : String} {first : FileState}
    {changes : ChangeWatcher} (started : ChangeWatcher.start path first = .ok changes)
    (s : LiveState) (states : List FileState) (distinct : DistinctDigests (first :: states)) :
    let loaded := s.handleChange kind (.ofFile first)
    let watched := List.foldl (WatchedState.after kind) ⟨changes, loaded⟩
    (watched states).live.topology.SameSlices
        (states.foldl (LiveState.taking kind) loaded).topology ∧
      ∀ before state after, states = before ++ state :: after →
        Reported path (first :: before) state ((watched before).changes.observe state).1 := by
  intro loaded watched
  refine ⟨(Deduplicated.run started s states distinct).slices, ?_⟩
  rintro before state after rfl
  have upTo : DistinctDigests (first :: before ++ [state]) := by
    refine distinct.of_subset (List.cons_subset_cons first ?_)
    simp
  have so_far : DistinctDigests (first :: before) :=
    upTo.of_subset (List.subset_append_left (first :: before) [state])
  exact (Deduplicated.run started s before so_far).reported upTo

/-- A main document that has nothing but the identifier. -/
def identifierOnly : FileState := .ofText "[general]\nunique_alerter_identifier=panic\n"

/-- A document that is written again, cannot be read for a while, goes and comes back. -/
theorem skipping_unchanged_identifierOnly :
    let changes : ChangeWatcher := ⟨"main", identifierOnly.digest?⟩
    let states := [identifierOnly, .unreadable .isDirectory, identifierOnly, .absent, .absent,
      identifierOnly]
    let loaded := LiveState.initial.handleChange .userMain (.ofFile identifierOnly)
    let watched := List.foldl (WatchedState.after .userMain) ⟨changes, loaded⟩
    ChangeWatcher.start "main" identifierOnly = .ok changes ∧
      DistinctDigests (identifierOnly :: states) ∧
      (watched states).live.topology.SameSlices
        (states.foldl (LiveState.taking .userMain) loaded).topology ∧
      ((watched (states.take 2)).changes.observe identifierOnly).1 = .ok none ∧
      ((watched (states.take 5)).changes.observe identifierOnly).1 = .ok (some .changed) := by
  intro changes states loaded watched
  have started : ChangeWatcher.start "main" identifierOnly = .ok changes := rfl
  have distinct : DistinctDigests (identifierOnly :: states) := by
    intro a b ha hb _
    simp_all [states, identifierOnly, FileState.ofText]
  obtain ⟨slices, reported⟩ :=
    @skipping_unchanged .userMain _ _ _ started LiveState.initial states distinct
  refine ⟨started, distinct, slices, ?_, ?_⟩
  · exact (reported (states.take 2) identifierOnly (states.drop 3) rfl).silent.mpr ⟨_, rfl, rfl⟩
  · refine (reported (states.take 5) identifierOnly [] rfl).changed.mpr ⟨_, rfl, ?_⟩
    rintro ⟨⟩

end ChainDashboard
