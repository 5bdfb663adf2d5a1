import ChainDashboard.Proofs.Topology.Slices
import Mathlib.Data.List.Count
import Mathlib.Logic.Function.Basic

/-!
# Reloads and resets that overlap

A reset is one step. A reload takes several: it reads its document, takes what is held if the
document is to be merged with that, and publishes what it decided. Steps of other operations and
edits of the files fall in between.

As long as no operation starts while another one of its kind is under way, the slices end up as if
every operation had happened as a whole at its first step (`separate_operations_atomic`); operations
of different kinds may overlap in any way.
-/

namespace ChainDashboard

/-! ## The system -/

/-- What the loader is asked to do. -/
inductive LoaderOperation where
  | reload (kind : DocumentKind)
  | reset (kind : DocumentKind)

/-- How far an operation has come. -/
inductive OperationPhase where
  | waiting
  /-- It read a document and is about to merge it with what is held. -/
  | read (d : Document)
  | decided (decision : Decision)
  | done

/-- Whether documents of the kind are merged with what is held. -/
def DocumentKind.isMerged : DocumentKind → Bool
  | .userMain | .userUi => true
  | .userNodes | .userRepos | .internalMain => false

namespace LoaderOperation

def kind : LoaderOperation → DocumentKind
  | .reload kind | .reset kind => kind

/-- Carries out the operation as a whole. -/
def run (files : DocumentKind → FileState) (s : LiveState) : LoaderOperation → LiveState
  | .reload kind => s.handleChange kind (.ofFile (files kind))
  | .reset kind => s.reset kind

/-- Carries out the operation's next step. -/
def advance (op : LoaderOperation) (files : DocumentKind → FileState) (s : LiveState) :
    OperationPhase → OperationPhase × LiveState
  | .waiting =>
    match op with
    | .reset kind => (.done, s.reset kind)
    | .reload kind =>
      match DocumentReading.ofFile (files kind) with
      | .document d =>
        -- what is held makes no difference to a decision about a kind that is not merged
        if kind.isMerged then (.read d, s)
        else (.decided (Decision.ofDocument kind s.topology d), s)
      | .notFound => (.done, s.handleChange kind .notFound)
      | .failed cause => (.done, s.handleChange kind (.failed cause))
  | .read d => (.decided (Decision.ofDocument op.kind s.topology d), s)
  | .decided decision => (.done, s.apply op.kind decision)
  | .done => (.done, s)

end LoaderOperation

/-- The operation has begun and is not done. -/
def OperationPhase.UnderWay : OperationPhase → Prop
  | .waiting | .done => False
  | .read _ | .decided _ => True

/-- What happens next: a file is edited, or an operation makes a step. -/
inductive LoaderAction (ι : Type) where
  | edit (kind : DocumentKind) (file : FileState)
  | step (i : ι)

/-- The files after the action. -/
def LoaderAction.files {ι : Type} (files : DocumentKind → FileState) :
    LoaderAction ι → DocumentKind → FileState
  | .edit kind file => Function.update files kind file
  | .step _ => files

/-- The files, the live state, and how far the operations have come. -/
structure OverlapState (ι : Type) where
  files : DocumentKind → FileState
  live : LiveState
  phase : ι → OperationPhase

namespace OverlapState

variable {ι : Type} [DecidableEq ι]

/-- No operation has begun. -/
def start (files : DocumentKind → FileState) (s : LiveState) : OverlapState ι where
  files
  live := s
  phase _ := .waiting

def after (ops : ι → LoaderOperation) (w : OverlapState ι) (action : LoaderAction ι) :
    OverlapState ι where
  files := action.files w.files
  live := match action with
    | .edit .. => w.live
    | .step i => ((ops i).advance w.files w.live (w.phase i)).2
  phase := match action with
    | .edit .. => w.phase
    | .step i => Function.update w.phase i ((ops i).advance w.files w.live (w.phase i)).1

def afterAll (ops : ι → LoaderOperation) (w : OverlapState ι)
    (schedule : List (LoaderAction ι)) : OverlapState ι :=
  schedule.foldl (after ops) w

/-- No operation is under way. -/
def Quiet (w : OverlapState ι) : Prop := ∀ i, ¬ (w.phase i).UnderWay

/-- The operations for which the action is the first step. -/
def begun (w : OverlapState ι) : LoaderAction ι → List ι
  | .edit .. => []
  | .step i =>
    match w.phase i with
    | .waiting => [i]
    | .read _ | .decided _ | .done => []

/-- The schedule's actions, each with the operations that it begins. -/
def serialOrder (ops : ι → LoaderOperation) (w : OverlapState ι) :
    List (LoaderAction ι) → List (LoaderAction ι × List ι)
  | [] => []
  | action :: rest => (action, w.begun action) :: serialOrder ops (w.after ops action) rest

/-- No operation starts while another one of its kind is under way. -/
def Separate (ops : ι → LoaderOperation) (w : OverlapState ι) : List (LoaderAction ι) → Prop
  | [] => True
  | action :: rest =>
    (∀ i ∈ w.begun action, ∀ j, (ops j).kind = (ops i).kind → ¬ (w.phase j).UnderWay) ∧
      Separate ops (w.after ops action) rest

end OverlapState

/-! ## Operations one after the other -/

/-- The files and the live state, when operations happen as a whole. -/
structure SequentialState where
  files : DocumentKind → FileState
  live : LiveState

namespace SequentialState

variable {ι : Type}

/-- An action of the schedule, and then the operations that take effect before the next one. -/
def after (ops : ι → LoaderOperation) (q : SequentialState) (entry : LoaderAction ι × List ι) :
    SequentialState where
  files := entry.1.files q.files
  live := entry.2.foldl (fun s i => (ops i).run (entry.1.files q.files) s) q.live

def afterAll (ops : ι → LoaderOperation) (q : SequentialState)
    (order : List (LoaderAction ι × List ι)) : SequentialState :=
  order.foldl (after ops) q

end SequentialState

/-- The order lists a schedule's actions, each with the operations that take effect right after it.
Every operation takes effect once, at an instant between its first step and its last. -/
structure Serializes {ι : Type} [DecidableEq ι] (schedule : List (LoaderAction ι))
    (order : List (LoaderAction ι × List ι)) : Prop where
  actions : order.map Prod.fst = schedule
  once : ∀ i, .step i ∈ schedule → (order.flatMap Prod.snd).count i = 1
  within : ∀ before action due after, order = before ++ (action, due) :: after → ∀ i ∈ due,
    .step i ∈ before.map Prod.fst ++ [action] ∧ .step i ∈ action :: after.map Prod.fst

/-- What a schedule leads to from a live state is what one of its serial orders leads to. -/
def AtomicFrom {ι : Type} [DecidableEq ι] (ops : ι → LoaderOperation)
    (files : DocumentKind → FileState) (s : LiveState) (schedule : List (LoaderAction ι)) : Prop :=
  ∃ order, Serializes schedule order ∧
    ((OverlapState.start files s).afterAll ops schedule).live.topology.SameSlices
      (SequentialState.afterAll ops ⟨files, s⟩ order).live.topology

/-! ## One operation -/

namespace LoaderOperation

/-- What the operation does to the slices. -/
def events (files : DocumentKind → FileState) : LoaderOperation → List DocumentEvent
  | .reload kind => (DocumentReading.ofFile (files kind)).events kind
  | .reset kind => [.cleared kind]

theorem topology_run (op : LoaderOperation) (files : DocumentKind → FileState) (s : LiveState) :
    (op.run files s).topology = s.topology.afterEvents (op.events files) := by
  cases op with
  | reload kind => exact s.topology_handleChange kind _
  | reset kind => exact s.topology_reset kind

theorem kind_of_mem_events {files : DocumentKind → FileState} {op : LoaderOperation}
    {e : DocumentEvent} (h : e ∈ op.events files) : e.kind = op.kind := by
  cases op with
  | reset kind =>
    rw [List.mem_singleton.mp h]
    rfl
  | reload kind =>
    rw [events] at h
    cases reading : DocumentReading.ofFile (files kind) <;>
      simp only [reading, DocumentReading.events, List.mem_singleton, List.not_mem_nil] at h
    rw [h]
    rfl

end LoaderOperation

theorem LiveState.topology_apply (kind : DocumentKind) (decision : Decision) (s : LiveState) :
    (s.apply kind decision).topology = decision.update?.elim s.topology s.topology.next := by
  rw [apply, topology_counting]
  cases decision.update? <;> rfl

namespace Topology.Agree

variable {kind : DocumentKind} {t u : Topology}

theorem next (h : t.Agree kind u) (update : SliceUpdate) :
    (t.next update).Agree kind (u.next update) := by
  by_cases own : update.kind = kind
  · exact own ▸ next_same t u
  · exact ((next_other own t).trans h).trans (next_other own u).symm

theorem afterEvents (h : t.Agree kind u) (events : List DocumentEvent) :
    (t.afterEvents events).Agree kind (u.afterEvents events) :=
  (afterEvents_filter kind events h).trans (afterEvents_filter kind events (.refl kind u)).symm

theorem afterEvents_other {events : List DocumentEvent} (other : ∀ e ∈ events, e.kind ≠ kind)
    (t : Topology) : (t.afterEvents events).Agree kind t := by
  have skipped := afterEvents_filter kind events (.refl kind t)
  rwa [List.filter_eq_nil_iff.mpr (by simpa using other)] at skipped

end Topology.Agree

/-- An operation leaves the slices of other kinds as they are. -/
theorem LoaderOperation.agree_run (op : LoaderOperation) (files : DocumentKind → FileState)
    (s : LiveState) {kind : DocumentKind} (other : op.kind ≠ kind) :
    (op.run files s).topology.Agree kind s.topology := by
  rw [op.topology_run files s]
  exact .afterEvents_other (fun e h => kind_of_mem_events h ▸ other) s.topology

/-- What the topology becomes when an operation in this phase is carried on to its end. -/
def OperationPhase.settled (kind : DocumentKind) (t : Topology) : OperationPhase → Topology
  | .read d => t.afterEvent (.read kind d)
  | .decided decision => decision.update?.elim t t.next
  | .waiting | .done => t

theorem OperationPhase.settled_of_not_underWay {kind : DocumentKind} {t : Topology}
    {phase : OperationPhase} (h : ¬ phase.UnderWay) : phase.settled kind t = t := by
  cases phase with
  | waiting => rfl
  | done => rfl
  | read d => exact absurd trivial h
  | decided decision => exact absurd trivial h

theorem OperationPhase.settled_agree {kind : DocumentKind} {t u : Topology} (h : t.Agree kind u)
    (phase : OperationPhase) : (phase.settled kind t).Agree kind (phase.settled kind u) := by
  cases phase with
  | waiting => exact h
  | done => exact h
  | read d => exact h.afterEvents [.read kind d]
  | decided decision =>
    show (decision.update?.elim t t.next).Agree kind (decision.update?.elim u u.next)
    cases decision.update? with
    | none => exact h
    | some update => exact h.next update

/-- What was decided is about the operation's own kind. -/
def OperationPhase.DecidesOn (kind : DocumentKind) : OperationPhase → Prop
  | .decided decision => ∀ u, decision.update? = some u → u.kind = kind
  | .waiting | .read _ | .done => True

namespace LoaderOperation

variable (op : LoaderOperation) (files : DocumentKind → FileState) (s : LiveState)

/-- The first step is the whole operation, or it reads a document. -/
theorem begin_cases :
    op.advance files s .waiting = (.done, op.run files s) ∨
      ∃ d, op.events files = [.read op.kind d] ∧
        op.run files s = s.apply op.kind (Decision.ofDocument op.kind s.topology d) ∧
        (op.advance files s .waiting = (.read d, s) ∨
          op.advance files s .waiting =
            (.decided (Decision.ofDocument op.kind s.topology d), s)) := by
  cases op with
  | reset kind => exact .inl rfl
  | reload kind =>
    simp only [advance, run, events]
    cases DocumentReading.ofFile (files kind) with
    | notFound => exact .inl rfl
    | failed cause => exact .inl rfl
    | document d =>
      refine .inr ⟨d, rfl, rfl, ?_⟩
      by_cases merged : kind.isMerged
      · exact .inl (if_pos merged)
      · exact .inr (if_neg merged)

/-- The first step settles what the operation comes to. -/
theorem settled_begin :
    (op.advance files s .waiting).1.settled op.kind (op.advance files s .waiting).2.topology =
      s.topology.afterEvents (op.events files) := by
  rcases op.begin_cases files s with whole | ⟨d, read, -, merging | decided⟩
  · rw [whole]
    exact op.topology_run files s
  · rw [merging, read]
    rfl
  · rw [decided, read]
    rfl

/-- A later step changes nothing about it. -/
theorem settled_advance {phase : OperationPhase} (begun : phase ≠ .waiting) :
    (op.advance files s phase).1.settled op.kind (op.advance files s phase).2.topology =
      phase.settled op.kind s.topology := by
  cases phase with
  | waiting => exact absurd rfl begun
  | read d => rfl
  | decided decision => exact s.topology_apply op.kind decision
  | done => rfl

theorem decidesOn_advance (phase : OperationPhase) :
    (op.advance files s phase).1.DecidesOn op.kind := by
  have about (d : Document) :
      OperationPhase.DecidesOn op.kind (.decided (Decision.ofDocument op.kind s.topology d)) :=
    fun _ update => DocumentEvent.kind_of_update? (e := .read op.kind d) update
  cases phase with
  | read d => exact about d
  | decided decision => trivial
  | done => trivial
  | waiting =>
    rcases op.begin_cases files s with whole | ⟨d, -, -, merging | decided⟩
    · rw [whole]
      trivial
    · rw [merging]
      trivial
    · rw [decided]
      exact about d

theorem advance_ne_waiting (phase : OperationPhase) : (op.advance files s phase).1 ≠ .waiting := by
  cases phase with
  | read d => exact nofun
  | decided decision => exact nofun
  | done => exact nofun
  | waiting =>
    rcases op.begin_cases files s with next | ⟨d, -, -, next | next⟩ <;>
      rw [next] <;> exact nofun

/-- A step leaves the slices of other kinds as they are. -/
theorem agree_advance {phase : OperationPhase} (decides : phase.DecidesOn op.kind)
    {kind : DocumentKind} (other : op.kind ≠ kind) :
    (op.advance files s phase).2.topology.Agree kind s.topology := by
  cases phase with
  | read d => exact .refl kind _
  | done => exact .refl kind _
  | decided decision =>
    show (s.apply op.kind decision).topology.Agree kind s.topology
    rw [s.topology_apply]
    cases update : decision.update? with
    | none => exact .refl kind _
    | some u => exact Topology.Agree.next_other (decides u update ▸ other) _
  | waiting =>
    rcases op.begin_cases files s with whole | ⟨d, -, -, next | next⟩
    · rw [whole]
      exact op.agree_run files s other
    · rw [next]
      exact .refl kind _
    · rw [next]
      exact .refl kind _

/-- An operation whose steps nothing interrupts happens as a whole. -/
theorem run_of_steps {ι : Type} [DecidableEq ι] (ops : ι → LoaderOperation) (i : ι) :
    let w := (OverlapState.start files s).afterAll ops [.step i, .step i, .step i]
    w.live = (ops i).run files s ∧ w.phase i = .done := by
  intro w
  simp only [w, OverlapState.afterAll, List.foldl_cons, List.foldl_nil, OverlapState.after,
    OverlapState.start, Function.update_self, LoaderAction.files]
  rcases (ops i).begin_cases files s with whole | ⟨d, -, whole, next | next⟩
  · rw [whole]
    exact ⟨rfl, rfl⟩
  · rw [next, whole]
    exact ⟨rfl, rfl⟩
  · rw [next, whole]
    exact ⟨rfl, rfl⟩

end LoaderOperation

/-! ## Operations that do not overlap with one of their kind -/

namespace OverlapState

variable {ι : Type} [DecidableEq ι] {ops : ι → LoaderOperation} {w : OverlapState ι}
  {q : SequentialState} {i : ι}

/-- No other operation of its kind is under way. -/
def IsAlone (ops : ι → LoaderOperation) (w : OverlapState ι) (i : ι) : Prop :=
  ∀ j, j ≠ i → (ops j).kind = (ops i).kind → ¬ (w.phase j).UnderWay

/-- In the slice of a kind the topology is what the state comes to when its operation of that kind is
carried on to its end. -/
structure SettlesTo (ops : ι → LoaderOperation) (w : OverlapState ι) (kind : DocumentKind)
    (t : Topology) : Prop where
  quiet : (∀ i, (ops i).kind = kind → ¬ (w.phase i).UnderWay) → w.live.topology.Agree kind t
  underWay : ∀ i, (ops i).kind = kind → (w.phase i).UnderWay →
    ((w.phase i).settled kind w.live.topology).Agree kind t

/-- The state of operations in steps beside that of the same operations as a whole, each done at the
first step. -/
structure Follows (ops : ι → LoaderOperation) (w : OverlapState ι) (q : SequentialState) :
    Prop where
  files : w.files = q.files
  alone : ∀ i, (w.phase i).UnderWay → w.IsAlone ops i
  decides : ∀ i, (w.phase i).DecidesOn (ops i).kind
  slices : ∀ kind, w.SettlesTo ops kind q.live.topology

omit [DecidableEq ι] in
theorem IsAlone.eq_of_underWay (alone : w.IsAlone ops i) {j : ι}
    (same : (ops j).kind = (ops i).kind) (underWay : (w.phase j).UnderWay) : j = i :=
  by_contra fun other => alone j other same underWay

omit [DecidableEq ι] in
theorem settlesTo_iff {t : Topology} (alone : w.IsAlone ops i) :
    w.SettlesTo ops (ops i).kind t ↔
      ((w.phase i).settled (ops i).kind w.live.topology).Agree (ops i).kind t := by
  constructor
  · intro h
    by_cases underWay : (w.phase i).UnderWay
    · exact h.underWay i rfl underWay
    · rw [OperationPhase.settled_of_not_underWay underWay]
      exact h.quiet fun j same other => underWay (alone.eq_of_underWay same other ▸ other)
  · intro h
    constructor
    · intro quiet
      rwa [OperationPhase.settled_of_not_underWay (quiet i rfl)] at h
    · intro j same underWay
      obtain rfl := alone.eq_of_underWay same underWay
      exact h

omit [DecidableEq ι] in
/-- What happens to other kinds makes no difference. -/
theorem SettlesTo.of_agree {kind : DocumentKind} {t t' : Topology} {w' : OverlapState ι}
    (h : w.SettlesTo ops kind t) (live : w'.live.topology.Agree kind w.live.topology)
    (phases : ∀ j, (ops j).kind = kind → w'.phase j = w.phase j) (same : t'.Agree kind t) :
    w'.SettlesTo ops kind t' where
  quiet none := by
    refine (live.trans (h.quiet fun j own => ?_)).trans same.symm
    exact phases j own ▸ none j own
  underWay j own underWay := by
    rw [phases j own] at underWay ⊢
    exact ((OperationPhase.settled_agree live _).trans (h.underWay j own underWay)).trans same.symm

omit [DecidableEq ι] in
theorem begun_step (w : OverlapState ι) (i : ι) :
    w.phase i = .waiting ∧ w.begun (.step i) = [i] ∨
      w.phase i ≠ .waiting ∧ w.begun (.step i) = [] := by
  cases phase : w.phase i <;> simp [begun, phase]

theorem phase_after_step (ops : ι → LoaderOperation) (w : OverlapState ι) (i : ι) :
    (w.after ops (.step i)).phase i = ((ops i).advance w.files w.live (w.phase i)).1 :=
  Function.update_self ..

theorem phase_after_other {action : LoaderAction ι} (other : action ≠ .step i) :
    (w.after ops action).phase i = w.phase i := by
  cases action with
  | edit kind file => rfl
  | step j => exact Function.update_of_ne (fun same => other (congrArg _ same.symm)) ..

theorem after_done (phase : w.phase i = .done) : w.after ops (.step i) = w := by
  have next : (ops i).advance w.files w.live (w.phase i) = (.done, w.live) := by
    rw [phase]
    rfl
  show OverlapState.mk w.files ((ops i).advance w.files w.live (w.phase i)).2
    (Function.update w.phase i ((ops i).advance w.files w.live (w.phase i)).1) = w
  rw [next, ← phase, Function.update_eq_self]

namespace Follows

omit [DecidableEq ι] in
theorem start (ops : ι → LoaderOperation) (files : DocumentKind → FileState) (s : LiveState) :
    (start files s).Follows ops ⟨files, s⟩ where
  files := rfl
  alone _ underWay := nomatch underWay
  decides _ := trivial
  slices kind := ⟨fun _ => .refl kind _, fun _ _ underWay => nomatch underWay⟩

theorem step (h : w.Follows ops q) (alone : w.IsAlone ops i) :
    (w.after ops (.step i)).Follows ops (q.after ops (.step i, w.begun (.step i))) := by
  have own_phase := phase_after_step ops w i
  have other_phase {j : ι} (other : j ≠ i) : (w.after ops (.step i)).phase j = w.phase j :=
    phase_after_other fun same => other (LoaderAction.step.inj same).symm
  have alone_after : (w.after ops (.step i)).IsAlone ops i := fun j other same =>
    other_phase other ▸ alone j other same
  constructor
  case files => exact h.files
  case alone =>
    intro m underWay
    by_cases own : m = i
    · exact own ▸ alone_after
    · rw [other_phase own] at underWay
      intro j other same
      by_cases stepped : j = i
      · -- two of one kind: the one that steps is alone, so `m` is not under way
        subst stepped
        exact absurd underWay (alone m own same.symm)
      · exact other_phase stepped ▸ h.alone m underWay j other same
  case decides =>
    intro m
    by_cases own : m = i
    · subst own
      rw [own_phase]
      exact (ops m).decidesOn_advance ..
    · rw [other_phase own]
      exact h.decides m
  case slices =>
    intro kind
    have live : ((w.after ops (.step i)).live.topology =
      ((ops i).advance w.files w.live (w.phase i)).2.topology) := rfl
    by_cases own : (ops i).kind = kind
    · subst own
      have before := (settlesTo_iff alone).mp (h.slices (ops i).kind)
      rw [settlesTo_iff alone_after, own_phase, live]
      -- the operation as a whole is due at the first step, and nothing is at a later one
      rcases w.begun_step i with ⟨waiting, begun⟩ | ⟨later, begun⟩
      · rw [waiting] at before ⊢
        rw [(ops i).settled_begin, begun, h.files]
        exact (ops i).topology_run q.files q.live ▸ before.afterEvents _
      · rw [(ops i).settled_advance _ _ later, begun]
        exact before
    · -- neither the step nor the whole operation touches the slice of another kind
      refine (h.slices kind).of_agree ((ops i).agree_advance _ _ (h.decides i) own) ?_ ?_
      · rintro j rfl
        exact other_phase fun same => own (same ▸ rfl)
      · rcases w.begun_step i with ⟨-, begun⟩ | ⟨-, begun⟩
        · rw [begun]
          exact (ops i).agree_run q.files q.live own
        · rw [begun]
          exact .refl kind _

/-- One action keeps the two states together. -/
theorem after (h : w.Follows ops q) {action : LoaderAction ι}
    (separate : ∀ i ∈ w.begun action, ∀ j, (ops j).kind = (ops i).kind →
      ¬ (w.phase j).UnderWay) :
    (w.after ops action).Follows ops (q.after ops (action, w.begun action)) := by
  cases action with
  | edit kind file =>
    refine ⟨?_, h.alone, h.decides, fun kind =>
      (h.slices kind).of_agree (.refl kind _) (fun _ _ => rfl) (.refl kind _)⟩
    show Function.update w.files kind file = Function.update q.files kind file
    rw [h.files]
  | step i =>
    cases phase : w.phase i with
    | waiting =>
      refine h.step fun j _ same => separate i ?_ j same
      simp [begun, phase]
    | read d => exact h.step (h.alone i (phase ▸ trivial))
    | decided decision => exact h.step (h.alone i (phase ▸ trivial))
    | done =>
      -- nothing is left to do, so it does not matter what else is under way
      have none : w.begun (.step i) = [] := by simp [begun, phase]
      rw [after_done phase, none]
      exact h

/-- So does a schedule. -/
theorem afterAll (h : w.Follows ops q) {schedule : List (LoaderAction ι)}
    (separate : w.Separate ops schedule) :
    (w.afterAll ops schedule).Follows ops (q.afterAll ops (w.serialOrder ops schedule)) := by
  induction schedule generalizing w q with
  | nil => exact h
  | cons action rest ih => exact ih (h.after separate.1) separate.2

omit [DecidableEq ι] in
theorem sameSlices (h : w.Follows ops q) (quiet : w.Quiet) :
    w.live.topology.SameSlices q.live.topology :=
  fun kind => (h.slices kind).quiet fun i _ => quiet i

end Follows

/-! ## The order of the first steps -/

theorem actions_serialOrder (ops : ι → LoaderOperation) (w : OverlapState ι)
    (schedule : List (LoaderAction ι)) : (w.serialOrder ops schedule).map Prod.fst = schedule := by
  induction schedule generalizing w with
  | nil => rfl
  | cons action rest ih => exact congrArg (action :: ·) (ih _)

omit [DecidableEq ι] in
theorem mem_begun {action : LoaderAction ι} (h : i ∈ w.begun action) :
    action = .step i ∧ w.phase i = .waiting := by
  cases action with
  | edit kind file => cases h
  | step j =>
    rcases w.begun_step j with ⟨waiting, begun⟩ | ⟨-, begun⟩ <;> rw [begun] at h
    · obtain rfl := List.mem_singleton.mp h
      exact ⟨rfl, waiting⟩
    · cases h

theorem mem_serialOrder {entry : LoaderAction ι × List ι} {schedule : List (LoaderAction ι)}
    (h : entry ∈ w.serialOrder ops schedule) (due : i ∈ entry.2) : entry.1 = .step i := by
  induction schedule generalizing w with
  | nil => cases h
  | cons action rest ih =>
    rcases List.mem_cons.mp h with rfl | h
    · exact (mem_begun due).1
    · exact ih h

/-- An operation that has begun does not begin again. -/
theorem count_serialOrder_begun (begun : w.phase i ≠ .waiting)
    (schedule : List (LoaderAction ι)) :
    ((w.serialOrder ops schedule).flatMap Prod.snd).count i = 0 := by
  induction schedule generalizing w with
  | nil => rfl
  | cons action rest ih =>
    have later : (w.after ops action).phase i ≠ .waiting := by
      by_cases own : action = .step i
      · rw [own, phase_after_step]
        exact (ops i).advance_ne_waiting _ _ _
      · rw [phase_after_other own]
        exact begun
    rw [serialOrder, List.flatMap_cons, List.count_append, ih later,
      List.count_eq_zero.mpr fun h => begun (mem_begun h).2]

/-- An operation that acts begins once. -/
theorem count_serialOrder_waiting (waiting : w.phase i = .waiting)
    {schedule : List (LoaderAction ι)} (acts : .step i ∈ schedule) :
    ((w.serialOrder ops schedule).flatMap Prod.snd).count i = 1 := by
  induction schedule generalizing w with
  | nil => cases acts
  | cons action rest ih =>
    rw [serialOrder, List.flatMap_cons, List.count_append]
    by_cases own : action = .step i
    · -- it begins with this step, and never again
      subst own
      have later : (w.after ops (.step i)).phase i ≠ .waiting :=
        phase_after_step ops w i ▸ (ops i).advance_ne_waiting _ _ _
      rw [count_serialOrder_begun later]
      simp [begun, waiting]
    · have acts := (List.mem_cons.mp acts).resolve_left fun same => own same.symm
      rw [ih ((phase_after_other own).trans waiting) acts,
        List.count_eq_zero.mpr fun h => own (mem_begun h).1]

/-- Operations of which no two are of one kind are separate, whatever the schedule. -/
theorem separate_of_injective (different : ∀ i j, (ops i).kind = (ops j).kind → i = j)
    (w : OverlapState ι) (schedule : List (LoaderAction ι)) : w.Separate ops schedule := by
  induction schedule generalizing w with
  | nil => trivial
  | cons action rest ih =>
    refine ⟨fun i begun j same => ?_, ih _⟩
    rw [different j i same, (mem_begun begun).2]
    exact id

theorem serializes_serialOrder (ops : ι → LoaderOperation) (files : DocumentKind → FileState)
    (s : LiveState) (schedule : List (LoaderAction ι)) :
    Serializes schedule ((start files s).serialOrder ops schedule) where
  actions := actions_serialOrder ops _ schedule
  once i acts := count_serialOrder_waiting rfl acts
  within before action due after split i h := by
    have listed : (action, due) ∈ (start files s).serialOrder ops schedule :=
      split ▸ List.mem_append_right before List.mem_cons_self
    obtain rfl : action = .step i := mem_serialOrder listed h
    exact ⟨List.mem_append_right _ List.mem_cons_self, List.mem_cons_self⟩

end OverlapState

/-- **Operations of different kinds do not disturb each other**: if no operation starts while another
one of its kind is under way, then once none is under way the slices are as if each operation had
happened at one instant, and they stay so whatever edits fall in between. -/
theorem separate_operations_atomic {ι : Type} [DecidableEq ι] (ops : ι → LoaderOperation)
    (files : DocumentKind → FileState) (s : LiveState) (schedule : List (LoaderAction ι))
    (separate : (OverlapState.start files s).Separate ops schedule)
    (quiet : ((OverlapState.start files s).afterAll ops schedule).Quiet) :
    AtomicFrom ops files s schedule :=
  ⟨_, OverlapState.serializes_serialOrder ops files s schedule,
    ((OverlapState.Follows.start ops files s).afterAll separate).sameSlices quiet⟩

theorem separate_operations_atomic_twoKinds :
    let ops : Bool → LoaderOperation := fun i => if i then .reset .userRepos else .reload .userMain
    let files := fun _ => FileState.ofText "[general]\nunique_alerter_identifier=panic\n"
    let schedule := [.step false, .step true, .edit .userMain .absent, .step false, .step false]
    (OverlapState.start files .initial).Separate ops schedule ∧
      ((OverlapState.start files .initial).afterAll ops schedule).Quiet ∧
      AtomicFrom ops files .initial schedule := by
  intro ops files schedule
  have separate : (OverlapState.start files .initial).Separate ops schedule :=
    OverlapState.separate_of_injective (by decide) _ schedule
  have quiet : ((OverlapState.start files .initial).afterAll ops schedule).Quiet := by
    have reads : DocumentReading.ofFile (files .userMain) = .document
        (Document.empty.withSection "general" [("unique_alerter_identifier", "panic")]) := by
      decide +kernel
    intro i
    have ended : ((OverlapState.start files .initial).afterAll ops schedule).phase i = .done := by
      cases i <;> simp [ops, schedule, OverlapState.afterAll, OverlapState.after,
        OverlapState.start, LoaderOperation.advance, LoaderAction.files, reads,
        DocumentKind.isMerged]
    rw [ended]
    exact id
  exact ⟨separate, quiet, separate_operations_atomic ops files .initial schedule separate quiet⟩

end ChainDashboard
