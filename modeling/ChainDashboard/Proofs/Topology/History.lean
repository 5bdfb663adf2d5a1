import ChainDashboard.Proofs.Topology.Sections
import ChainDashboard.Proofs.Topology.Settings
import ChainDashboard.Topology.Reload

/-!
# The topology as a fold of its history

The loader is asked to reload, to reset and to load everything, in any order and with any outcome of
the reads. For the topology only two things happen in such a run: a document of a kind was read, or
a kind was cleared (`topology_afterSteps`). Each slice follows from its own kind alone: it is made
from the documents that were read since the kind was last cleared (`topology_reflects_history`).
Chains and repositories are the last document's; the identifier of the alerter, the store settings
and the store's index are each the last document's that says them.
-/

namespace ChainDashboard

/-! ## Runs -/

/-- What is asked of the loader, with what the documents read as at that time. -/
inductive LoaderStep where
  | reload (kind : DocumentKind) (reading : DocumentReading)
  | change (kind : DocumentKind) (reading : DocumentReading)
  | reset (kind : DocumentKind)
  | loadInitial (readings : DocumentKind → DocumentReading)

/-- Carries out a step. -/
def LoaderStep.run (s : LiveState) : LoaderStep → LiveState
  | .reload kind reading => (s.reload kind reading).2
  | .change kind reading => s.handleChange kind reading
  | .reset kind => s.reset kind
  | .loadInitial readings => (s.loadInitial readings).2

/-- The state after some steps. -/
def LiveState.afterSteps (s : LiveState) (steps : List LoaderStep) : LiveState :=
  steps.foldl LoaderStep.run s

/-- What happened to a slice. -/
inductive DocumentEvent where
  | read (kind : DocumentKind) (d : Document)
  | cleared (kind : DocumentKind)
  deriving DecidableEq

namespace DocumentEvent

def kind : DocumentEvent → DocumentKind
  | .read kind _ => kind
  | .cleared kind => kind

/-- The document that was read, if it was one of the given kind. -/
def document? (kind : DocumentKind) : DocumentEvent → Option Document
  | .read other d => if other = kind then some d else none
  | .cleared _ => none

end DocumentEvent

/-- A reading matters if it gives a document. -/
def DocumentReading.events (kind : DocumentKind) : DocumentReading → List DocumentEvent
  | .document d => [.read kind d]
  | .notFound | .failed _ => []

/-- What a step does to the slices. -/
def LoaderStep.events : LoaderStep → List DocumentEvent
  | .reload kind reading | .change kind reading => reading.events kind
  | .reset kind => [.cleared kind]
  | .loadInitial readings => DocumentKind.all.flatMap fun kind => (readings kind).events kind

/-- What an event replaces, given what is held. -/
def DocumentEvent.update? (held : Topology) : DocumentEvent → Option SliceUpdate
  | .read kind d => (Decision.ofDocument kind held d).update?
  | .cleared kind => kind.clearing?

/-- The topology after an event. -/
def Topology.afterEvent (t : Topology) (e : DocumentEvent) : Topology :=
  (e.update? t).elim t t.next

/-- The topology after some events. -/
def Topology.afterEvents (t : Topology) (events : List DocumentEvent) : Topology :=
  events.foldl Topology.afterEvent t

/-! ## What a step does to the topology -/

@[simp] theorem LiveState.topology_counting (c : Counter) (s : LiveState) :
    (s.counting c).topology = s.topology := rfl

@[simp] theorem LiveState.topology_publish (s : LiveState) (u : SliceUpdate) :
    (s.publish u).topology = s.topology.next u := rfl

theorem LiveState.topology_reload (kind : DocumentKind) (reading : DocumentReading)
    (s : LiveState) :
    (s.reload kind reading).2.topology = s.topology.afterEvents (reading.events kind) := by
  cases reading with
  | notFound => rfl
  | failed cause => rfl
  | document d =>
    show (s.apply kind (Decision.ofDocument kind s.topology d)).topology =
      (Decision.ofDocument kind s.topology d).update?.elim s.topology s.topology.next
    cases update : (Decision.ofDocument kind s.topology d).update? <;> simp [apply, update]

theorem LiveState.topology_handleChange (kind : DocumentKind) (reading : DocumentReading)
    (s : LiveState) :
    (s.handleChange kind reading).topology = s.topology.afterEvents (reading.events kind) := by
  rw [← topology_reload]
  cases reading <;> rfl

theorem LiveState.topology_reset (kind : DocumentKind) (s : LiveState) :
    (s.reset kind).topology = s.topology.afterEvent (.cleared kind) := by
  cases kind <;> rfl

theorem Topology.afterEvents_append (t : Topology) (before after : List DocumentEvent) :
    t.afterEvents (before ++ after) = (t.afterEvents before).afterEvents after :=
  List.foldl_append

theorem LiveState.topology_loadInitial (readings : DocumentKind → DocumentReading)
    (s : LiveState) :
    (s.loadInitial readings).2.topology =
      s.topology.afterEvents (LoaderStep.loadInitial readings).events := by
  -- the kinds are loaded one after the other, each from what the ones before it left
  have loaded (kinds : List DocumentKind) (s : LiveState) :
      (kinds.foldl (fun s kind => s.handleChange kind (readings kind)) s).topology =
        s.topology.afterEvents (kinds.flatMap fun kind => (readings kind).events kind) := by
    induction kinds generalizing s with
    | nil => rfl
    | cons kind kinds ih =>
      rw [List.foldl_cons, ih, topology_handleChange, List.flatMap_cons,
        Topology.afterEvents_append]
  exact loaded DocumentKind.all s

theorem LoaderStep.topology_run (s : LiveState) (step : LoaderStep) :
    (step.run s).topology = s.topology.afterEvents step.events := by
  cases step with
  | reload kind reading => exact LiveState.topology_reload kind reading s
  | change kind reading => exact LiveState.topology_handleChange kind reading s
  | reset kind => exact LiveState.topology_reset kind s
  | loadInitial readings => exact LiveState.topology_loadInitial readings s

/-- **Only events matter**: the topology after a run is that after the events of its steps. -/
theorem LiveState.topology_afterSteps (s : LiveState) (steps : List LoaderStep) :
    (s.afterSteps steps).topology = s.topology.afterEvents (steps.flatMap LoaderStep.events) := by
  induction steps generalizing s with
  | nil => rfl
  | cons step steps ih =>
    rw [List.flatMap_cons, Topology.afterEvents_append, ← LoaderStep.topology_run]
    exact ih (step.run s)

/-! ## The documents that count -/

/-- The documents of a kind that were read since the kind was last cleared, the latest first. -/
def sinceCleared (kind : DocumentKind) (events : List DocumentEvent) : List Document :=
  (events.reverse.takeWhile (· ≠ .cleared kind)).filterMap (·.document? kind)

theorem sinceCleared_read (kind other : DocumentKind) (d : Document)
    (events : List DocumentEvent) :
    sinceCleared kind (events ++ [.read other d]) =
      if other = kind then d :: sinceCleared kind events else sinceCleared kind events := by
  by_cases same : other = kind <;> simp [sinceCleared, DocumentEvent.document?, same]

theorem sinceCleared_cleared (kind other : DocumentKind) (events : List DocumentEvent) :
    sinceCleared kind (events ++ [.cleared other]) =
      if other = kind then [] else sinceCleared kind events := by
  by_cases same : other = kind <;> simp [sinceCleared, DocumentEvent.document?, same]

theorem Record.repositoryName_eq_ok {r : Record} {name : String} :
    r.repositoryName.toOption = some name ↔ r.field? "repo_name" = some name := by
  rw [repositoryName, require]
  cases r.field? "repo_name" <;> simp [Except.toOption]

/-- A section names a repository by a value that is not blank, without the space around it. -/
def Record.Names (r : Record) (name : String) : Prop :=
  ∃ value, r.find? "repo_name" = some value ∧ Text.trim value = name ∧ name ≠ ""

/-- The repositories of a document are the names that its sections give. -/
theorem NameSet.mem_keys_ofDocument {d : Document} {name : String} :
    name ∈ (NameSet.ofDocument d).keys ↔ ∃ r ∈ d.sections.values, r.Names name := by
  simp only [ofDocument, ofNames, NameMap.mem_keys_ofList, List.map_map, List.mem_map,
    List.mem_filterMap, Record.repositoryName_eq_ok, Function.comp_apply, Record.Names,
    ← Text.nonBlank?_eq_some, ← Option.bind_eq_some_iff]
  constructor
  · rintro ⟨_, found, rfl⟩
    exact found
  · intro found
    exact ⟨name, found, rfl⟩

/-! ## What an event does to the slices -/

namespace Topology

variable (t : Topology) (d : Document)

theorem afterEvent_userMain :
    t.afterEvent (.read .userMain d) = t.next (.main {
      alerter := d.alerter?.or t.main.alerter
      store := d.storeSettings.toOption.or t.main.store }) := by
  show t.next _ = _
  congr 3
  · cases d.alerter? <;> rfl
  · cases d.storeSettings <;> rfl

theorem afterEvent_userNodes :
    t.afterEvent (.read .userNodes d) = t.next (.chains (.ofDocument d)) := rfl

theorem afterEvent_userRepos :
    t.afterEvent (.read .userRepos d) = t.next (.repositories (.ofDocument d)) := rfl

theorem afterEvent_internalMain :
    t.afterEvent (.read .internalMain d) =
      d.storeIndex?.elim t fun index => t.next (.storeIndex (some index)) := by
  show (Decision.ofInternal d).update?.elim t t.next = _
  rw [Decision.ofInternal]
  cases d.storeIndex? <;> rfl

theorem afterEvent_userUi :
    t.afterEvent (.read .userUi d) =
      (Credentials.merge d t.credentials).elim t fun c => t.next (.credentials c) := by
  show ((Credentials.merge d t.credentials).map SliceUpdate.credentials).elim t t.next = _
  cases Credentials.merge d t.credentials <;> rfl

end Topology

/-! ## A slice and the events of its kind -/

/-- The kind of document that fills the slice. -/
def SliceUpdate.kind : SliceUpdate → DocumentKind
  | .chains _ => .userNodes
  | .repositories _ => .userRepos
  | .main _ => .userMain
  | .credentials _ => .userUi
  | .storeIndex _ => .internalMain

theorem DocumentEvent.kind_of_update? {e : DocumentEvent} {held : Topology} {u : SliceUpdate}
    (h : e.update? held = some u) : u.kind = e.kind := by
  cases e with
  | cleared kind => cases kind <;> cases h <;> rfl
  | read kind d =>
    cases kind with
    | userMain => cases h; rfl
    | userNodes => cases h; rfl
    | userRepos => cases h; rfl
    | internalMain =>
      change (Decision.ofInternal d).update? = some u at h
      rw [Decision.ofInternal] at h
      cases index : d.storeIndex? <;> rw [index] at h <;> cases h
      rfl
    | userUi =>
      obtain ⟨c, -, rfl⟩ := Option.map_eq_some_iff.mp h
      rfl

namespace Topology

/-- Two topologies have the same in the slice that documents of a kind fill. -/
def Agree (kind : DocumentKind) (t u : Topology) : Prop :=
  match kind with
  | .userMain => t.main = u.main
  | .userNodes => t.chains = u.chains
  | .userRepos => t.repositories = u.repositories
  | .internalMain => t.storeIndex = u.storeIndex
  | .userUi => t.credentials = u.credentials

namespace Agree

variable {kind : DocumentKind} {t u v : Topology}

theorem refl (kind : DocumentKind) (t : Topology) : t.Agree kind t := by
  cases kind <;> rfl

theorem trans (h : t.Agree kind u) (h' : u.Agree kind v) : t.Agree kind v := by
  cases kind <;> exact Eq.trans h h'

/-- An update leaves the slices of other kinds as they are. -/
theorem next_other {update : SliceUpdate} (h : update.kind ≠ kind) (t : Topology) :
    (t.next update).Agree kind t := by
  cases update <;> cases kind <;> first | rfl | exact absurd rfl h

theorem next_same {update : SliceUpdate} (t u : Topology) :
    (t.next update).Agree update.kind (u.next update) := by
  cases update <;> rfl

theorem afterEvent_other {e : DocumentEvent} (h : e.kind ≠ kind) (t : Topology) :
    (t.afterEvent e).Agree kind t := by
  rw [afterEvent]
  cases update : e.update? t with
  | none => exact refl kind t
  | some u => exact next_other (DocumentEvent.kind_of_update? update ▸ h) t

/-- What an event replaces depends on its own slice only. -/
theorem update?_eq {e : DocumentEvent} (h : t.Agree e.kind u) : e.update? t = e.update? u := by
  cases e with
  | cleared kind => rfl
  | read kind d =>
    cases kind with
    | userMain => exact congrArg (fun held => (Decision.ofMain held d).update?) h
    | userUi => exact congrArg (fun held => (Decision.ofUi held d).update?) h
    | _ => rfl

theorem afterEvent_same {e : DocumentEvent} (h : t.Agree e.kind u) :
    (t.afterEvent e).Agree e.kind (u.afterEvent e) := by
  rw [afterEvent, afterEvent, ← h.update?_eq]
  cases update : e.update? t with
  | none => exact h
  | some change => exact DocumentEvent.kind_of_update? update ▸ next_same t u

/-- **Slices are independent**: what a run leaves in a slice is what the events of the slice's own
kind leave there. -/
theorem afterEvents_filter (kind : DocumentKind) (events : List DocumentEvent)
    (h : t.Agree kind u) :
    (t.afterEvents events).Agree kind (u.afterEvents (events.filter (·.kind = kind))) := by
  induction events generalizing t u with
  | nil => exact h
  | cons e events ih =>
    by_cases own : e.kind = kind
    · -- both runs take the event, from slices that agree
      rw [List.filter_cons_of_pos (by simpa using own)]
      subst own
      exact ih h.afterEvent_same
    · -- only the whole run takes it, and it leaves the slice alone
      rw [List.filter_cons_of_neg (by simpa using own)]
      exact ih ((afterEvent_other own t).trans h)

end Agree

end Topology

/-! ## What documents lead to in a slice -/

/-- The chains are those that the last of some documents loads. The last document comes first. -/
structure ChainMap.Reflects (docs : List Document) (m : ChainMap) : Prop where
  loaded : m = docs.head?.elim NameMap.empty ofDocument
  nodes : ∀ d ∈ docs.head?, m.LoadedFrom d

/-- The repositories are those that the last of some documents names. -/
def NameSet.Reflects (docs : List Document) (s : NameSet) : Prop :=
  ∀ name, name ∈ s.keys ↔ ∃ d ∈ docs.head?, ∃ r ∈ d.sections.values, r.Names name

/-- The identifier is the last that is said, and the store settings are the last that one document
states as a whole. -/
structure MainSettings.Reflects (docs : List Document) (m : MainSettings) : Prop where
  alerter : ∀ identifier, m.alerter = some identifier ↔
    LatestSays (fun d => d.Says "general" "unique_alerter_identifier") docs identifier
  store : ∀ settings, m.store = some settings ↔
    LatestSays (fun d s => s.StatedBy d) docs settings

/-- The index is the last that is given. -/
def IndexReflects (docs : List Document) (held : Option Int64) : Prop :=
  ∀ index, held = some index ↔ LatestSays Document.StatesIndex docs index

section Slices

variable {docs : List Document}

theorem ChainMap.Reflects.empty : ChainMap.Reflects [] NameMap.empty := ⟨rfl, nofun⟩

theorem ChainMap.Reflects.ofDocument (d : Document) :
    (ChainMap.ofDocument d).Reflects (d :: docs) :=
  ⟨rfl, by rintro _ ⟨⟩; exact loadedFrom_ofDocument d⟩

theorem NameSet.Reflects.empty : NameSet.Reflects [] NameMap.empty := fun _ => by simp

theorem NameSet.Reflects.ofDocument (d : Document) : (NameSet.ofDocument d).Reflects (d :: docs) :=
  fun _ => by simp [mem_keys_ofDocument]

theorem MainSettings.Reflects.none : MainSettings.none.Reflects [] :=
  ⟨fun _ => by simp [MainSettings.none], fun _ => by simp [MainSettings.none]⟩

theorem MainSettings.Reflects.read {m : MainSettings} (h : m.Reflects docs) (d : Document) :
    MainSettings.Reflects (d :: docs)
      ⟨d.alerter?.or m.alerter, d.storeSettings.toOption.or m.store⟩ where
  alerter := latestSays_or (fun _ => Document.alerter?_eq_some) h.alerter
  store := latestSays_or (fun _ => Document.toOption_storeSettings_eq_some) h.store

theorem IndexReflects.none : IndexReflects [] .none := fun _ => by simp

theorem IndexReflects.read {held : Option Int64} (h : IndexReflects docs held) (d : Document) :
    IndexReflects (d :: docs) (d.storeIndex?.or held) :=
  latestSays_or (fun _ => Document.storeIndex?_eq_some) h

end Slices

/-! ## The slices after a run -/

/-- What the documents read so far say about the slices other than the credentials. -/
structure Topology.Reflects (events : List DocumentEvent) (t : Topology) : Prop where
  chains : t.chains.Reflects (sinceCleared .userNodes events)
  repositories : t.repositories.Reflects (sinceCleared .userRepos events)
  main : t.main.Reflects (sinceCleared .userMain events)
  storeIndex : IndexReflects (sinceCleared .internalMain events) t.storeIndex

namespace Topology.Reflects

variable {events : List DocumentEvent} {t : Topology}

theorem initial : Topology.initial.Reflects [] := ⟨.empty, .empty, .none, .none⟩

/-- A document that is read changes the slice of its kind and no other. -/
theorem read (h : t.Reflects events) (kind : DocumentKind) (d : Document) :
    (t.afterEvent (.read kind d)).Reflects (events ++ [.read kind d]) := by
  cases kind with
  | userMain =>
    rw [afterEvent_userMain]
    constructor <;> simp only [sinceCleared_read, reduceCtorEq, reduceIte]
    exacts [h.chains, h.repositories, h.main.read d, h.storeIndex]
  | userNodes =>
    rw [afterEvent_userNodes]
    constructor <;> simp only [sinceCleared_read, reduceCtorEq, reduceIte]
    exacts [.ofDocument d, h.repositories, h.main, h.storeIndex]
  | userRepos =>
    rw [afterEvent_userRepos]
    constructor <;> simp only [sinceCleared_read, reduceCtorEq, reduceIte]
    exacts [h.chains, .ofDocument d, h.main, h.storeIndex]
  | internalMain =>
    rw [afterEvent_internalMain]
    have index := h.storeIndex.read d
    cases given : d.storeIndex? <;> rw [given] at index <;> constructor <;>
      simp only [sinceCleared_read, reduceCtorEq, reduceIte]
    exacts [h.chains, h.repositories, h.main, index, h.chains, h.repositories, h.main, index]
  | userUi =>
    rw [afterEvent_userUi]
    cases Credentials.merge d t.credentials <;> constructor <;>
      simp only [sinceCleared_read, reduceCtorEq, reduceIte]
    exacts [h.chains, h.repositories, h.main, h.storeIndex, h.chains, h.repositories, h.main,
      h.storeIndex]

theorem cleared (h : t.Reflects events) (kind : DocumentKind) :
    (t.afterEvent (.cleared kind)).Reflects (events ++ [.cleared kind]) := by
  cases kind <;> constructor <;> simp only [sinceCleared_cleared, reduceCtorEq, reduceIte]
  -- a line for each kind
  exacts [h.chains, h.repositories, .none, h.storeIndex,
    .empty, h.repositories, h.main, h.storeIndex,
    h.chains, .empty, h.main, h.storeIndex,
    h.chains, h.repositories, h.main, .none,
    h.chains, h.repositories, h.main, h.storeIndex]

/-- One event keeps the slices in step with the documents. -/
theorem step (h : t.Reflects events) (e : DocumentEvent) :
    (t.afterEvent e).Reflects (events ++ [e]) := by
  cases e with
  | read kind d => exact h.read kind d
  | cleared kind => exact h.cleared kind

/-- So does every run of events. -/
theorem run (events : List DocumentEvent) :
    (Topology.initial.afterEvents events).Reflects events := by
  induction events using List.reverseRecOn with
  | nil => exact initial
  | append_singleton events e ih =>
    rw [afterEvents_append]
    exact ih.step e

end Topology.Reflects

/-- **Each slice is the fold of its own history**, after every run of the loader from the start. -/
theorem topology_reflects_history (steps : List LoaderStep) :
    (LiveState.initial.afterSteps steps).topology.Reflects (steps.flatMap LoaderStep.events) := by
  rw [LiveState.topology_afterSteps]
  exact Topology.Reflects.run _

end ChainDashboard
