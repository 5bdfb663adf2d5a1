import ChainDashboard.Document.Reading
import ChainDashboard.Metrics
import ChainDashboard.Topology.Basic

/-!
Reloading: how a document turns into an update of the topology. The decision is a pure function of
the document and of what is held, and says at once what is replaced and what is reported. Reloads
and resets apply such decisions to the live state and count them.
-/
namespace ChainDashboard

/-- The outcome of a reload whose document was read or is not there. -/
inductive ReloadOutcome where
  | applied
  | notFound
  /-- Some required fields are missing; what was held for them stays. -/
  | fieldMissing (fields : List RequiredField)
  deriving DecidableEq, Repr

namespace ReloadOutcome

/-- The outcome if the given fields are missing. -/
def ofMissing (fields : List RequiredField) : ReloadOutcome :=
  if fields.isEmpty then .applied else .fieldMissing fields

/-- The result that is counted. -/
def result : ReloadOutcome → ReloadResult
  | .applied => .applied
  | .notFound => .notFound
  | .fieldMissing _ => .fieldMissing

end ReloadOutcome

/-- What a document leads to. -/
structure Decision where
  outcome : ReloadOutcome
  update? : Option SliceUpdate
  deriving DecidableEq

namespace Decision

/-- The main document replaces the identifier and the store settings each if it has them, and
leaves the one held before if it does not. -/
def ofMain (held : MainSettings) (d : Document) : Decision :=
  let identifier := d.alerter?
  let settings := d.storeSettings
  let missing :=
    (if identifier.isNone then [RequiredField.alerterIdentifier] else []) ++
      match settings with | .ok _ => [] | .error field => [field]
  { outcome := .ofMissing missing
    update? := some (.main {
      alerter := identifier <|> held.alerter
      store := match settings with | .ok s => some s | .error _ => held.store }) }

/-- A nodes document replaces all chains. -/
def ofNodes (d : Document) : Decision := ⟨.applied, some (.chains (.ofDocument d))⟩

/-- A repositories document replaces all repositories. -/
def ofRepositories (d : Document) : Decision := ⟨.applied, some (.repositories (.ofDocument d))⟩

/-- The internal document replaces the store's index if it has a valid one. -/
def ofInternal (d : Document) : Decision :=
  match d.storeIndex? with
  | some index => ⟨.applied, some (.storeIndex (some index))⟩
  | none => ⟨.fieldMissing [.storeIndex], none⟩

/-- The interface document replaces the credentials if together with those held they are complete;
parts that it lacks are named in any case. -/
def ofUi (held : Option Credentials) (d : Document) : Decision where
  outcome := .ofMissing (Credentials.fields.filter fun f => (d.credential? f).isNone)
  update? := (Credentials.merge d held).map .credentials

/-- What a document of a kind leads to, given what is held. -/
def ofDocument (kind : DocumentKind) (held : Topology) (d : Document) : Decision :=
  match kind with
  | .userMain => ofMain held.main d
  | .userNodes => ofNodes d
  | .userRepos => ofRepositories d
  | .internalMain => ofInternal d
  | .userUi => ofUi held.credentials d

end Decision

/-- The update that clears what a deleted document contributed. Credentials are never cleared. -/
def DocumentKind.clearing? : DocumentKind → Option SliceUpdate
  | .userMain => some (.main .none)
  | .userNodes => some (.chains NameMap.empty)
  | .userRepos => some (.repositories NameMap.empty)
  | .internalMain => some (.storeIndex none)
  | .userUi => none

/-- The process must not come up without credentials. -/
structure CredentialsMissing where
  deriving DecidableEq, Repr

/-- The report of missing credentials, for the document at `path`. -/
def CredentialsMissing.message (path : String) (_ : CredentialsMissing) : String :=
  "authentication is not set up: `" ++ path ++ "` is missing or incomplete"

/-- The live state: the topology and what was counted on the way to it. -/
structure LiveState where
  topology : Topology
  metrics : Metrics
  deriving DecidableEq

namespace LiveState

/-- The state of a fresh process. -/
def initial : LiveState := ⟨.initial, .empty⟩

instance : Inhabited LiveState := ⟨initial⟩

/-- Publishes an update and notes the version it leads to. -/
def publish (s : LiveState) (u : SliceUpdate) : LiveState :=
  let next := s.topology.next u
  ⟨next, s.metrics.setVersion next.version⟩

/-- Counts an event. -/
def counting (c : Counter) (s : LiveState) : LiveState :=
  { s with metrics := s.metrics.increment c }

/-- Carries out a decision about a document of a kind. -/
def apply (kind : DocumentKind) (decision : Decision) (s : LiveState) : LiveState :=
  (decision.update?.elim s s.publish).counting (.reload kind decision.outcome.result)

/-- Reloads a document. A failure to read it changes nothing and is not counted here; a document
that is not there changes nothing and is counted. -/
def reload (kind : DocumentKind) (reading : DocumentReading) (s : LiveState) :
    Except DocumentFailure ReloadOutcome × LiveState :=
  match reading with
  | .failed cause => (.error cause, s)
  | .notFound => (.ok .notFound, s.counting (.reload kind .notFound))
  | .document d =>
    let decision := Decision.ofDocument kind s.topology d
    (.ok decision.outcome, s.apply kind decision)

/-- Reloads a document after a change of its file. A failure is only counted. -/
def handleChange (kind : DocumentKind) (reading : DocumentReading) (s : LiveState) : LiveState :=
  match s.reload kind reading with
  | (.ok _, s) => s
  | (.error _, s) => s.counting (.reload kind .error)

/-- Clears what a document contributed, after its file was deleted. -/
def reset (kind : DocumentKind) (s : LiveState) : LiveState :=
  match kind.clearing? with
  | some u => (s.publish u).counting (.reload kind .reset)
  | none => s

/-- The first load: every document is attempted, whatever becomes of the others. Only missing
credentials are an error, and what was loaded stays loaded. -/
def loadInitial (reading : DocumentKind → DocumentReading) (s : LiveState) :
    Except CredentialsMissing Unit × LiveState :=
  let loaded := DocumentKind.all.foldl (fun s kind => s.handleChange kind (reading kind)) s
  (if loaded.topology.credentials.isSome then .ok () else .error ⟨⟩, loaded)

end LiveState

end ChainDashboard
