import ChainDashboard.Proofs.Disk
import ChainDashboard.Proofs.EnvFile
import ChainDashboard.Proofs.Topology.Credentials
import ChainDashboard.Proofs.Watch.Deduplication
import ChainDashboard.Startup

/-!
# The gate of a start

A start goes through stages before it binds a listener: the `.env` file, the address to bind, the
filter of logs, the address of metrics, a watch for each document, the credentials. What each stage
asks for is said by itself (`Launch.Passes`), and so is how each of them fails (`Launch.Fails`). A
start gets to the listeners if and only if every stage passes, and otherwise it ends with the error
of the first stage that fails (`start_gate`). No listener is bound without credentials.

The `.env` file is the nearest one, from the working directory up to the root
(`Launch.FindsEnvFile`). A value in it that no variable can be set to is the one failure that does
not come back as an error: the process ends in a panic.
-/

namespace ChainDashboard

/-! ## The first failure -/

/-- The first of some stages that fails does so with this error. -/
inductive FirstFailure {α ε : Type} (Fails : α → ε → Prop) : List α → ε → Prop where
  | here {a : α} {rest : List α} {e : ε} (fails : Fails a e) : FirstFailure Fails (a :: rest) e
  | later {a : α} {rest : List α} {e : ε} (passes : ∀ e, ¬Fails a e)
    (first : FirstFailure Fails rest e) : FirstFailure Fails (a :: rest) e

namespace FirstFailure

variable {α β ε : Type} {Fails : α → ε → Prop} {as bs : List α} {e e' : ε}

theorem exists_fails (first : FirstFailure Fails as e) : ∃ a, Fails a e := by
  induction first with
  | here fails => exact ⟨_, fails⟩
  | later _ _ ih => exact ih

theorem unique (functional : ∀ a e e', Fails a e → Fails a e' → e = e')
    (first : FirstFailure Fails as e) (first' : FirstFailure Fails as e') : e = e' := by
  induction first with
  | here fails =>
    cases first' with
    | here fails' => exact functional _ _ _ fails fails'
    | later passes _ => exact absurd fails (passes _)
  | later passes _ ih =>
    cases first' with
    | here fails' => exact absurd fails' (passes _)
    | later _ first' => exact ih first'

theorem append_left (first : FirstFailure Fails as e) (bs : List α) :
    FirstFailure Fails (as ++ bs) e := by
  induction first with
  | here fails => exact .here fails
  | later passes _ ih => exact .later passes ih

theorem append_right (passes : ∀ a ∈ as, ∀ e, ¬Fails a e) (first : FirstFailure Fails bs e) :
    FirstFailure Fails (as ++ bs) e := by
  induction as with
  | nil => exact first
  | cons a rest ih =>
    obtain ⟨here, others⟩ := List.forall_mem_cons.mp passes
    exact .later here (ih others)

/-- Doing the same for one thing after the other ends with the first error. -/
theorem of_mapM {γ δ : Type} {f : β → Except δ γ} {stage : β → α} {report : δ → ε}
    (fails : ∀ b e, f b = .error e → Fails (stage b) (report e))
    (passes : ∀ b c, f b = .ok c → ∀ e, ¬Fails (stage b) e) {bs : List β} {e : δ}
    (failed : bs.mapM f = .error e) : FirstFailure Fails (bs.map stage) (report e) := by
  induction bs with
  | nil => cases failed
  | cons b rest ih =>
    rw [List.mapM_cons] at failed
    cases first : f b with
    | error _ =>
      rw [first] at failed
      cases failed
      exact .here (fails b e first)
    | ok c =>
      cases others : rest.mapM f with
      | error _ =>
        rw [first, others] at failed
        cases failed
        exact .later (passes b c first) (ih others)
      | ok _ =>
        rw [first, others] at failed
        cases failed

end FirstFailure

theorem forall_ok_of_mapM {β γ δ : Type} {f : β → Except δ γ} {bs : List β} {cs : List γ}
    (done : bs.mapM f = .ok cs) : ∀ b ∈ bs, ∃ c, f b = .ok c := by
  induction bs generalizing cs with
  | nil => exact nofun
  | cons b rest ih =>
    rw [List.mapM_cons] at done
    cases first : f b with
    | error _ =>
      rw [first] at done
      cases done
    | ok c =>
      cases others : rest.mapM f with
      | error _ =>
        rw [first, others] at done
        cases done
      | ok _ => exact List.forall_mem_cons.mpr ⟨⟨c, first⟩, ih others⟩

/-! ## What a start asks for -/

/-- What a start finds: the disk, and the variables of the process. -/
structure Launch where
  disk : Disk
  env : Environment

/-- The stages before the first listener. -/
inductive StartStage where
  | envFile | bindAddress | logFilter | metricsAddress
  | watch (kind : DocumentKind)
  | credentials
  deriving DecidableEq, Repr

/-- The stages in their order. -/
def StartStage.all : List StartStage := [
  .envFile, .bindAddress, .logFilter, .metricsAddress, .watch .userMain, .watch .userNodes,
  .watch .userRepos, .watch .internalMain, .watch .userUi, .credentials]

/-- A look at a path shows that there is no file: there is nothing, or something else. -/
def Disk.LacksFile (d : Disk) (path : String) : Prop :=
  d.stat path = .error .notFound ∨
    ∃ place e, d.stat path = .ok (place, e) ∧ ∀ content, e ≠ .file content

namespace Launch

/-- The path of a `.env` file in the directory that the first names on the way to the working
directory lead to. -/
def envPath (l : Launch) (depth : Nat) : String :=
  "/" ++ String.intercalate "/" (l.disk.home.take depth ++ [".env"])

/-- What a search for the `.env` file finds. Beyond a path without a file the search goes on in the
directory around; anything else there ends it, also a path that cannot be looked at. -/
inductive FindsEnvFile (l : Launch) : FileState → Prop where
  | nowhere (lacks : ∀ depth ≤ l.disk.home.length, l.disk.LacksFile (l.envPath depth)) :
    l.FindsEnvFile .absent
  | nearest {depth : Nat} (onTheWay : depth ≤ l.disk.home.length)
    (ends : ¬l.disk.LacksFile (l.envPath depth))
    (lacks : ∀ n ≤ l.disk.home.length, depth < n → l.disk.LacksFile (l.envPath n)) :
    l.FindsEnvFile (l.disk.state (l.envPath depth))

/-- What comes of loading the `.env` file. -/
def envFile (l : Launch) : Except EnvFile.Problem Unit :=
  (EnvFile.hydrate (Running.envFile l.disk) l.env).1

/-- The variables once the `.env` file has been loaded. -/
def hydrated (l : Launch) : Environment := (EnvFile.hydrate (Running.envFile l.disk) l.env).2

/-- The text that a variable holds then. -/
def text? (l : Launch) (name : String) : Option String :=
  match l.hydrated.find? name with
  | some (.text value) => some value
  | _ => none

/-- The filter of logs. -/
def logFilter (l : Launch) : String := (l.text? "API_LOG_FILTER").getD "info"

/-- The address of metrics, unless it is blank. -/
def metricsAddress? (l : Launch) : Option String :=
  (l.text? "API_METRICS_ADDRESS").filter fun a => Text.trim a ≠ ""

/-- The directory of the documents. -/
def directory (l : Launch) : ConfigDirectory :=
  ⟨(((l.text? "PANIC_CONFIG_DIR").map Text.trim).filter (· ≠ "")).getD "config"⟩

/-- What is found at the path of a document. -/
def file (l : Launch) (kind : DocumentKind) : FileState := l.disk.state (l.directory.file kind)

/-- The file of the interface document is text, and the document that it states has every part of
the credentials. -/
def HasCredentials (l : Launch) : Prop :=
  ∃ content text d, l.file .userUi = .file content ∧ String.fromUTF8? content = some text ∧
    Document.parse text = .ok d ∧ d.HasCredentials

/-- The path under which the directory of a document is asked for. -/
def watchPath (l : Launch) (kind : DocumentKind) : String :=
  l.disk.absolute (Path.directory (l.directory.file kind))

/-- The place that is watched for a document: that of the directory of all documents. -/
def watchPlace (l : Launch) (kind : DocumentKind) : Except OsError (List String) :=
  (Path.formProblem? (l.watchPath kind)).elim (l.disk.arriveAt l.directory.path) .error

/-- A limit leaves something for a document, after the documents before it took one each. -/
def Leaves (limit : Option Nat) (kind : DocumentKind) : Prop := ∀ n ∈ limit, kind.index < n

/-- What each stage asks for. -/
def Passes (l : Launch) : StartStage → Prop
  | .envFile => l.envFile = .ok ()
  | .bindAddress =>
    ∃ address, l.text? "API_BIND_ADDRESS" = some address ∧ Text.trim address ≠ ""
  | .logFilter => LogFilter.check l.logFilter = .ok ()
  | .metricsAddress => ∀ address ∈ l.metricsAddress?, SocketAddress.isValid address
  | .watch kind =>
    (∀ e, l.file kind ≠ .unreadable e) ∧ Leaves l.disk.limits.watchers kind ∧
      (∃ place, l.watchPlace kind = .ok place) ∧ Leaves l.disk.limits.watches kind
  | .credentials => l.HasCredentials

/-- How each stage fails, if it does, given that the stages before it do not. The watch of a
document fails at the path of the document before a watcher is asked for, and that before the
directory is looked at. -/
inductive Fails (l : Launch) : StartStage → StartError → Prop where
  | envFile {problem : EnvFile.Problem} (malformed : l.envFile = .error problem) :
    l.Fails .envFile (.config (.envFile problem))
  | bindAddress
    (missing : ∀ address, l.text? "API_BIND_ADDRESS" = some address → Text.trim address = "") :
    l.Fails .bindAddress (.config (.missingVariable "API_BIND_ADDRESS"))
  | logFilter {problem : LogFilter.Problem}
    (invalid : LogFilter.check l.logFilter = .error problem) :
    l.Fails .logFilter (.telemetry (.invalidLogFilter problem))
  | metricsAddress {address : String} (given : l.metricsAddress? = some address)
    (invalid : SocketAddress.isValid address = false) :
    l.Fails .metricsAddress (.telemetry (.invalidMetricsAddress address))
  | digest {kind : DocumentKind} {e : OsError} (unreadable : l.file kind = .unreadable e) :
    l.Fails (.watch kind) (.watch (.digest (l.directory.file kind) e))
  | noWatcher {kind : DocumentKind} (readable : ∀ e, l.file kind ≠ .unreadable e)
    (spent : ¬Leaves l.disk.limits.watchers kind) :
    l.Fails (.watch kind) (.watch (.noWatcher (l.directory.file kind) .tooManyOpenFiles))
  | directory {kind : DocumentKind} {e : OsError} (readable : ∀ e, l.file kind ≠ .unreadable e)
    (granted : Leaves l.disk.limits.watchers kind) (unwatchable : l.watchPlace kind = .error e) :
    l.Fails (.watch kind) (.watch (.directory (l.directory.file kind) e (l.watchPath kind)))
  | limitReached {kind : DocumentKind} {place : List String}
    (readable : ∀ e, l.file kind ≠ .unreadable e) (granted : Leaves l.disk.limits.watchers kind)
    (watchable : l.watchPlace kind = .ok place) (spent : ¬Leaves l.disk.limits.watches kind) :
    l.Fails (.watch kind) (.watch (.limitReached (l.directory.file kind) (l.watchPath kind)))
  | credentials (incomplete : ¬l.HasCredentials) :
    l.Fails .credentials (.config (.credentialsMissing (l.directory.file .userUi)))

variable {l : Launch}

theorem Fails.functional (stage : StartStage) (e e' : StartError) (fails : l.Fails stage e)
    (fails' : l.Fails stage e') : e = e' := by
  cases fails <;> cases fails' <;> simp_all

theorem Passes.not_fails {stage : StartStage} (passes : l.Passes stage) (e : StartError) :
    ¬l.Fails stage e := by
  intro fails
  cases fails with
  | envFile malformed => exact nomatch malformed.symm.trans passes
  | bindAddress missing =>
    obtain ⟨address, given, nonBlank⟩ := passes
    exact nonBlank (missing address given)
  | logFilter invalid => exact nomatch invalid.symm.trans passes
  | metricsAddress given invalid => simp [passes _ given] at invalid
  | digest unreadable => exact passes.1 _ unreadable
  | noWatcher _ spent => exact spent passes.2.1
  | directory _ _ unwatchable =>
    obtain ⟨-, -, ⟨place, found⟩, -⟩ := passes
    exact nomatch unwatchable.symm.trans found
  | limitReached _ _ _ spent => exact spent passes.2.2.2
  | credentials incomplete => exact incomplete passes

end Launch

/-! ## The `.env` file -/

theorem Disk.lacksFile_iff {d : Disk} {path : String} :
    d.lacksFile path = true ↔ d.LacksFile path := by
  rw [lacksFile, LacksFile]
  rcases d.stat path with e | ⟨place, _ | _ | _⟩
  · cases e <;> simp
  all_goals simp

/-- Going down, the first number with a property is the greatest of those that have it. -/
theorem find?_reverse_range (p : Nat → Bool) (count : Nat) :
    ((List.range count).reverse.find? p = none ∧ ∀ n < count, p n = false) ∨
      ∃ greatest < count, (List.range count).reverse.find? p = some greatest ∧
        p greatest = true ∧ ∀ n < count, greatest < n → p n = false := by
  induction count with
  | zero => exact .inl ⟨rfl, nofun⟩
  | succ count ih =>
    rw [List.range_succ, List.reverse_append, List.reverse_singleton, List.singleton_append]
    cases last : p count with
    | true =>
      refine .inr ⟨count, Nat.lt_succ_self count, List.find?_cons_of_pos last, last, ?_⟩
      intro n below above
      omega
    | false =>
      rw [List.find?_cons_of_neg (by simp [last])]
      have others {n : Nat} (below : n < count + 1) : n < count ∨ n = count := by omega
      rcases ih with ⟨none, all⟩ | ⟨greatest, below, found, holds, above⟩
      · exact .inl ⟨none, fun n below => (others below).elim (all n) (· ▸ last)⟩
      · refine .inr ⟨greatest, Nat.lt_succ_of_lt below, found, holds, fun n below' further => ?_⟩
        exact (others below').elim (above n · further) (· ▸ last)

theorem Launch.findsEnvFile (l : Launch) : l.FindsEnvFile (Running.envFile l.disk) := by
  have paths : Running.envPaths l.disk =
      (List.range (l.disk.home.length + 1)).reverse.map l.envPath := rfl
  rw [Running.envFile, paths, List.find?_map]
  rcases find?_reverse_range ((fun path => !l.disk.lacksFile path) ∘ l.envPath)
    (l.disk.home.length + 1) with ⟨none, lacks⟩ | ⟨depth, onTheWay, found, ends, lacks⟩ <;>
    simp only [Function.comp_apply, Bool.not_eq_eq_eq_not, Bool.not_false,
      Disk.lacksFile_iff, Nat.lt_succ_iff] at lacks
  · rw [none]
    exact .nowhere lacks
  · rw [found]
    refine .nearest (Nat.le_of_lt_succ onTheWay) (fun none => ?_) lacks
    simp [Disk.lacksFile_iff.mpr none] at ends

/-! ## Variables -/

namespace Launch

theorem text?_hydrated (l : Launch) {name : String} (noEquals : '=' ∉ name.toList) :
    l.hydrated.text? name = l.text? name :=
  Environment.text?_eq_held? _ noEquals

theorem nonBlank?_hydrated (l : Launch) {name : String} (noEquals : '=' ∉ name.toList) :
    l.hydrated.nonBlank? name = ((l.text? name).map Text.trim).filter (· ≠ "") := by
  rw [Environment.nonBlank?, l.text?_hydrated noEquals]
  cases l.text? name with
  | none => rfl
  | some text =>
    ext trimmed
    rw [Option.bind_some, Text.nonBlank?_eq_some, Option.map_some, Option.filter_eq_some_iff]
    simp only [Option.some.injEq, ne_eq, decide_eq_true_eq]

theorem passes_address (l : Launch) {address : String}
    (given : l.hydrated.nonBlank? "API_BIND_ADDRESS" = some address) : l.Passes .bindAddress := by
  rw [l.nonBlank?_hydrated (by decide), Option.filter_eq_some_iff, Option.map_eq_some_iff] at given
  obtain ⟨⟨text, held, rfl⟩, nonBlank⟩ := given
  exact ⟨text, held, of_decide_eq_true nonBlank⟩

theorem blank_address (l : Launch) (missing : l.hydrated.nonBlank? "API_BIND_ADDRESS" = none)
    (text : String) (held : l.text? "API_BIND_ADDRESS" = some text) : Text.trim text = "" := by
  rw [l.nonBlank?_hydrated (by decide), held, Option.map_some] at missing
  simpa using Option.filter_eq_none_iff.mp missing _ rfl

theorem directory_eq (l : Launch) :
    l.directory = ⟨(l.hydrated.nonBlank? "PANIC_CONFIG_DIR").getD "config"⟩ := by
  rw [l.nonBlank?_hydrated (by decide), directory]

end Launch

/-! ## Watches -/

theorem DocumentKind.isName_fileName (kind : DocumentKind) : Path.isName kind.fileName = true := by
  cases kind <;> decide

namespace WatchTask

variable {disk : Disk} {path : String}

theorem register_unreadable {e : OsError} (unreadable : disk.state path = .unreadable e) :
    register disk path = .error (.digest path e) := by
  rw [register, unreadable]
  rfl

/-- A document that can be read is watched if and only if its directory is. -/
theorem register_readable {name : String} (readable : ∀ e, disk.state path ≠ .unreadable e)
    (named : Path.fileName? path = some name) :
    ∃ task, register disk path = (watchDirectory disk path).map task := by
  have started : ∃ changes, ChangeWatcher.start path (disk.state path) = .ok changes := by
    cases found : disk.state path with
    | absent => exact ⟨_, rfl⟩
    | file content => exact ⟨_, rfl⟩
    | unreadable e => exact absurd found (readable e)
  obtain ⟨changes, started⟩ := started
  refine ⟨fun place => ⟨changes, name, Path.directory path, place, true, false, none⟩, ?_⟩
  rw [register, started]
  simp only [named, bind, Except.bind]
  cases watchDirectory disk path <;> rfl

end WatchTask

namespace Launch

variable {l : Launch}

theorem path_directory_ne (l : Launch) : l.directory.path ≠ "" := by
  rw [directory]
  cases given : ((l.text? "PANIC_CONFIG_DIR").map Text.trim).filter (· ≠ "") with
  | none => decide
  | some path => exact of_decide_eq_true (Option.filter_eq_some_iff.mp given).2

theorem leaves_iff {limit : Option Nat} {kind : DocumentKind} :
    Leaves limit kind ↔ limit.map (· - kind.index) ≠ some 0 := by
  cases limit with
  | none => simp [Leaves]
  | some n => simp [Leaves, Nat.sub_eq_zero_iff_le]

/-- The place that is watched is found from the path of the document, not from the directory's. -/
theorem directory_file (l : Launch) (kind : DocumentKind) :
    (l.disk.afterWatchers kind.index).directory (Path.directory (l.directory.file kind)) =
      l.watchPlace kind := by
  have same : l.disk.arriveAt (Path.directory (l.directory.file kind)) =
      l.disk.arriveAt l.directory.path := by
    rw [ConfigDirectory.file, Disk.arriveAt_within l.path_directory_ne kind.isName_fileName]
  rw [Disk.directory_afterWatchers, Disk.directory, watchPlace, watchPath, same]
  cases Path.formProblem? (l.disk.absolute (Path.directory (l.directory.file kind))) <;> rfl

/-- Putting the watch of a document that can be read on its directory fails as its stage does, and
else the stage passes. -/
theorem watchDirectory_cases {kind : DocumentKind} (readable : ∀ e, l.file kind ≠ .unreadable e) :
    (∃ e, WatchTask.watchDirectory (l.disk.afterWatchers kind.index) (l.directory.file kind) =
        .error e ∧ l.Fails (.watch kind) (.watch e)) ∨
      (∃ place, WatchTask.watchDirectory (l.disk.afterWatchers kind.index)
        (l.directory.file kind) = .ok place) ∧ l.Passes (.watch kind) := by
  have watchers : (l.disk.afterWatchers kind.index).limits.watchers ≠ some 0 ↔
      Leaves l.disk.limits.watchers kind := leaves_iff.symm
  have watches : (l.disk.afterWatchers kind.index).limits.watches ≠ some 0 ↔
      Leaves l.disk.limits.watches kind := leaves_iff.symm
  simp only [WatchTask.watchDirectory, l.directory_file kind]
  by_cases granted : Leaves l.disk.limits.watchers kind
  · rw [if_neg (watchers.mpr granted)]
    cases watched : l.watchPlace kind with
    | error e => exact .inl ⟨_, rfl, .directory readable granted watched⟩
    | ok place =>
      by_cases left : Leaves l.disk.limits.watches kind
      · exact .inr ⟨⟨place, if_neg (watches.mpr left)⟩, readable, granted, ⟨place, watched⟩, left⟩
      · exact .inl ⟨_, if_pos (not_not.mp (mt watches.mp left)),
          .limitReached readable granted watched left⟩
  · exact .inl ⟨_, if_pos (not_not.mp (mt watchers.mp granted)), .noWatcher readable granted⟩

/-- Registering the watch of a document fails as its stage does, and else the stage passes. -/
theorem register_cases (l : Launch) (kind : DocumentKind) :
    (∃ e, Watches.registerOne l.disk l.directory kind = .error e ∧
        l.Fails (.watch kind) (.watch e)) ∨
      (∃ task, Watches.registerOne l.disk l.directory kind = .ok task) ∧
        l.Passes (.watch kind) := by
  have named : Path.fileName? (l.directory.file kind) = some kind.fileName :=
    Path.fileName?_within l.path_directory_ne kind.isName_fileName
  have state : (l.disk.afterWatchers kind.index).state (l.directory.file kind) = l.file kind :=
    Disk.state_afterWatchers ..
  rw [Watches.registerOne]
  by_cases readable : ∀ e, l.file kind ≠ .unreadable e
  · obtain ⟨task, registered⟩ := WatchTask.register_readable (by rwa [state]) named
    rw [registered]
    rcases watchDirectory_cases readable with ⟨e, failed, fails⟩ | ⟨⟨place, done⟩, passes⟩
    · exact .inl ⟨e, by rw [failed]; rfl, fails⟩
    · exact .inr ⟨⟨_, by rw [done]; rfl⟩, passes⟩
  · simp only [not_forall, not_not] at readable
    obtain ⟨e, unreadable⟩ := readable
    have failed := WatchTask.register_unreadable (state.trans unreadable)
    exact .inl ⟨_, by rw [failed]; rfl, .digest unreadable⟩

/-- Registering all watches ends with the first stage that fails. -/
theorem register_all (l : Launch) :
    (∃ e, Watches.register l.disk l.directory = .error e ∧
        FirstFailure l.Fails (DocumentKind.all.map .watch) (.watch e)) ∨
      (∃ watches, Watches.register l.disk l.directory = .ok watches) ∧
        ∀ kind, l.Passes (.watch kind) := by
  have fails (kind : DocumentKind) (e : WatchError)
      (failed : Watches.registerOne l.disk l.directory kind = .error e) :
      l.Fails (.watch kind) (.watch e) := by
    rcases l.register_cases kind with ⟨e', failed', fails⟩ | ⟨⟨task, registered⟩, -⟩
    · rw [failed'] at failed
      cases failed
      exact fails
    · rw [registered] at failed
      cases failed
  have passes (kind : DocumentKind) (task : DocumentKind × WatchTask)
      (registered : Watches.registerOne l.disk l.directory kind = .ok task) :
      l.Passes (.watch kind) := by
    rcases l.register_cases kind with ⟨e, failed, -⟩ | ⟨-, passes⟩
    · rw [failed] at registered
      cases registered
    · exact passes
  rw [Watches.register]
  cases registered : DocumentKind.all.mapM (Watches.registerOne l.disk l.directory) with
  | error e =>
    exact .inl ⟨e, rfl, .of_mapM fails (fun kind task ok => (passes kind task ok).not_fails)
      registered⟩
  | ok tasks =>
    refine .inr ⟨⟨_, rfl⟩, fun kind => ?_⟩
    obtain ⟨task, registered⟩ := forall_ok_of_mapM registered kind kind.mem_all
    exact passes kind task registered

end Launch

/-! ## Credentials -/

/-- A document is read from a file that is text and parses. -/
theorem DocumentReading.ofFile_eq_document {state : FileState} {d : Document} :
    ofFile state = .document d ↔ ∃ content text, state = .file content ∧
      String.fromUTF8? content = some text ∧ Document.parse text = .ok d := by
  cases state with
  | absent => simp [ofFile, FileState.readText]
  | unreadable e => simp [ofFile, FileState.readText]
  | file content =>
    simp only [ofFile, FileState.readText, FileState.file.injEq]
    cases decoded : String.fromUTF8? content with
    | none => simp [decoded]
    | some text =>
      cases parsed : Document.parse text <;> simp [decoded, parsed]

theorem Launch.hasCredentials_iff (l : Launch) : l.HasCredentials ↔
    ∃ d, l.directory.read l.disk .userUi = .document d ∧ d.HasCredentials := by
  simp only [HasCredentials, ConfigDirectory.read, DocumentReading.ofFile_eq_document]
  constructor
  · rintro ⟨content, text, d, found, decoded, parsed, complete⟩
    exact ⟨d, ⟨content, text, found, decoded, parsed⟩, complete⟩
  · rintro ⟨d, ⟨content, text, found, decoded, parsed⟩, complete⟩
    exact ⟨content, text, d, found, decoded, parsed, complete⟩

/-- After the first load of a fresh process credentials are held if and only if the interface
document has every part of them. -/
theorem LiveState.isSome_credentials_loadInitial (readings : DocumentKind → DocumentReading) :
    (LiveState.initial.loadInitial readings).2.topology.credentials.isSome ↔
      ∃ d, readings .userUi = .document d ∧ d.HasCredentials := by
  have documents : interfaceDocuments (LoaderStep.loadInitial readings).events =
      match readings .userUi with | .document d => [d] | _ => [] := by
    have other (kind : DocumentKind) :
        ((readings kind).events kind).filterMap (·.document? .userUi) =
          if kind = .userUi then match readings kind with | .document d => [d] | _ => []
          else [] := by
      cases readings kind <;> cases kind <;> rfl
    rw [interfaceDocuments, LoaderStep.events, List.filterMap_flatMap]
    simp only [other]
    simp [DocumentKind.all]
  rw [topology_loadInitial]
  show (Topology.initial.afterEvents _).credentials.isSome ↔ _
  rw [Topology.credentials_afterEvents, documents, Credentials.isSome_ofDocuments]
  cases readings .userUi <;> simp

/-- The first load of a fresh process fails, or credentials are held after it. -/
theorem LiveState.loadInitial_cases (readings : DocumentKind → DocumentReading) :
    (∃ e state, LiveState.initial.loadInitial readings = (.error e, state) ∧
        ¬∃ d, readings .userUi = .document d ∧ d.HasCredentials) ∨
      ∃ state, LiveState.initial.loadInitial readings = (.ok (), state) ∧
        (∃ d, readings .userUi = .document d ∧ d.HasCredentials) ∧
        state.topology.credentials.isSome := by
  have result := (LiveState.initial.loadsInitially readings).result
  rw [← isSome_credentials_loadInitial readings]
  generalize LiveState.initial.loadInitial readings = loaded at result ⊢
  obtain ⟨result', state⟩ := loaded
  by_cases held : state.topology.credentials.isSome
  · rw [if_pos held] at result
    exact .inr ⟨state, congrArg (·, state) result, held, held⟩
  · rw [if_neg held] at result
    exact .inl ⟨_, state, congrArg (·, state) result, held⟩

/-! ## The gate -/

namespace Launch

variable {l : Launch}

theorem load_malformed {problem : EnvFile.Problem} (malformed : l.envFile = .error problem) :
    ApiConfig.load (Running.envFile l.disk) l.env = (.error (.envFile problem), l.hydrated) := by
  have loaded : EnvFile.hydrate (Running.envFile l.disk) l.env = (.error problem, l.hydrated) :=
    Prod.ext malformed rfl
  rw [ApiConfig.load, loaded]

theorem load_hydrated (hydrated : l.Passes .envFile) :
    ApiConfig.load (Running.envFile l.disk) l.env =
      (ApiConfig.ofEnvironment l.hydrated, l.hydrated) := by
  have loaded : EnvFile.hydrate (Running.envFile l.disk) l.env = (.ok (), l.hydrated) :=
    Prod.ext hydrated rfl
  rw [ApiConfig.load, loaded]

/-- The settings of telemetry are read from the same variables, although the `.env` file is loaded
once more for them. -/
theorem telemetry_hydrated (hydrated : l.Passes .envFile) :
    (TelemetryConfig.load Running.programName (Running.envFile l.disk) l.hydrated).1 =
      ⟨l.logFilter, l.metricsAddress?⟩ := by
  have names : TelemetryConfig.variableName Running.programName "LOG_FILTER" = "API_LOG_FILTER" ∧
      TelemetryConfig.variableName Running.programName "METRICS_ADDRESS" =
        "API_METRICS_ADDRESS" := by
    decide +kernel
  have again : EnvFile.hydrate (Running.envFile l.disk) l.hydrated = (.ok (), l.hydrated) :=
    EnvFile.hydrate_again hydrated
  have shown (address : String) :
      (Text.nonBlank? address).isSome = decide (Text.trim address ≠ "") := by
    rw [Bool.eq_iff_iff, Text.isSome_nonBlank?, decide_eq_true_eq]
  rw [TelemetryConfig.load, again, TelemetryConfig.ofEnvironment, names.1, names.2,
    l.text?_hydrated (by decide), l.text?_hydrated (by decide)]
  simp only [shown]
  rfl

/-- Setting up the telemetry of a fresh process fails as one of its two stages does. -/
theorem setUp_cases (l : Launch) :
    (∃ e, (Telemetry.fresh.setUp ⟨l.logFilter, l.metricsAddress?⟩).1 = .error e ∧
        FirstFailure l.Fails [.logFilter, .metricsAddress] (.telemetry e)) ∨
      (Telemetry.fresh.setUp ⟨l.logFilter, l.metricsAddress?⟩).1 = .ok () ∧
        l.Passes .logFilter ∧ l.Passes .metricsAddress := by
  simp only [Telemetry.setUp, Telemetry.installLogs, Telemetry.fresh, Bool.false_eq_true, if_false]
  cases checked : LogFilter.check l.logFilter with
  | error problem => exact .inl ⟨_, rfl, .here (.logFilter checked)⟩
  | ok =>
    simp only [Telemetry.installMetrics, Bool.false_eq_true, if_false]
    have logs : l.Passes .logFilter := checked
    cases invalid : l.metricsAddress?.filter fun a => !SocketAddress.isValid a with
    | some address =>
      obtain ⟨given, invalid⟩ := Option.filter_eq_some_iff.mp invalid
      have fails := Fails.metricsAddress given (by simpa using invalid)
      exact .inl ⟨_, rfl, .later logs.not_fails (.here fails)⟩
    | none =>
      refine .inr ⟨rfl, logs, fun address given => ?_⟩
      simpa [given] using Option.filter_eq_none_iff.mp invalid address given

/-- What is left of a start once it has its configuration. -/
theorem prepare_loaded {bindAddress : String} (hydrated : l.Passes .envFile)
    (address : l.hydrated.nonBlank? "API_BIND_ADDRESS" = some bindAddress) :
    ∃ config, Running.prepare l.disk l.env .fresh =
      match (Telemetry.fresh.setUp ⟨l.logFilter, l.metricsAddress?⟩).1 with
      | .error e => .error (.telemetry e)
      | .ok () =>
        match Watches.register l.disk l.directory with
        | .error e => .error (.watch e)
        | .ok watches =>
          match LiveState.initial.loadInitial (l.directory.read l.disk) with
          | (.error _, _) => .error (.config (.credentialsMissing (l.directory.file .userUi)))
          | (.ok (), state) => .ok (config, watches, state) := by
  obtain ⟨config, read, directory⟩ : ∃ config, ApiConfig.ofEnvironment l.hydrated = .ok config ∧
      ConfigDirectory.mk config.configDirectory = l.directory :=
    ⟨_, by rw [ApiConfig.ofEnvironment, address], l.directory_eq.symm⟩
  rw [Running.prepare]
  simp only [load_hydrated hydrated, read, directory]
  rw [telemetry_hydrated hydrated]
  exact ⟨config, rfl⟩

/-- A start gets to the listeners, with every stage passed and with credentials, or it ends with the
first failure. -/
theorem prepare_cases (l : Launch) :
    (∃ config watches state, Running.prepare l.disk l.env .fresh = .ok (config, watches, state) ∧
        (∀ stage, l.Passes stage) ∧ state.topology.credentials.isSome) ∨
      ∃ e, Running.prepare l.disk l.env .fresh = .error e ∧
        FirstFailure l.Fails StartStage.all e := by
  cases file : l.envFile with
  | error problem =>
    refine .inr ⟨_, ?_, .here (.envFile file)⟩
    simp only [Running.prepare, load_malformed file]
  | ok =>
  have hydrated : l.Passes .envFile := file
  cases address : l.hydrated.nonBlank? "API_BIND_ADDRESS" with
  | none =>
    refine .inr ⟨_, ?_, .later hydrated.not_fails (.here (.bindAddress (l.blank_address address)))⟩
    simp only [Running.prepare, load_hydrated hydrated, ApiConfig.ofEnvironment, address]
  | some bindAddress =>
  have addressed : l.Passes .bindAddress := l.passes_address address
  -- what fails from here on comes after stages that pass
  have configured {stages : List StartStage} {e : StartError}
      (first : FirstFailure l.Fails stages e) :
      FirstFailure l.Fails ([.envFile, .bindAddress] ++ stages) e :=
    .later hydrated.not_fails (.later addressed.not_fails first)
  obtain ⟨config, rest⟩ := prepare_loaded hydrated address
  rw [rest]
  rcases l.setUp_cases with ⟨e, failed, first⟩ | ⟨setUp, logs, metrics⟩
  · exact .inr ⟨.telemetry e, by rw [failed], configured (first.append_left _)⟩
  have measured {stages : List StartStage} {e : StartError}
      (first : FirstFailure l.Fails stages e) :
      FirstFailure l.Fails ([.envFile, .bindAddress, .logFilter, .metricsAddress] ++ stages) e :=
    configured (.later logs.not_fails (.later metrics.not_fails first))
  rw [setUp]
  rcases l.register_all with ⟨e, failed, first⟩ | ⟨⟨watches, registered⟩, watched⟩
  · exact .inr ⟨.watch e, by rw [failed], measured (first.append_left _)⟩
  have all_watched : ∀ stage ∈ DocumentKind.all.map StartStage.watch, ∀ e, ¬l.Fails stage e := by
    intro stage mem
    obtain ⟨kind, -, rfl⟩ := List.mem_map.mp mem
    exact (watched kind).not_fails
  rw [registered]
  rcases LiveState.loadInitial_cases (l.directory.read l.disk) with
    ⟨e, state, loaded, incomplete⟩ | ⟨state, loaded, complete, held⟩
  · refine .inr ⟨.config (.credentialsMissing (l.directory.file .userUi)), by rw [loaded], ?_⟩
    have none := mt l.hasCredentials_iff.mp incomplete
    exact measured (.append_right all_watched (.here (.credentials none)))
  · refine .inl ⟨config, watches, state, by rw [loaded], fun stage => ?_, held⟩
    cases stage with
    | envFile => exact hydrated
    | bindAddress => exact addressed
    | logFilter => exact logs
    | metricsAddress => exact metrics
    | watch kind => exact watched kind
    | credentials => exact l.hasCredentials_iff.mpr complete

theorem not_firstFailure (passes : ∀ stage, l.Passes stage) (e : StartError) :
    ¬FirstFailure l.Fails StartStage.all e := by
  intro first
  obtain ⟨stage, fails⟩ := first.exists_fails
  exact (passes stage).not_fails e fails

/-- A start ends with the first failure before its listeners, and with nothing else. -/
theorem prepare_error_iff (l : Launch) {e : StartError} :
    Running.prepare l.disk l.env .fresh = .error e ↔ FirstFailure l.Fails StartStage.all e := by
  rcases l.prepare_cases with ⟨config, watches, state, ready, passes, -⟩ | ⟨e', failed, first⟩
  · rw [ready]
    exact iff_of_false nofun (not_firstFailure passes e)
  · rw [failed]
    refine ⟨?_, fun first' => congrArg Except.error (first.unique Fails.functional first')⟩
    rintro ⟨⟩
    exact first

/-- The first failure is a panic if and only if the `.env` file has a value that cannot be set. -/
theorem panics_iff (l : Launch) {e : StartError} (first : FirstFailure l.Fails StartStage.all e) :
    e.panic?.isSome ↔
      ∃ key value, l.envFile = .error (.unsettable key value) ∧ '\x00' ∈ value.toList := by
  constructor
  · intro panics
    obtain ⟨stage, fails⟩ := first.exists_fails
    cases fails with
    | envFile malformed =>
      rename_i problem
      cases problem with
      | unsettable key value =>
        exact ⟨key, value, malformed, EnvFile.zero_mem_of_hydrate malformed⟩
      | _ => cases panics
    | _ => cases panics
  · rintro ⟨key, value, unsettable, -⟩
    rw [first.unique Fails.functional (.here (.envFile unsettable))]
    rfl

theorem isSome_credentials_prepare (l : Launch) {config : ApiConfig} {watches : Watches}
    {state : LiveState}
    (ready : Running.prepare l.disk l.env .fresh = .ok (config, watches, state)) :
    state.topology.credentials.isSome := by
  rcases l.prepare_cases with ⟨_, _, _, ready', -, held⟩ | ⟨e, failed, -⟩
  · rw [ready] at ready'
    cases ready'
    exact held
  · rw [ready] at failed
    cases failed

end Launch

/-! ## Credentials of a running process -/

theorem Topology.isSome_credentials_afterEvents {t : Topology} (held : t.credentials.isSome)
    (events : List DocumentEvent) : (t.afterEvents events).credentials.isSome := by
  induction events generalizing t with
  | nil => exact held
  | cons e rest ih =>
    refine ih (t := t.afterEvent e) ?_
    rw [credentials_afterEvent]
    cases e.document? .userUi with
    | none => exact held
    | some d => exact (Credentials.isSome_merge d t.credentials).mpr (.inl held)

theorem Watches.isSome_credentials_afterChange (disk : Disk) (dir : ConfigDirectory) (path : String)
    (w : Watches) {s : LiveState} (held : s.topology.credentials.isSome) :
    (w.afterChange disk dir path s).2.topology.credentials.isSome := by
  refine List.foldlRecOn (motive := fun s : LiveState => s.topology.credentials.isSome) _ _ held ?_
  -- each event in turn: those of other documents leave credentials alone, and none clears them
  rintro s held ⟨kind, event?, task⟩ -
  cases event? with
  | none => exact held
  | some event =>
    show (s.handleEvent kind event (dir.read disk kind)).topology.credentials.isSome
    rw [LiveState.topology_handleEvent]
    exact Topology.isSome_credentials_afterEvents held _

theorem Running.isSome_credentials_afterChange {r r' : Running} {disk : Disk} {path : String}
    (changed : r.afterChange disk path = .ok r') (held : r.state.topology.credentials.isSome) :
    r'.state.topology.credentials.isSome := by
  have kept := r.watches.isSome_credentials_afterChange disk r.directory path held
  simp only [afterChange] at changed
  split at changed
  · cases changed
  · cases changed
    exact kept

/-- What the watches make of the sockets takes no credentials away. -/
theorem Running.isSome_credentials_foldlM {paths : List String} {r r' : Running}
    (done : paths.foldlM (fun r path => r.afterChange r.disk path) r = .ok r')
    (held : r.state.topology.credentials.isSome) : r'.state.topology.credentials.isSome := by
  induction paths generalizing r with
  | nil =>
    cases done
    exact held
  | cons path rest ih =>
    rw [List.foldlM_cons] at done
    cases changed : r.afterChange r.disk path with
    | error e =>
      rw [changed] at done
      cases done
    | ok next =>
      rw [changed] at done
      exact ih done (isSome_credentials_afterChange changed held)

/-! ## The statement -/

/-- When a start gets to the listeners, and what it comes to otherwise. -/
structure StartGate (l : Launch) : Prop where
  /-- The `.env` file that the first stage is about is the nearest one. -/
  searches : l.FindsEnvFile (Running.envFile l.disk)
  opens : (∃ ready, Running.prepare l.disk l.env .fresh = .ok ready) ↔ ∀ stage, l.Passes stage
  closes : ∀ e, Running.prepare l.disk l.env .fresh = .error e ↔
    FirstFailure l.Fails StartStage.all e
  /-- The first failure is what the process ends with. -/
  ends : ∀ e, FirstFailure l.Fails StartStage.all e →
    Running.start l.disk l.env .fresh = .error e
  /-- That is a panic and not an error that is returned, if a variable is to be set to a value of
  the `.env` file with a zero character, and only then. -/
  panics : ∀ e, FirstFailure l.Fails StartStage.all e → (e.panic?.isSome ↔
    ∃ key value, l.envFile = .error (.unsettable key value) ∧ '\x00' ∈ value.toList)
  /-- The file has set no variable to such a value. -/
  settable : ∀ name value, l.hydrated.find? name = some (.text value) →
    l.env.find? name = some (.text value) ∨ '\x00' ∉ value.toList
  /-- Credentials are held before a listener is bound. -/
  holds : ∀ config watches state,
    Running.prepare l.disk l.env .fresh = .ok (config, watches, state) →
      state.topology.credentials.isSome
  /-- They are still held when all listeners are bound. -/
  keeps : ∀ running, Running.start l.disk l.env .fresh = .ok running →
    running.state.topology.credentials.isSome

/-- **The gate of a start**, on every disk and with every environment: listeners are bound if and
only if every stage passes, and otherwise the process ends with the first failure. -/
theorem start_gate (l : Launch) : StartGate l := by
  refine ⟨l.findsEnvFile, ?opens, fun e => l.prepare_error_iff, ?ends, fun e => l.panics_iff,
    ?settable, fun _ _ _ => l.isSome_credentials_prepare, ?keeps⟩
  case opens =>
    rcases l.prepare_cases with ⟨config, watches, state, ready, passes, -⟩ | ⟨e, failed, first⟩
    · exact iff_of_true ⟨_, ready⟩ passes
    · refine iff_of_false ?_ fun passes => Launch.not_firstFailure passes e first
      rintro ⟨ready, prepared⟩
      rw [prepared] at failed
      cases failed
  case ends =>
    intro e first
    rw [Running.start, l.prepare_error_iff.mpr first]
  case settable =>
    intro name value held
    rw [← Environment.held?_eq_some] at held ⊢
    exact EnvFile.held?_hydrate_cases held
  case keeps =>
    intro running started
    rw [Running.start] at started
    cases prepared : Running.prepare l.disk l.env .fresh with
    | error e =>
      rw [prepared] at started
      cases started
    | ok ready =>
      obtain ⟨config, watches, state⟩ := ready
      simp only [prepared] at started
      split at started
      · cases started
      · exact Running.isSome_credentials_foldlM started (l.isSome_credentials_prepare prepared)

/-- An address to bind and the interface document are enough. The address is found in the `.env`
file of the directory around. -/
example :
    let document := "[authentication]\nusername=admin\nhashed_password=00\ncookie_secret=s\n"
    let disk := (((Disk.new "/srv/api").put ["srv", "api", "config"] .directory).put
      ["srv", "api", "config", "user_config_ui.ini"] (.file document.toUTF8)).put
      ["srv", ".env"] (.file "API_BIND_ADDRESS=127.0.0.1:8080\n".toUTF8)
    (Running.prepare disk NameMap.empty .fresh).toOption.isSome = true := by
  decide +kernel

end ChainDashboard
