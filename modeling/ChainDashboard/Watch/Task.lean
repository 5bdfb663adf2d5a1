import ChainDashboard.Topology.Reload
import ChainDashboard.Watch.Observation

/-!
Watches and what becomes of their events. A watch is put on the directory of its file and lasts as
long as that directory. Whatever happens there is notified with the paths concerned; a notification
that names the file leaves a signal, of which at most one is kept, and the task takes the signal and
observes the file. Events of a document's file reload the document or clear what it contributed.
-/
namespace ChainDashboard

/-- The task that watches one file. -/
structure WatchTask where
  changes : ChangeWatcher
  /-- The name by which notifications mean the file. -/
  fileName : String
  /-- The path of the watched directory. -/
  directory : String
  /-- The place of the watched directory. -/
  place : List String
  /-- Whether the watched directory is still the one that the watch was put on. -/
  attached : Bool
  /-- Whether a signal waits. -/
  signal : Bool
  /-- Why the task ended, if it did. -/
  ended : Option WatchError
  deriving DecidableEq, Repr

namespace WatchTask

/-- Puts a watch, with a watcher of its own, on the directory of a file, and gives its place. -/
def watchDirectory (disk : Disk) (path : String) : Except WatchError (List String) :=
  if disk.limits.watchers = some 0 then .error (.noWatcher path .tooManyOpenFiles)
  else
    let directory := Path.directory path
    match disk.directory directory with
    | .error e => .error (.directory path e (disk.absolute directory))
    | .ok place =>
      if disk.limits.watches = some 0 then .error (.limitReached path (disk.absolute directory))
      else .ok place

/-- Registers a watch. The file may be missing; its directory may not. -/
def register (disk : Disk) (path : String) : Except WatchError WatchTask := do
  let changes ← ChangeWatcher.start path (disk.state path)
  match Path.fileName? path with
  | none => throw (.noFileName path)
  | some fileName =>
    let place ← watchDirectory disk path
    return {
      changes, fileName, directory := Path.directory path, place, attached := true,
      signal := false, ended := none }

/-- Whether one of the paths has the given name at its end. -/
def names (paths : List String) (fileName : String) : Bool :=
  paths.any fun path => Path.fileName? path = some fileName

/-- Takes a notification. The signal it leaves is the same whether or not one waits already. -/
def notify (paths : List String) (t : WatchTask) : WatchTask :=
  if names paths t.fileName then { t with signal := true } else t

/-- Takes the signal. -/
def receive (t : WatchTask) : WatchTask := { t with signal := false }

/-- Observes the file. One that cannot be read ends the task. -/
def look (state : FileState) (t : WatchTask) : Option FileEvent × WatchTask :=
  match t.changes.observe state with
  | (.ok event?, changes) => (event?, { t with changes })
  | (.error e, changes) => (none, { t with changes, ended := some e })

/-- Takes a signal, if one waits, and observes the file. -/
def wake (state : FileState) (t : WatchTask) : Option FileEvent × WatchTask :=
  if t.signal && t.ended.isNone then t.receive.look state else (none, t)

/-- Whether a path lies directly in the watched directory. -/
def covers (disk : Disk) (path : String) (t : WatchTask) : Bool :=
  match disk.locate (Path.directory path) with
  | .ok touched => touched = t.place
  | .error _ => false

/-- What the task makes of a change at a path, once the change is done. If the change took away the
watched directory, that is the last thing notified. -/
def afterChange (disk : Disk) (path : String) (t : WatchTask) : Option FileEvent × WatchTask :=
  if !t.attached then (none, t)
  else if disk.entry? t.place ≠ some .directory then
    ({ t with attached := false }.notify [t.directory]).wake (disk.state t.changes.path)
  else if t.covers disk path then (t.notify [path]).wake (disk.state t.changes.path)
  else (none, t)

end WatchTask

/-- Handles an event of a document's file. -/
def LiveState.handleEvent (kind : DocumentKind) (event : FileEvent) (reading : DocumentReading)
    (s : LiveState) : LiveState :=
  let s := s.counting (.fileEvent kind event)
  match event with
  | .changed => s.handleChange kind reading
  | .deleted => s.reset kind

/-- The directory that holds the documents. -/
structure ConfigDirectory where
  path : String
  deriving DecidableEq, Repr

/-- The path of a document. -/
def ConfigDirectory.file (dir : ConfigDirectory) (kind : DocumentKind) : String :=
  Path.within dir.path kind.fileName

/-- Reads a document from disk. -/
def ConfigDirectory.read (dir : ConfigDirectory) (disk : Disk) (kind : DocumentKind) :
    DocumentReading :=
  .ofFile (disk.state (dir.file kind))

/-- The watches of all documents. -/
structure Watches where
  tasks : List (DocumentKind × WatchTask)
  deriving DecidableEq, Repr

namespace Watches

/-- Registers the watch of a document, after those of the kinds before it. -/
def registerOne (disk : Disk) (dir : ConfigDirectory) (kind : DocumentKind) :
    Except WatchError (DocumentKind × WatchTask) :=
  (WatchTask.register (disk.afterWatchers kind.index) (dir.file kind)).map (kind, ·)

/-- Registers a watch for each document; the first that fails fails all. -/
def register (disk : Disk) (dir : ConfigDirectory) : Except WatchError Watches :=
  (DocumentKind.all.mapM (registerOne disk dir)).map mk

/-- The error that the supervision of the watches ends with, once there is one. -/
def ended? (w : Watches) : Option WatchError := w.tasks.findSome? (·.2.ended)

/-- What the watches and the live state make of a change at a path. -/
def afterChange (disk : Disk) (dir : ConfigDirectory) (path : String) (w : Watches)
    (s : LiveState) : Watches × LiveState :=
  let woken := w.tasks.map fun (kind, task) => (kind, task.afterChange disk path)
  let state := woken.foldl (fun s (kind, event?, _) =>
    event?.elim s fun event => s.handleEvent kind event (dir.read disk kind)) s
  (⟨woken.map fun (kind, _, task) => (kind, task)⟩, state)

end Watches

end ChainDashboard
