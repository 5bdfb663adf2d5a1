import ChainDashboard.Digest
import ChainDashboard.Disk
import ChainDashboard.Metrics
import ChainDashboard.Text.Quoted

/-!
Observing one file. The watcher remembers the digest of the content it saw last, so that a
notification without a new content is no event. A missing file is an event every time, and a file
that comes back has changed whatever it holds.
-/
namespace ChainDashboard

/-- Why a file is not or no longer watched. -/
inductive WatchError where
  /-- The path does not name a file. -/
  | noFileName (path : String)
  /-- The system grants no more watchers. -/
  | noWatcher (path : String) (error : OsError)
  /-- The directory of the file, given by its absolute path, cannot be watched. -/
  | directory (path : String) (error : OsError) (absolute : String)
  /-- The system grants no more watches, that of the directory among them. -/
  | limitReached (path : String) (absolute : String)
  /-- The file cannot be read. -/
  | digest (path : String) (error : OsError)
  deriving DecidableEq, Repr

/-- The report of the failure. -/
def WatchError.message : WatchError → String
  | .noFileName path => "failed to watch `" ++ path ++ "`: path has no file name"
  | .noWatcher path error => "failed to watch `" ++ path ++ "`: " ++ error.message
  | .directory path error absolute =>
    "failed to watch `" ++ path ++ "`: " ++ error.message ++ " about " ++
      Text.bracketed [Text.quoted absolute]
  | .limitReached path absolute =>
    "failed to watch `" ++ path ++ "`: OS file watch limit reached. about " ++
      Text.bracketed [Text.quoted absolute]
  | .digest path error => "failed to digest `" ++ path ++ "`: " ++ error.message

/-- A watched file and the digest of what was seen of it last, `none` if it was not there. -/
structure ChangeWatcher where
  path : String
  lastDigest : Option String
  deriving DecidableEq, Repr

namespace ChangeWatcher

/-- Starts from what is at the path now, so that an untouched file is not reported. -/
def start (path : String) : FileState → Except WatchError ChangeWatcher
  | .absent => .ok ⟨path, none⟩
  | .file content => .ok ⟨path, some (Digest.ofContent content)⟩
  | .unreadable e => .error (.digest path e)

/-- Compares what is at the path with what was seen last. -/
def observe (w : ChangeWatcher) : FileState → Except WatchError (Option FileEvent) × ChangeWatcher
  | .absent => (.ok (some .deleted), { w with lastDigest := none })
  | .file content =>
    let digest := Digest.ofContent content
    if w.lastDigest = some digest then (.ok none, w)
    else (.ok (some .changed), { w with lastDigest := some digest })
  | .unreadable e => (.error (.digest w.path e), w)

end ChangeWatcher

end ChainDashboard
