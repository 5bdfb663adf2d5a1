import ChainDashboard.Redis.Conversation
import ChainDashboard.Startup

/-!
The program. It takes environment and files from the system and starts; the errors of a start go to
standard error and end it. Requests come in on standard input, one a line with its method and its
target, and go to the first listener. Before each of them the documents are looked at again. How
many watchers the system would grant is not asked.
-/
namespace ChainDashboard.Program

/-- What a look shows of an entry that is there, with what it holds for those who can read it. -/
def entrySight (unread : Entry) (read : IO Entry) : IO Disk.Sight := do
  try
    return .entry (← read) true
  catch _ => return .entry unread false

/-- What is at a path. -/
def look (path : String) : IO Disk.Sight := do
  let place := (← IO.currentDir) / path
  try
    match (← place.metadata).type with
    | .dir => entrySight .directory ((fun _ => .directory) <$> place.readDir)
    | .other => return .entry .socket true
    | _ => entrySight (.file .empty) (.file <$> IO.FS.readBinFile place)
  catch
    | .permissionDenied .. => return .refused
    | _ => return .nothing

/-- What is at some paths and on the way to them. -/
def survey (disk : Disk) (paths : List String) : IO Disk :=
  (paths.flatMap Path.onTheWay).foldlM (fun d path => return d.seen path (← look path)) disk

/-- The process after another look at its documents. -/
def refresh (r : Running) : IO (Except StartError Running) :=
  DocumentKind.all.foldlM (fun state kind =>
    match state with
    | .error e => return .error e
    | .ok r => do
      let path := r.directory.file kind
      return r.afterLook path (← look path)) (.ok r)

/-- The store: no connection leads out of the process. -/
def store : MetricStore := Redis.metricStore (fun _ => .failed .networkUnreachable) .standard

/-- Reports the error that the process ends with. -/
def fail (e : StartError) : IO UInt32 := do
  e.report.forM fun line => IO.eprintln line
  return e.exitCode

/-- Answers requests until there are no more of them. -/
partial def answerAll (r : Running) : IO UInt32 := do
  let line ← (← IO.getStdin).getLine
  if line.isEmpty then return 0
  match ← refresh r with
  | .error e => fail e
  | .ok r =>
    let (lines, r) := r.serveLine store line
    lines.forM fun l => IO.println l
    (← IO.getStdout).flush
    answerAll r

end ChainDashboard.Program

/-- Starts and answers requests. -/
def main : IO UInt32 := do
  let env := ChainDashboard.Environment.ofBlock (← IO.FS.readBinFile "/proc/self/environ")
  let empty := ChainDashboard.Disk.new (← IO.currentDir).toString
  let disk ← ChainDashboard.Program.survey empty (ChainDashboard.Running.envPaths empty)
  let disk ← ChainDashboard.Program.survey disk (ChainDashboard.Running.documents disk env)
  match ChainDashboard.Running.start disk env .fresh with
  | .error e => ChainDashboard.Program.fail e
  | .ok r => ChainDashboard.Program.answerAll r
