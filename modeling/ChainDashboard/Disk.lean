import ChainDashboard.FileState
import ChainDashboard.NameMap

/-!
Paths and the files they lead to. A disk is what is known of a tree of files, seen from a working
directory by a process that may lack permissions. A path is walked part by part, and every part but
the last has to be a directory that may be searched; the names that are walked through in the end
are the place that the path leads to. What is made or removed is named by the last part of its path,
which is then not walked.

There are no links on a disk, and what is denied is listed place by place: owners and modes, from
which that would follow, are left out.
-/
namespace ChainDashboard

namespace Path

/-- The parts of a path between its slashes, empty ones included. -/
def parts (path : String) : List String := (path.toList.splitOn '/').map String.ofList

/-- Whether a part leads nowhere: an empty one or a dot. -/
def isIdle (part : String) : Bool := part = "" || part = "."

/-- The parts without idle ones at the end. The first part always stays. -/
def trimmedParts : List String → List String
  | [] => []
  | first :: rest => first :: (rest.reverse.dropWhile isIdle).reverse

/-- The name of the file that a path leads to; none if it leads to a directory by its form. -/
def fileName? (path : String) : Option String :=
  (trimmedParts (parts path)).getLast?.filter fun name => !isIdle name && name ≠ ".."

/-- The path of the directory that holds the file. -/
def directory (path : String) : String :=
  match trimmedParts (trimmedParts (parts path)).dropLast with
  | [] => "."
  | [""] => "/"
  | ps => String.intercalate "/" ps

/-- The path of a name within a directory. -/
def within (directory name : String) : String :=
  if directory = "" || directory.endsWith "/" then directory ++ name
  else directory ++ "/" ++ name

/-- Whether a path starts at the root and not at the working directory. -/
def isAbsolute (path : String) : Bool := path.startsWith "/"

/-- Whether a part is too long to be the name of anything. -/
def isTooLong (part : String) : Bool := part.utf8ByteSize > 255

/-- Why no path of this form leads anywhere, if so. -/
def formProblem? (path : String) : Option OsError :=
  if path.toList.contains '\x00' then some .zeroInName
  else if path.utf8ByteSize ≥ 4096 then some .nameTooLong
  else if path = "" then some .notFound
  else none

/-- How a path ends. -/
inductive Ending where
  /-- A name, and whether a slash follows it. -/
  | name (name : String) (slash : Bool)
  /-- A dot, which means the directory before it. -/
  | here
  /-- Two dots, which mean the directory around it. -/
  | above
  /-- There is nothing but slashes. -/
  | root
  deriving DecidableEq, Repr

/-- The parts of a path before its last one, and that last one. -/
def ending (path : String) : List String × Ending :=
  let ps := (parts path).reverse
  match ps.dropWhile (· = "") with
  | [] => ([], .root)
  | last :: before =>
    (before.reverse,
      if last = "." then .here
      else if last = ".." then .above
      else .name last (ps.head? = some ""))

/-- The paths to everything on the way of a path, the path itself last. -/
def onTheWay (path : String) : List String :=
  (List.range (parts path).length).map fun i => String.intercalate "/" ((parts path).take (i + 1))

end Path

/-- What a disk holds at one place. -/
inductive Entry where
  | file (content : ByteArray)
  | directory
  /-- Something that has no content to read, such as a socket. -/
  | socket
  deriving DecidableEq

/-- What a process needs a permission for. -/
inductive Permission where
  /-- To go on from a directory to what lies in it. -/
  | search
  | read
  /-- To add to a directory, to take away from it and to replace what lies in it. -/
  | write
  deriving DecidableEq, Repr

/-- How many more watchers, and watches of them, the system grants to a process; without a number
there is no limit in sight. -/
structure WatchLimits where
  watchers : Option Nat
  watches : Option Nat
  deriving DecidableEq, Repr

/-- What is left once some watchers were made, each with one watch. -/
def WatchLimits.after (made : Nat) (l : WatchLimits) : WatchLimits :=
  ⟨l.watchers.map (· - made), l.watches.map (· - made)⟩

/-- A tree of files. An entry is stored under the names of its place, joined with slashes. -/
structure Disk where
  /-- The absolute path of the working directory. -/
  root : String
  entries : NameMap Entry
  /-- What the process may not do at which places. -/
  denied : List (List String × Permission)
  limits : WatchLimits

namespace Disk

/-- An empty working directory, without anything that is denied. -/
def new (root : String) : Disk := ⟨root, NameMap.empty, [], ⟨none, none⟩⟩

/-- The place of the working directory. -/
def home (d : Disk) : List String := (Path.parts d.root).filter fun part => !Path.isIdle part

/-- The name under which the entry of a place is stored. -/
def key (place : List String) : String := String.intercalate "/" place

/-- The entry at a place. The working directory and what it lies in are directories. -/
def entry? (d : Disk) (place : List String) : Option Entry :=
  if place.isPrefixOf d.home then some .directory
  else d.entries.find? (key place)

/-- Whether the process may do something at a place. -/
def permits (d : Disk) (place : List String) (p : Permission) : Bool :=
  !d.denied.contains (place, p)

/-- Walks on from a place. Only a directory can be walked through. Parts that lead nowhere ask for
no permission. -/
def walk (d : Disk) (place : List String) : List String → Except OsError (List String)
  | [] => .ok place
  | part :: rest =>
    match d.entry? place with
    | none => .error .notFound
    | some .directory =>
      if Path.isIdle part then walk d place rest
      else if !d.permits place .search then .error .permissionDenied
      else if part = ".." then walk d place.dropLast rest
      else if Path.isTooLong part then .error .nameTooLong
      else walk d (place ++ [part]) rest
    | some _ => .error .notDirectory

/-- Walks through the parts of a path of the given form. -/
def walkFrom (d : Disk) (path : String) (parts : List String) : Except OsError (List String) :=
  match Path.formProblem? path with
  | some e => .error e
  | none => d.walk (if Path.isAbsolute path then [] else d.home) parts

/-- The place that a path leads to. -/
def locate (d : Disk) (path : String) : Except OsError (List String) :=
  d.walkFrom path (Path.parts path)

/-- The entry that a path leads to, with its place. -/
def stat (d : Disk) (path : String) : Except OsError (List String × Entry) := do
  let place ← d.locate path
  match d.entry? place with
  | some e => return (place, e)
  | none => throw .notFound

/-- What is found at a path. -/
def state (d : Disk) (path : String) : FileState :=
  match d.stat path with
  | .error .notFound => .absent
  | .error e => .unreadable e
  | .ok (place, e) =>
    if !d.permits place .read then .unreadable .permissionDenied
    else
      match e with
      | .file content => .file content
      | .directory => .unreadable .isDirectory
      | .socket => .unreadable .noDevice

/-- Whether a look at a path finds that there is no file. -/
def lacksFile (d : Disk) (path : String) : Bool :=
  match d.stat path with
  | .ok (_, .file _) => false
  | .ok _ | .error .notFound => true
  | .error _ => false

/-- The absolute form of a path. -/
def absolute (d : Disk) (path : String) : String :=
  if Path.isAbsolute path then path else Path.within d.root path

/-- The absolute path that leads to a place. -/
def pathTo (place : List String) : String := "/" ++ key place

/-- Walks on from a place to a directory that can be read. -/
def arrive (d : Disk) (place parts : List String) : Except OsError (List String) := do
  let place ← d.walk place parts
  match d.entry? place with
  | some .directory => if d.permits place .read then return place else throw .permissionDenied
  | some _ => throw .notDirectory
  | none => throw .notFound

/-- Walks from the root to the directory that a path leads to. -/
def arriveAt (d : Disk) (path : String) : Except OsError (List String) :=
  d.arrive [] ((if Path.isAbsolute path then [] else d.home) ++ Path.parts path)

/-- The place of a directory that is to be watched. It is asked for by its absolute path. -/
def directory (d : Disk) (path : String) : Except OsError (List String) :=
  match Path.formProblem? (d.absolute path) with
  | some e => .error e
  | none => d.arriveAt path

/-- The disk once some watchers were made on it, each with one watch. -/
def afterWatchers (d : Disk) (made : Nat) : Disk := { d with limits := d.limits.after made }

/-- The disk with an entry put at a place. -/
def put (d : Disk) (place : List String) (e : Entry) : Disk :=
  { d with entries := d.entries.insert (key place) e }

/-- The disk without the entry of a place. -/
def erase (d : Disk) (place : List String) : Disk :=
  { d with entries := d.entries.erase (key place) }

/-- What a look at a path shows. -/
inductive Sight where
  | nothing
  /-- An entry, and whether it can be read. -/
  | entry (e : Entry) (readable : Bool)
  /-- The way there is closed. -/
  | refused

/-- The disk with something denied to the process. -/
def deny (d : Disk) (place : List String) (p : Permission) : Disk :=
  { d with denied := (place, p) :: d.denied }

/-- The disk after a look at a path. -/
def seen (d : Disk) (path : String) (sight : Sight) : Disk :=
  match d.locate path with
  | .error _ => d
  | .ok place =>
    match sight with
    | .nothing => d.erase place
    | .entry e readable => if readable then d.put place e else (d.put place e).deny place .read
    | .refused => d.deny place.dropLast .search

/-- Where something can be made or removed, and how it is meant. -/
inductive Target where
  /-- The place of a name in a directory, and whether a slash follows the name. -/
  | named (place : List String) (slash : Bool)
  /-- A directory that is not meant by its name. -/
  | unnamed (ending : Path.Ending)

/-- What the end of a path means. The directory that it is in has to be there. -/
def target (d : Disk) (path : String) : Except OsError Target := do
  let (before, ending) := Path.ending path
  let around ← d.walkFrom path before
  match d.entry? around with
  | none => throw .notFound
  | some .directory =>
    match ending with
    | .name name slash =>
      if !d.permits around .search then throw .permissionDenied
      else if Path.isTooLong name then throw .nameTooLong
      else return .named (around ++ [name]) slash
    | ending => return .unnamed ending
  | some _ => throw .notDirectory

/-- Whether the process may put something at a place or take it away. -/
def mayChange (d : Disk) (place : List String) : Bool := d.permits place.dropLast .write

/-- Writes a file, in place of one that is there. -/
def write (d : Disk) (path : String) (content : ByteArray) : Except OsError Disk := do
  match ← d.target path with
  | .unnamed _ => throw .busy
  | .named place slash =>
    if slash then throw .notDirectory
    else if d.entry? place = some .directory then throw .isDirectory
    else if d.mayChange place then return d.put place (.file content)
    else throw .permissionDenied

/-- Makes a directory where nothing is. -/
def makeDirectory (d : Disk) (path : String) : Except OsError Disk := do
  match ← d.target path with
  | .unnamed _ => throw .exists
  | .named place _ =>
    if (d.entry? place).isSome then throw .exists
    else if d.mayChange place then return d.put place .directory
    else throw .permissionDenied

/-- Makes a socket where nothing is. -/
def makeSocket (d : Disk) (path : String) : Except OsError (List String × Disk) := do
  match ← d.target path with
  | .unnamed _ => throw .addressInUse
  | .named place slash =>
    if (d.entry? place).isSome then throw .addressInUse
    else if slash then throw .notFound
    else if d.mayChange place then return (place, d.put place .socket)
    else throw .permissionDenied

/-- Removes what is no directory. -/
def removeFile (d : Disk) (path : String) : Except OsError Disk := do
  match ← d.target path with
  | .unnamed _ => throw .isDirectory
  | .named place slash =>
    match d.entry? place, slash with
    | none, _ => throw .notFound
    | some .directory, true => throw .isDirectory
    | some _, true => throw .notDirectory
    | some e, false =>
      if !d.mayChange place then throw .permissionDenied
      else if e = .directory then throw .isDirectory
      else return d.erase place

/-- Whether something lies in the directory at a place. -/
def isInhabited (d : Disk) (place : List String) : Bool :=
  d.entries.keys.any fun other => (key place ++ "/").toList.isPrefixOf other.toList

/-- Removes an empty directory. -/
def removeDirectory (d : Disk) (path : String) : Except OsError Disk := do
  match ← d.target path with
  | .unnamed .here => throw .invalidArgument
  | .unnamed .above => throw .notEmpty
  | .unnamed _ => throw .busy
  | .named place _ =>
    match d.entry? place with
    | none => throw .notFound
    | some e =>
      if !d.mayChange place then throw .permissionDenied
      else if e ≠ .directory then throw .notDirectory
      else if d.isInhabited place then throw .notEmpty
      else return d.erase place

/-- Removes a file or an empty directory. -/
def remove (d : Disk) (path : String) : Except OsError Disk :=
  match d.removeFile path with
  | .ok d => .ok d
  | .error _ => d.removeDirectory path

/-- Writes the content of a file again. -/
def touch (d : Disk) (path : String) : Except OsError Disk :=
  match d.state path with
  | .absent => .error .notFound
  | .unreadable e => .error e
  | .file content => d.write path content

end Disk

end ChainDashboard
