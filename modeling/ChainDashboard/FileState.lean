import ChainDashboard.Text.Utf8

/-!
What is found at a path at one instant. Everything the dashboard does with a file starts from this:
a missing file is an answer of its own, and a path that cannot be read says why.
-/
namespace ChainDashboard

/-- Refusals of the operating system, and of what stands in front of it. -/
inductive OsError where
  | notFound | noDevice | permissionDenied | busy | exists | notDirectory | isDirectory
  | invalidArgument | tooManyOpenFiles | nameTooLong | notEmpty | addressInUse
  | networkUnreachable | connectionRefused
  /-- A name holds a zero byte, so the system is not asked at all. -/
  | zeroInName
  deriving DecidableEq, Repr

namespace OsError

/-- The number the system gives the refusal; none if the refusal is not the system's. -/
def number? : OsError → Option Nat
  | .notFound => some 2
  | .noDevice => some 6
  | .permissionDenied => some 13
  | .busy => some 16
  | .exists => some 17
  | .notDirectory => some 20
  | .isDirectory => some 21
  | .invalidArgument => some 22
  | .tooManyOpenFiles => some 24
  | .nameTooLong => some 36
  | .notEmpty => some 39
  | .addressInUse => some 98
  | .networkUnreachable => some 101
  | .connectionRefused => some 111
  | .zeroInName => none

/-- What the refusal is called. -/
def description : OsError → String
  | .notFound => "No such file or directory"
  | .noDevice => "No such device or address"
  | .permissionDenied => "Permission denied"
  | .busy => "Device or resource busy"
  | .exists => "File exists"
  | .notDirectory => "Not a directory"
  | .isDirectory => "Is a directory"
  | .invalidArgument => "Invalid argument"
  | .tooManyOpenFiles => "Too many open files"
  | .nameTooLong => "File name too long"
  | .notEmpty => "Directory not empty"
  | .addressInUse => "Address already in use"
  | .networkUnreachable => "Network is unreachable"
  | .connectionRefused => "Connection refused"
  | .zeroInName => "file name contained an unexpected NUL byte"

/-- The refusal as reports show it. -/
def message (e : OsError) : String :=
  match e.number? with
  | some n => e.description ++ " (os error " ++ toString n ++ ")"
  | none => e.description

end OsError

/-- The state of a path. -/
inductive FileState where
  /-- Nothing is there. -/
  | absent
  /-- A file with its content. -/
  | file (content : ByteArray)
  /-- Something is there that cannot be read as a file. -/
  | unreadable (error : OsError)
  deriving DecidableEq

/-- A content that may be missing is the state of a path. -/
instance : Coe (Option ByteArray) FileState := ⟨fun content? => content?.elim .absent .file⟩

/-- Why a file cannot be read as text. -/
inductive TextProblem where
  | os (error : OsError)
  | notUtf8
  deriving DecidableEq, Repr

/-- The problem as reports show it. -/
def TextProblem.message : TextProblem → String
  | .os e => e.message
  | .notUtf8 => "stream did not contain valid UTF-8"

/-- The state of a path that holds a text file. -/
def FileState.ofText (text : String) : FileState := .file text.toUTF8

/-- The text of the file at a path; `none` if nothing is there. -/
def FileState.readText : FileState → Except TextProblem (Option String)
  | .absent => .ok none
  | .file content =>
    match String.fromUTF8? content with
    | some text => .ok (some text)
    | none => .error .notUtf8
  | .unreadable e => .error (.os e)

end ChainDashboard
