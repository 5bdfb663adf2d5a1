import ChainDashboard.Document.Ini
import ChainDashboard.FileState

/-!
Reading a document from the state of its path. A missing document is told apart from every other
failure, because it leaves what was loaded before in force without being an error.
-/
namespace ChainDashboard

/-- Why a document that exists could not be read. -/
inductive DocumentFailure where
  | unreadable (problem : TextProblem)
  | malformed (error : Ini.SyntaxError)
  deriving DecidableEq, Repr

/-- The report of a failure for the document at `path`. -/
def DocumentFailure.message (path : String) : DocumentFailure → String
  | .unreadable problem => "failed to read config `" ++ path ++ "`: " ++ problem.message
  | .malformed e => "failed to parse config `" ++ path ++ "`: " ++ e.message

/-- The outcome of reading a document. -/
inductive DocumentReading where
  | document (d : Document)
  | notFound
  | failed (cause : DocumentFailure)
  deriving DecidableEq

/-- Reads the document that a path holds. -/
def DocumentReading.ofFile (state : FileState) : DocumentReading :=
  match state.readText with
  | .ok none => .notFound
  | .error problem => .failed (.unreadable problem)
  | .ok (some text) =>
    match Document.parse text with
    | .ok d => .document d
    | .error e => .failed (.malformed e)

end ChainDashboard
