import ChainDashboard.NameMap
import ChainDashboard.Text.Trim

/-!
Configuration documents. A document is a set of named sections and a section is a record of text
fields; what the fields mean is decided by the parts of the dashboard that read them.
-/
namespace ChainDashboard

/-- The fields of one section, exactly as written. -/
abbrev Record := NameMap String

/-- A field's trimmed value; a blank field counts as absent. -/
def Record.field? (r : Record) (name : String) : Option String :=
  (r.find? name).bind Text.nonBlank?

/-- Named sections, each with its record. -/
structure Document where
  sections : NameMap Record
  deriving DecidableEq

namespace Document

/-- The document without sections. -/
def empty : Document := ⟨NameMap.empty⟩

instance : Inhabited Document := ⟨empty⟩

/-- Adds a section, in place of any section of that name; of repeated fields the last stands. -/
def withSection (d : Document) (name : String) (fields : List (String × String)) : Document :=
  ⟨d.sections.insert name (NameMap.ofList fields)⟩

/-- The record of a section. -/
def record? (d : Document) (name : String) : Option Record := d.sections.find? name

/-- A field of a section, trimmed; a blank field counts as absent. -/
def field? (d : Document) (name key : String) : Option String :=
  (d.record? name).bind fun r => r.field? key

/-- Whether the document has no section. -/
def isEmpty (d : Document) : Bool := d.sections.isEmpty

theorem record?_withSection (d : Document) (name other : String)
    (fields : List (String × String)) :
    (d.withSection name fields).record? other =
      if other = name then some (NameMap.ofList fields) else d.record? other :=
  NameMap.find?_insert ..

end Document

/-- The documents the dashboard keeps in memory. -/
inductive DocumentKind where
  | userMain | userNodes | userRepos | internalMain | userUi
  deriving DecidableEq, Repr

namespace DocumentKind

/-- Every kind, in the order in which they are watched and first loaded. -/
def all : List DocumentKind := [.userMain, .userNodes, .userRepos, .internalMain, .userUi]

/-- How many kinds come before the kind. -/
def index (kind : DocumentKind) : Nat := all.idxOf kind

/-- The name of the kind in metrics. -/
def label : DocumentKind → String
  | .userMain => "user_main"
  | .userNodes => "user_nodes"
  | .userRepos => "user_repos"
  | .internalMain => "internal_main"
  | .userUi => "user_ui"

/-- The file that holds the document, within the configuration directory. -/
def fileName : DocumentKind → String
  | .userMain => "user_config_main.ini"
  | .userNodes => "user_config_nodes.ini"
  | .userRepos => "user_config_repos.ini"
  | .internalMain => "internal_config_main.ini"
  | .userUi => "user_config_ui.ini"

theorem mem_all (kind : DocumentKind) : kind ∈ all := by cases kind <;> decide

end DocumentKind

end ChainDashboard
