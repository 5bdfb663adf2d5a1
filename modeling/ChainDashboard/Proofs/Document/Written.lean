import ChainDashboard.Proofs.Document.Lines
import ChainDashboard.Proofs.NameMap
import Mathlib.Data.List.Induction

/-!
# Written documents are read back

The lines of a document state its sections one after the other, and reading gives the document that
the sections build when they are added in that order (`parse_written`): fields in front of the first
header belong to nothing, a section stands in place of an earlier one of its name, and of repeated
fields the last one counts.
-/

namespace ChainDashboard

namespace Document

/-- What the lines of a document state that has these fields in front of its first header and these
sections. -/
def stated (outside : List (String × String))
    (sections : List (String × List (String × String))) : List Ini.Item :=
  outside.map (fun f => .field f.1 f.2) ++
    sections.flatMap fun s => .header s.1 :: s.2.map fun f => .field f.1 f.2

/-- The document with these sections, added one after the other. -/
def ofSections (sections : List (String × List (String × String))) : Document :=
  sections.foldl (fun d s => d.withSection s.1 s.2) empty

/-- Fields in front of the first header are dropped. -/
theorem foldl_add_outside (d : Document) (fields : List (String × String)) :
    (fields.map fun f => Ini.Item.field f.1 f.2).foldl Draft.add ⟨d, none⟩ = ⟨d, none⟩ := by
  induction fields with
  | nil => rfl
  | cons f fields ih => exact ih

/-- Further fields go to the section that is open. -/
theorem foldl_add_fields (d : Document) (name : String) (record : Record)
    (fields : List (String × String)) :
    (fields.map fun f => Ini.Item.field f.1 f.2).foldl Draft.add
        ⟨⟨d.sections.insert name record⟩, some name⟩ =
      ⟨⟨d.sections.insert name (fields.foldl (fun m p => m.insert p.1 p.2) record)⟩,
        some name⟩ := by
  induction fields generalizing record with
  | nil => rfl
  | cons f fields ih =>
    have added : Draft.add ⟨⟨d.sections.insert name record⟩, some name⟩ (.field f.1 f.2) =
        ⟨⟨d.sections.insert name (record.insert f.1 f.2)⟩, some name⟩ := by
      simp only [Draft.add, record?, NameMap.find?_insert, if_true, Option.getD_some,
        NameMap.insert_insert]
    rw [List.map_cons, List.foldl_cons, added, ih, List.foldl_cons]

/-- A section is added as a whole, whatever section was open before. -/
theorem foldl_add_sections (d : Draft) (sections : List (String × List (String × String))) :
    ((sections.flatMap fun s => Ini.Item.header s.1 :: s.2.map fun f => .field f.1 f.2).foldl
      Draft.add d).document = sections.foldl (fun d s => d.withSection s.1 s.2) d.document := by
  induction sections generalizing d with
  | nil => rfl
  | cons s sections ih =>
    have opened : Draft.add d (.header s.1) =
      ⟨⟨d.document.sections.insert s.1 NameMap.empty⟩, some s.1⟩ := rfl
    rw [List.flatMap_cons, List.foldl_append, List.foldl_cons, opened, foldl_add_fields, ih]
    rfl

theorem ofItems_stated (outside : List (String × String))
    (sections : List (String × List (String × String))) :
    ofItems (stated outside sections) = ofSections sections := by
  rw [ofItems, stated, List.foldl_append, foldl_add_outside, foldl_add_sections, ofSections]

/-- The document has the last section of each name, with the last value of each of its fields. -/
theorem record?_ofSections {sections : List (String × List (String × String))} {name : String}
    {record : Record} :
    (ofSections sections).record? name = some record ↔
      ∃ fields, LastOf name fields sections ∧ record = NameMap.ofList fields := by
  induction sections using List.reverseRecOn with
  | nil =>
    refine iff_of_false nofun ?_
    rintro ⟨fields, last, -⟩
    exact not_lastOf_nil last
  | append_singleton sections s ih =>
    have added : ofSections (sections ++ [s]) = (ofSections sections).withSection s.1 s.2 :=
      List.foldl_concat ..
    simp only [added, record?_withSection, lastOf_concat]
    split
    · constructor
      · intro held
        exact ⟨s.2, rfl, (Option.some.inj held).symm⟩
      · rintro ⟨fields, rfl, rfl⟩
        rfl
    · exact ih

/-- **Written documents are read back**: however some sections are laid out in plain lines, reading
succeeds and gives the document that adding them one after the other builds. Of a repeated section
that document has the last one as it stands, of a repeated field the last value, and it has nothing
else. -/
theorem parse_written {outside : List (String × String)}
    {sections : List (String × List (String × String))} {layout : Ini.Layout}
    (plain : layout.Plain) (states : layout.items = stated outside sections) :
    parse layout.text = .ok (ofSections sections) ∧
      ∀ name record, (ofSections sections).record? name = some record ↔
        ∃ fields, LastOf name fields sections ∧
          ∀ key value, record.find? key = some value ↔ LastOf key value fields := by
  refine ⟨?_, fun name record => record?_ofSections.trans ?_⟩
  · rw [parse, Ini.items_text plain, states]
    exact congrArg Except.ok (ofItems_stated outside sections)
  · simp only [NameMap.eq_ofList_iff]

/-- A text with a field in front of its first header, a section that a later one of its name
replaces, a field that is given twice and an indented line with nothing on it. -/
def replacedSection : Ini.Layout where
  lines := [(.field "version" "2", .lf), (.comment ';' " nodes", .crlf), (.header "node_1", .lf),
    (.field "name" "old", .lf), (.blank [' ', '\t'], .crlf), (.header "node_1", .crlf),
    (.field "name" "a b", .crlf), (.field "url" "http://host:9100/x=1", .lf)]
  last := .field "name" ""

theorem parse_written_replacedSection :
    replacedSection.Plain ∧ ∃ d, parse replacedSection.text = .ok d ∧ d.record? "node_1" =
      some (NameMap.ofList [("url", "http://host:9100/x=1"), ("name", "")]) := by
  have plain : replacedSection.Plain := by decide
  have states : replacedSection.items = stated [("version", "2")] [("node_1", [("name", "old")]),
      ("node_1", [("name", "a b"), ("url", "http://host:9100/x=1"), ("name", "")])] := rfl
  obtain ⟨parsed, -⟩ := parse_written plain states
  exact ⟨plain, _, parsed, rfl⟩

end Document

end ChainDashboard
