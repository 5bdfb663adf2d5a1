import ChainDashboard.Document.Basic
import ChainDashboard.Proofs.Text.Trim

/-!
# What documents say

A field that holds more than white space says its text without the white space around it, and any
other says nothing. Where several documents were read, the latest one that says anything counts
(`LatestSays`); one more document either says something itself or leaves that as it was.
-/

namespace ChainDashboard

/-! ## Records -/

/-- The record has a value in the field that is not blank; said is the value without the white space
around it. -/
def Record.Says (r : Record) (field value : String) : Prop :=
  ∃ raw, r.find? field = some raw ∧ Text.trim raw = value ∧ value ≠ ""

namespace Record

variable {r : Record} {field value other : String}

theorem field?_eq_some : r.field? field = some value ↔ r.Says field value := by
  simp only [field?, Option.bind_eq_some_iff, Text.nonBlank?_eq_some, Says]

theorem Says.unique (h : r.Says field value) (h' : r.Says field other) : value = other := by
  rw [← field?_eq_some] at h h'
  exact Option.some.inj (h.symm.trans h')

theorem Says.trimmed (h : r.Says field value) : Text.trim value = value ∧ value ≠ "" := by
  obtain ⟨raw, -, rfl, nonempty⟩ := h
  exact ⟨Text.trim_trim raw, nonempty⟩

end Record

/-! ## Documents -/

namespace Document

/-- The document has a value that is not blank in the field of a section, without the white space
around it. -/
def Says (d : Document) (title field value : String) : Prop :=
  ∃ r, d.record? title = some r ∧ r.Says field value

/-- There is nothing but white space in the field of a section, or no such field or section. -/
def Blank (d : Document) (title field : String) : Prop :=
  ∀ r raw, d.record? title = some r → r.find? field = some raw → Text.trim raw = ""

variable {d : Document} {title field value other : String}

theorem field?_eq_some : d.field? title field = some value ↔ d.Says title field value := by
  simp only [field?, Option.bind_eq_some_iff, Record.field?_eq_some, Says]

theorem field?_eq_none : d.field? title field = none ↔ d.Blank title field := by
  rw [Option.eq_none_iff_forall_ne_some]
  constructor
  · intro absent r raw held found
    by_contra nonempty
    exact absent _ (field?_eq_some.mpr ⟨r, held, raw, found, rfl, nonempty⟩)
  · intro blank value given
    obtain ⟨r, held, raw, found, rfl, nonempty⟩ := field?_eq_some.mp given
    exact nonempty (blank r raw held found)

instance : Decidable (d.Blank title field) := decidable_of_iff _ field?_eq_none

/-- A field is blank if it says nothing. -/
theorem blank_iff : d.Blank title field ↔ ∀ value, ¬d.Says title field value := by
  simp only [← field?_eq_none, ← field?_eq_some, Option.eq_none_iff_forall_ne_some, ne_eq]

theorem Says.unique (h : d.Says title field value) (h' : d.Says title field other) :
    value = other := by
  rw [← field?_eq_some] at h h'
  exact Option.some.inj (h.symm.trans h')

theorem Says.trimmed (h : d.Says title field value) : Text.trim value = value ∧ value ≠ "" :=
  h.elim fun _ said => said.2.trimmed

end Document

/-! ## Several documents -/

/-- What the latest of some documents says that says anything. The latest document comes first. -/
def LatestSays {α : Type} (Says : Document → α → Prop) (docs : List Document) (value : α) : Prop :=
  ∃ newer d older, docs = newer ++ d :: older ∧ Says d value ∧
    ∀ d' ∈ newer, ∀ other, ¬Says d' other

section Latest

variable {α : Type} {Says : Document → α → Prop} {docs : List Document} {value : α}

@[simp] theorem not_latestSays_nil : ¬LatestSays Says [] value := by
  rintro ⟨newer, d, older, none, -⟩
  simp at none

theorem latestSays_cons {d : Document} : LatestSays Says (d :: docs) value ↔
    Says d value ∨ (∀ other, ¬Says d other) ∧ LatestSays Says docs value := by
  constructor
  · rintro ⟨newer, d', older, read, said, silent⟩
    cases newer with
    | nil =>
      cases read
      exact .inl said
    | cons first newer =>
      cases read
      obtain ⟨first_silent, silent⟩ := List.forall_mem_cons.mp silent
      exact .inr ⟨first_silent, newer, d', older, rfl, said, silent⟩
  · rintro (said | ⟨d_silent, newer, d', older, rfl, said, silent⟩)
    · exact ⟨[], d, docs, rfl, said, nofun⟩
    · exact ⟨d :: newer, d', older, rfl, said, List.forall_mem_cons.mpr ⟨d_silent, silent⟩⟩

/-- What one more document says replaces what is held, and if it says nothing that stays. -/
theorem latestSays_or {d : Document} {said? held? : Option α}
    (said : ∀ value, said? = some value ↔ Says d value)
    (held : ∀ value, held? = some value ↔ LatestSays Says docs value) (value : α) :
    said?.or held? = some value ↔ LatestSays Says (d :: docs) value := by
  have silent : said? = none ↔ ∀ other, ¬Says d other := by
    simp only [Option.eq_none_iff_forall_ne_some, ne_eq, said]
  rw [Option.or_eq_some_iff, said, silent, held, latestSays_cons]

end Latest

end ChainDashboard
