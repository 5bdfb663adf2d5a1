import ChainDashboard.Proofs.Topology.Sections

/-!
# Nodes that are built

A node can be built setting by setting, and every setting goes to its record as well. Record and
node stay in step (`Node.InStep`): the node that the record describes has the same names and the
same flags. What is said about being a validator is the exception. The built node holds the text as
it was given, and a record is read without the white space around it, so the two differ exactly if
the text that was given last has white space around something (`Node.built_read_back`).
-/

namespace ChainDashboard

/-- What is set of a node that is being built. -/
inductive NodeSetting where
  | monitored (on : Bool)
  | dataSource (on : Bool)
  | validator (text : String)
  deriving DecidableEq

namespace NodeSetting

def validator? : NodeSetting → Option String
  | .validator text => some text
  | .monitored _ | .dataSource _ => none

/-- What some settings say last about being a validator. -/
def lastValidator? (settings : List NodeSetting) : Option String :=
  (settings.filterMap validator?).getLast?

end NodeSetting

namespace Node

/-- The node with one more setting. -/
def set (n : Node) : NodeSetting → Node
  | .monitored on => n.withMonitored on
  | .dataSource on => n.withDataSource on
  | .validator text => n.withValidator text

@[simp] theorem name_set (n : Node) (s : NodeSetting) : (n.set s).name = n.name := by
  cases s <;> simp only [set, withMonitored, withDataSource, withValidator]

@[simp] theorem chain_set (n : Node) (s : NodeSetting) : (n.set s).chain = n.chain := by
  cases s <;> simp only [set, withMonitored, withDataSource, withValidator]

/-- The node that some settings build, one after the other. -/
def built (name chain : String) (settings : List NodeSetting) : Node :=
  settings.foldl set (new name chain)

theorem built_concat (name chain : String) (settings : List NodeSetting) (s : NodeSetting) :
    built name chain (settings ++ [s]) = (built name chain settings).set s :=
  List.foldl_concat ..

/-- The record says what the node holds. A text about being a validator is held as it stands there,
unless it is blank. -/
structure InStep (n : Node) : Prop where
  name : n.record.find? "node_name" = some n.name
  chain : n.record.find? "chain_name" = some n.chain
  monitored : n.monitored = (n.record.find? "monitor_node").any Flag.read
  dataSource : n.dataSource = (n.record.find? "use_as_data_source").any Flag.read
  validator : n.validator =
    (n.record.find? "node_is_validator").filter fun text => (Text.nonBlank? text).isSome

theorem inStep_new (name chain : String) : (new name chain).InStep := by
  constructor <;> simp [new, NameMap.find?_insert]

/-- A setting goes to its own field of the record and leaves the others. -/
theorem InStep.set {n : Node} (h : n.InStep) (s : NodeSetting) : (n.set s).InStep := by
  -- what was set is read back from its text; every other part is as it was
  cases s with
  | monitored on =>
    constructor <;> simp only [Node.set, withMonitored, NameMap.find?_insert, String.reduceEq,
      if_true, if_false, Option.any_some, Flag.read_text]
    · exact h.name
    · exact h.chain
    · exact h.dataSource
    · exact h.validator
  | dataSource on =>
    constructor <;> simp only [Node.set, withDataSource, NameMap.find?_insert, String.reduceEq,
      if_true, if_false, Option.any_some, Flag.read_text]
    · exact h.name
    · exact h.chain
    · exact h.monitored
    · exact h.validator
  | validator text =>
    constructor <;> simp only [Node.set, withValidator, NameMap.find?_insert, String.reduceEq,
      if_true, if_false, Option.filter_some]
    · exact h.name
    · exact h.chain
    · exact h.monitored
    · exact h.dataSource

theorem inStep_built (name chain : String) (settings : List NodeSetting) :
    (built name chain settings).InStep := by
  induction settings using List.reverseRecOn with
  | nil => exact inStep_new name chain
  | append_singleton settings s ih =>
    rw [built_concat]
    exact ih.set s

theorem names_built (name chain : String) (settings : List NodeSetting) :
    (built name chain settings).name = name ∧ (built name chain settings).chain = chain := by
  induction settings using List.reverseRecOn with
  | nil => exact ⟨rfl, rfl⟩
  | append_singleton settings s ih =>
    rw [built_concat, name_set, chain_set]
    exact ih

/-- The record has the validator text that was given last. -/
theorem find?_validator_built (name chain : String) (settings : List NodeSetting) :
    (built name chain settings).record.find? "node_is_validator" =
      NodeSetting.lastValidator? settings := by
  induction settings using List.reverseRecOn with
  | nil => simp [built, new, NameMap.find?_insert, NodeSetting.lastValidator?]
  | append_singleton settings s ih =>
    rw [built_concat]
    cases s with
    | monitored on =>
      simpa [set, withMonitored, NameMap.find?_insert, NodeSetting.lastValidator?,
        NodeSetting.validator?] using ih
    | dataSource on =>
      simpa [set, withDataSource, NameMap.find?_insert, NodeSetting.lastValidator?,
        NodeSetting.validator?] using ih
    | validator text =>
      simp [set, withValidator, NameMap.find?_insert, NodeSetting.lastValidator?,
        NodeSetting.validator?]

/-- The node that the record of a node in step describes. -/
theorem InStep.ofRecord_record {n : Node} (h : n.InStep)
    (named : Text.trim n.name = n.name ∧ n.name ≠ "")
    (placed : Text.trim n.chain = n.chain ∧ n.chain ≠ "") :
    ofRecord n.record = .ok { n with validator := n.validator.map Text.trim } := by
  -- only the validator text is not the node's own: it is read as a record says it
  refine ofRecord_eq_ok.mpr ⟨⟨n.name, h.name, named⟩, ⟨n.chain, h.chain, placed⟩, h.monitored,
    h.dataSource, fun value => ?_, rfl⟩
  simp only [h.validator, Option.map_eq_some_iff, Option.filter_eq_some_iff,
    Text.isSome_nonBlank?, Record.Says]
  constructor
  · rintro ⟨raw, ⟨held, nonBlank⟩, rfl⟩
    exact ⟨raw, held, rfl, nonBlank⟩
  · rintro ⟨raw, held, rfl, nonBlank⟩
    exact ⟨raw, ⟨held, nonBlank⟩, rfl⟩

/-- Trimming leaves the held text as it is exactly if the record's is blank or has no white space
around it. -/
theorem InStep.trimmed_iff {n : Node} (h : n.InStep) :
    n.validator.map Text.trim = n.validator ↔
      ∀ text, n.record.find? "node_is_validator" = some text →
        Text.trim text = text ∨ Text.trim text = "" := by
  rw [h.validator]
  cases n.record.find? "node_is_validator" with
  | none => simp
  | some text =>
    by_cases blank : Text.trim text = ""
    · have dropped : (Text.nonBlank? text).isSome = false := by
        simpa using mt Text.isSome_nonBlank?.mp (not_not.mpr blank)
      simp [Option.filter_some, dropped, blank]
    · simp [Option.filter_some, Text.isSome_nonBlank?.mpr blank, blank]

/-- **Record and node agree but for padding**: the record of a node that was built is one of a
node, the one with the same names, flags and record whose validator text is trimmed. It is the node
itself exactly if the validator text that was given last is blank or has no white space around it.
-/
theorem built_read_back {name chain : String} (named : Text.trim name = name ∧ name ≠ "")
    (placed : Text.trim chain = chain ∧ chain ≠ "") (settings : List NodeSetting) :
    let n := built name chain settings
    ofRecord n.record = .ok { n with validator := n.validator.map Text.trim } ∧
      (ofRecord n.record = .ok n ↔
        ∀ text, NodeSetting.lastValidator? settings = some text →
          Text.trim text = text ∨ Text.trim text = "") := by
  intro n
  have inStep : n.InStep := inStep_built name chain settings
  obtain ⟨sameName, sameChain⟩ := names_built name chain settings
  have read := inStep.ofRecord_record (sameName.symm ▸ named) (sameChain.symm ▸ placed)
  refine ⟨read, ?_⟩
  rw [read, Except.ok.injEq, ← find?_validator_built name chain settings, ← inStep.trimmed_iff]
  constructor
  · exact congrArg validator
  · intro trimmed
    rw [trimmed]

theorem built_read_back_replacedText :
    let settings := [.validator " no ", .monitored true, .validator "yes"]
    let n := built "N" "C" settings
    (Text.trim "N" = "N" ∧ "N" ≠ "") ∧ (Text.trim "C" = "C" ∧ "C" ≠ "") ∧
      ofRecord n.record = .ok { n with validator := n.validator.map Text.trim } ∧
      (ofRecord n.record = .ok n ↔
        ∀ text, NodeSetting.lastValidator? settings = some text →
          Text.trim text = text ∨ Text.trim text = "") ∧
      n.validator = some "yes" ∧ ofRecord n.record = .ok n := by
  intro settings n
  have named : Text.trim "N" = "N" ∧ "N" ≠ "" := by decide
  have placed : Text.trim "C" = "C" ∧ "C" ≠ "" := by decide
  obtain ⟨read, agree⟩ := built_read_back named placed settings
  refine ⟨named, placed, read, agree, by decide, agree.mpr ?_⟩
  rintro _ ⟨⟩
  exact .inl (by decide)

/-- So a built node need not be the one that its record describes. -/
theorem padded_validator_read_otherwise :
    ¬ ∀ (name chain : String) (settings : List NodeSetting),
      Text.trim name = name ∧ name ≠ "" → Text.trim chain = chain ∧ chain ≠ "" →
        ofRecord (built name chain settings).record = .ok (built name chain settings) := by
  intro agree
  have same := agree "N" "C" [.validator " padded "] (by decide) (by decide)
  exact absurd same (by decide)

end Node

end ChainDashboard
