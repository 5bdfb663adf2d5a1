import ChainDashboard.Node
import ChainDashboard.Proofs.Document.Says
import Mathlib.Data.List.Induction

/-!
# Nodes, section by section

A nodes document is taken section by section, in the order of the names of its sections. A section
that is no complete record of a node is passed over, and of several sections about one node the last
stands: the node has the record and the flags of that section alone (`ChainMap.LoadedFrom`). So no
map that a document leads to has a chain without nodes or a node in a wrong place
(`ChainMap.WellPlaced`), and what the sections are called matters only where a node is described
more than once.
-/

namespace ChainDashboard

/-! ## Records of nodes -/

/-- The record is one of the node of this chain and name. -/
structure Record.Describes (r : Record) (chain name : String) : Prop where
  name : r.Says "node_name" name
  chain : r.Says "chain_name" chain

/-- The node has the record as it was written, and all else is read from it. -/
structure Node.MadeFrom (n : Node) (r : Record) : Prop where
  name : r.Says "node_name" n.name
  chain : r.Says "chain_name" n.chain
  monitored : n.monitored = (r.find? "monitor_node").any Flag.read
  dataSource : n.dataSource = (r.find? "use_as_data_source").any Flag.read
  validator : ∀ value, n.validator = some value ↔ r.Says "node_is_validator" value
  record : n.record = r

namespace Record

variable {r : Record} {field value : String}

theorem require_eq_ok : r.require field = .ok value ↔ r.Says field value := by
  rw [← field?_eq_some, require]
  cases r.field? field <;> simp

theorem Describes.unique {chain name chain' name' : String} (h : r.Describes chain name)
    (h' : r.Describes chain' name') : chain = chain' ∧ name = name' :=
  ⟨h.chain.unique h'.chain, h.name.unique h'.name⟩

end Record

namespace Node

variable {r : Record} {n n' : Node}

theorem ofRecord_eq_ok : ofRecord r = .ok n ↔ n.MadeFrom r := by
  rw [ofRecord]
  cases named : r.require "node_name" with
  | error e =>
    refine iff_of_false nofun fun made => ?_
    rw [Record.require_eq_ok.mpr made.name] at named
    cases named
  | ok name =>
    cases placed : r.require "chain_name" with
    | error e =>
      refine iff_of_false nofun fun made => ?_
      rw [Record.require_eq_ok.mpr made.chain] at placed
      cases placed
    | ok chain =>
      rw [Record.require_eq_ok] at named placed
      constructor
      · intro made
        cases made
        exact ⟨named, placed, rfl, rfl, fun _ => Record.field?_eq_some, rfl⟩
      · intro made
        have validator : r.field? "node_is_validator" = n.validator :=
          Option.ext fun value => Record.field?_eq_some.trans (made.validator value).symm
        show Except.ok (Node.mk name chain _ _ _ r) = .ok n
        rw [named.unique made.name, placed.unique made.chain, ← made.monitored, ← made.dataSource,
          validator, ← made.record]

theorem MadeFrom.describes (h : n.MadeFrom r) : r.Describes n.chain n.name := ⟨h.name, h.chain⟩

/-- A record describes one node. -/
theorem MadeFrom.unique (h : n.MadeFrom r) (h' : n'.MadeFrom r) : n = n' :=
  Except.ok.inj ((ofRecord_eq_ok.mpr h).symm.trans (ofRecord_eq_ok.mpr h'))

theorem exists_madeFrom {chain name : String} (h : r.Describes chain name) :
    ∃ n : Node, n.MadeFrom r ∧ n.chain = chain ∧ n.name = name :=
  ⟨⟨name, chain, _, _, r.field? "node_is_validator", r⟩,
    ⟨h.name, h.chain, rfl, rfl, fun _ => Record.field?_eq_some, rfl⟩, rfl, rfl⟩

end Node

/-! ## Section by section -/

/-- The node is made from the last of the sections that describe the node of this chain and name. -/
def LastDescribed (sections : List (String × Record)) (chain name : String) (n : Node) : Prop :=
  ∃ s ∈ sections, s.2.Describes chain name ∧
    (∀ s' ∈ sections, s'.2.Describes chain name → s'.1 ≤ s.1) ∧ n.MadeFrom s.2

namespace LastDescribed

variable {sections : List (String × Record)} {last : String × Record} {chain name : String}
  {n : Node}

theorem concat_of_describes (below : ∀ s ∈ sections, s.1 < last.1)
    (h : last.2.Describes chain name) :
    LastDescribed (sections ++ [last]) chain name n ↔ n.MadeFrom last.2 := by
  constructor
  · rintro ⟨s, mem, -, greatest, made⟩
    rcases List.mem_append.mp mem with mem | mem
    · -- an earlier section is not the greatest, because the last one describes the node too
      have above := greatest last (List.mem_append_right _ (List.mem_singleton.mpr rfl)) h
      exact absurd (below s mem) (String.not_lt.mpr above)
    · exact List.mem_singleton.mp mem ▸ made
  · intro made
    refine ⟨last, List.mem_append_right _ (List.mem_singleton.mpr rfl), h, ?_, made⟩
    intro s mem _
    rcases List.mem_append.mp mem with mem | mem
    · exact String.not_lt.mp (String.lt_asymm (below s mem))
    · exact List.mem_singleton.mp mem ▸ String.le_refl _

theorem concat_of_not_describes (h : ¬ last.2.Describes chain name) :
    LastDescribed (sections ++ [last]) chain name n ↔ LastDescribed sections chain name n := by
  simp only [LastDescribed, List.mem_append, List.mem_singleton, or_and_right, exists_or,
    exists_eq_left, h, false_and, or_false, or_imp, forall_and, forall_eq, false_imp_iff, and_true]

end LastDescribed

namespace ChainMap

/-- The map that sections lead to, taken in order. -/
def ofSections (sections : List (String × Record)) : ChainMap :=
  ofNodes (sections.filterMap fun s => (Node.ofRecord s.2).toOption)

theorem ofDocument_eq (d : Document) : ofDocument d = ofSections d.sections.entries := by
  rw [ofDocument, NameMap.values, List.filterMap_map]
  rfl

theorem ofNodes_concat (nodes : List Node) (n : Node) :
    ofNodes (nodes ++ [n]) = (ofNodes nodes).add n := by
  rw [ofNodes, List.foldl_append]
  rfl

theorem ofSections_concat_of_error {sections : List (String × Record)} {last : String × Record}
    {e : MissingField} (h : Node.ofRecord last.2 = .error e) :
    ofSections (sections ++ [last]) = ofSections sections := by
  rw [ofSections, List.filterMap_append]
  simp [ofSections, h, Except.toOption]

theorem ofSections_concat_of_ok {sections : List (String × Record)} {last : String × Record}
    {n : Node} (h : Node.ofRecord last.2 = .ok n) :
    ofSections (sections ++ [last]) = (ofSections sections).add n := by
  rw [ofSections, List.filterMap_append, ofSections, ← ofNodes_concat]
  simp [h, Except.toOption]

/-- Sections in ascending order leave each node as the last one that describes it has it. -/
theorem node?_ofSections {sections : List (String × Record)} (sorted : Ascending sections)
    {chain name : String} {n : Node} :
    (ofSections sections).node? chain name = some n ↔ LastDescribed sections chain name n := by
  induction sections using List.reverseRecOn with
  | nil => exact iff_of_false nofun nofun
  | append_singleton sections last ih =>
    obtain ⟨sorted, -, below⟩ := List.pairwise_append.mp sorted
    replace below : ∀ s ∈ sections, s.1 < last.1 := fun s mem =>
      below s mem last (List.mem_singleton.mpr rfl)
    cases read : Node.ofRecord last.2 with
    | error e =>
      have undescribed : ¬ last.2.Describes chain name := by
        intro describes
        obtain ⟨made, from_last, -⟩ := Node.exists_madeFrom describes
        rw [Node.ofRecord_eq_ok.mpr from_last] at read
        cases read
      rw [ofSections_concat_of_error read, ih sorted,
        LastDescribed.concat_of_not_describes undescribed]
    | ok made =>
      have from_last := Node.ofRecord_eq_ok.mp read
      rw [ofSections_concat_of_ok read, node?_add]
      by_cases own : chain = made.chain ∧ name = made.name
      · obtain ⟨rfl, rfl⟩ := own
        rw [if_pos ⟨rfl, rfl⟩, LastDescribed.concat_of_describes below from_last.describes,
          Option.some.injEq]
        exact ⟨fun same => same ▸ from_last, from_last.unique⟩
      · have undescribed : ¬ last.2.Describes chain name :=
          fun describes => own (describes.unique from_last.describes)
        rw [if_neg own, ih sorted, LastDescribed.concat_of_not_describes undescribed]

/-! ## What a document leads to -/

/-- The map has exactly the nodes that the document describes, each as the section with the greatest
name among those that describe it has it. -/
structure LoadedFrom (d : Document) (m : ChainMap) : Prop where
  listed : ∀ chain name, (∃ n, m.node? chain name = some n) ↔
    ∃ title r, d.record? title = some r ∧ r.Describes chain name
  made : ∀ chain name n, m.node? chain name = some n →
    ∃ title r, d.record? title = some r ∧ r.Describes chain name ∧ n.MadeFrom r ∧
      ∀ other r', d.record? other = some r' → r'.Describes chain name → other ≤ title

/-- Of sections that describe a node there is a last one. -/
theorem exists_lastDescribed {sections : List (String × Record)} (sorted : Ascending sections)
    {s : String × Record} (mem : s ∈ sections) {chain name : String}
    (h : s.2.Describes chain name) : ∃ n, LastDescribed sections chain name n := by
  induction sections using List.reverseRecOn with
  | nil => cases mem
  | append_singleton sections last ih =>
    obtain ⟨sorted, -, below⟩ := List.pairwise_append.mp sorted
    by_cases final : last.2.Describes chain name
    · obtain ⟨n, made, -⟩ := Node.exists_madeFrom final
      exact ⟨n, (LastDescribed.concat_of_describes
        (fun s mem => below s mem last (List.mem_singleton.mpr rfl)) final).mpr made⟩
    · rcases List.mem_append.mp mem with mem | mem
      · obtain ⟨n, made⟩ := ih sorted mem
        exact ⟨n, (LastDescribed.concat_of_not_describes final).mpr made⟩
      · exact absurd (List.mem_singleton.mp mem ▸ h) final

theorem loadedFrom_ofDocument (d : Document) : (ofDocument d).LoadedFrom d := by
  have sorted := d.sections.ascending
  simp only [ofDocument_eq]
  constructor
  · intro chain name
    simp only [node?_ofSections sorted]
    constructor
    · rintro ⟨n, s, mem, describes, -⟩
      exact ⟨s.1, s.2, NameMap.find?_eq_some_iff.mpr mem, describes⟩
    · rintro ⟨title, r, held, describes⟩
      exact exists_lastDescribed sorted (NameMap.find?_eq_some_iff.mp held) describes
  · intro chain name n held
    obtain ⟨s, mem, describes, greatest, made⟩ := (node?_ofSections sorted).mp held
    refine ⟨s.1, s.2, NameMap.find?_eq_some_iff.mpr mem, describes, made, ?_⟩
    intro other r' held'
    exact greatest (other, r') (NameMap.find?_eq_some_iff.mp held')

-- names of sections are compared as texts
example :
    let first := [("node_name", "n"), ("chain_name", "c"), ("ws_url", "first")]
    let second := [("node_name", "n"), ("chain_name", "c")]
    let d := (Document.empty.withSection "node_2" second).withSection "node_10" first
    ((ofDocument d).node? "c" "n").map (·.record) = some (.ofList second) := by
  decide

/-! ## What the sections are called -/

/-- No chain is without nodes. -/
def Inhabited (m : ChainMap) : Prop :=
  ∀ chain nodes, m.find? chain = some nodes → ∃ name n, nodes.find? name = some n

theorem inhabited_ofNodes (nodes : List Node) : (ofNodes nodes).Inhabited := by
  induction nodes using List.reverseRecOn with
  | nil => exact nofun
  | append_singleton nodes n ih =>
    intro chain held found
    rw [ofNodes_concat, add, NameMap.find?_insert] at found
    split at found
    · cases found
      exact ⟨n.name, n, by rw [NameMap.find?_insert, if_pos rfl]⟩
    · exact ih chain held found

/-- Maps in which no chain is without nodes are told apart by their nodes. -/
theorem ext_node? {m m' : ChainMap} (h : m.Inhabited) (h' : m'.Inhabited)
    (same : ∀ chain name, m.node? chain name = m'.node? chain name) : m = m' := by
  apply NameMap.ext_find?
  intro chain
  have same := same chain
  unfold node? at same
  cases held : m.find? chain with
  | none =>
    cases held' : m'.find? chain with
    | none => rfl
    | some nodes' =>
      obtain ⟨name, n, found⟩ := h' chain nodes' held'
      simpa [held, held', found] using same name
  | some nodes =>
    cases held' : m'.find? chain with
    | none =>
      obtain ⟨name, n, found⟩ := h chain nodes held
      simpa [held, held', found] using same name
    | some nodes' =>
      rw [held, held'] at same
      exact congrArg some (NameMap.ext_find? same)

/-- Of some records no two describe one node. -/
def DistinctNodes (records : List Record) : Prop :=
  ∀ r ∈ records, ∀ r' ∈ records, ∀ chain name,
    r.Describes chain name → r'.Describes chain name → r = r'

/-- Where no node is described twice, the map has the nodes of all records. -/
theorem node?_ofDocument_of_distinct {d : Document} (distinct : DistinctNodes d.sections.values)
    {chain name : String} {n : Node} : (ofDocument d).node? chain name = some n ↔
      ∃ r ∈ d.sections.values, r.Describes chain name ∧ n.MadeFrom r := by
  obtain ⟨listed, made⟩ := loadedFrom_ofDocument d
  constructor
  · intro held
    obtain ⟨title, r, held', describes, from_r, -⟩ := made chain name n held
    exact ⟨r, NameMap.mem_values_iff.mpr ⟨title, held'⟩, describes, from_r⟩
  · rintro ⟨r, mem, describes, from_r⟩
    obtain ⟨title, held⟩ := NameMap.mem_values_iff.mp mem
    obtain ⟨n', found⟩ := (listed chain name).mpr ⟨title, r, held, describes⟩
    obtain ⟨other, r', held', describes', from_r', -⟩ := made chain name n' found
    -- the record that the node was made from is the only one that describes it
    cases distinct r mem r' (NameMap.mem_values_iff.mpr ⟨other, held'⟩) chain name describes
      describes'
    rw [found, from_r.unique from_r']

/-- Where no node is described twice, only the records count and not what their sections are
called. -/
theorem ofDocument_congr {d d' : Document} (distinct : DistinctNodes d.sections.values)
    (same : ∀ r, r ∈ d.sections.values ↔ r ∈ d'.sections.values) :
    ofDocument d = ofDocument d' := by
  have distinct' : DistinctNodes d'.sections.values := fun r mem r' mem' =>
    distinct r ((same r).mpr mem) r' ((same r').mpr mem')
  refine ext_node? (inhabited_ofNodes _) (inhabited_ofNodes _) fun chain name => ?_
  apply Option.ext
  intro n
  simp only [node?_ofDocument_of_distinct distinct, node?_ofDocument_of_distinct distinct', same]

/-! ## Every map that documents lead to -/

/-- No chain is without nodes, and every node is where its own chain and name say. Both are names
without white space around them. -/
structure WellPlaced (m : ChainMap) : Prop where
  inhabited : m.Inhabited
  placed : ∀ chain name n, m.node? chain name = some n → n.chain = chain ∧ n.name = name
  named : ∀ chain name n, m.node? chain name = some n →
    (Text.trim chain = chain ∧ chain ≠ "") ∧ Text.trim name = name ∧ name ≠ ""

theorem wellPlaced_ofDocument (d : Document) : (ofDocument d).WellPlaced where
  inhabited := inhabited_ofNodes _
  placed chain name n held := by
    obtain ⟨title, r, -, describes, made, -⟩ := (loadedFrom_ofDocument d).made chain name n held
    exact made.describes.unique describes
  named chain name n held := by
    obtain ⟨title, r, -, describes, -, -⟩ := (loadedFrom_ofDocument d).made chain name n held
    exact ⟨describes.chain.trimmed, describes.name.trimmed⟩

theorem wellPlaced_empty : WellPlaced NameMap.empty where
  inhabited := nofun
  placed := nofun
  named := nofun

end ChainMap

end ChainDashboard
