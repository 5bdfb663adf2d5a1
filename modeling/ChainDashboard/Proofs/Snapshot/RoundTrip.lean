import ChainDashboard.Snapshot.Template

/-!
# From a template to its snapshot and back

A template gives rise to a read, the store answers the read position by position, and the values go
back into the template's fields. `resolve_ofAnswer` says that nothing is lost on the way: a store
that answers every key of a kind by a function of the key leaves that function's value in every
field whose placeholder names the key. Keys that several fields share, and texts that are keys of
both kinds, do not matter. `requested_values_return` says the same of a whole template: each key is
asked for once, and the snapshot has the template's parts and fields and nothing else.
-/

namespace ChainDashboard

namespace SnapshotTemplate

/-- A key is asked for if and only if a placeholder of that kind of look-up names it. -/
theorem mem_keysOf {lookup : Lookup} {ps : List Placeholder} {key : String} :
    key ∈ keysOf lookup ps ↔ ∃ p ∈ ps, p.lookup = lookup ∧ p.key = key := by
  simp only [keysOf, List.mem_eraseDups, List.mem_map, List.mem_filter, decide_eq_true_eq,
    and_assoc]

theorem mem_groupPlaceholders {parts : NameMap FieldPlaceholders} {p : Placeholder} :
    p ∈ groupPlaceholders parts ↔ ∃ fields ∈ parts.values, p ∈ fields.values := by
  simp only [groupPlaceholders, List.mem_flatten, List.mem_map]
  constructor
  · rintro ⟨_, ⟨fields, part, rfl⟩, mem⟩
    exact ⟨fields, part, mem⟩
  · rintro ⟨fields, part, mem⟩
    exact ⟨_, ⟨fields, part, rfl⟩, mem⟩

/-- What a template is filled with matters at its own placeholders only. -/
theorem fill_congr {t : SnapshotTemplate} {v w : Placeholder → Option String}
    (h : ∀ p ∈ t.placeholders, v p = w p) : t.fill v = t.fill w := by
  have fields (fields : FieldPlaceholders) (hf : ∀ p ∈ fields.values, p ∈ t.placeholders) :
      fields.mapValues v = fields.mapValues w :=
    NameMap.mapValues_congr fun p hp => h p (hf p hp)
  have parts (parts : NameMap FieldPlaceholders)
      (hg : ∀ p ∈ groupPlaceholders parts, p ∈ t.placeholders) :
      ∀ fs ∈ parts.values, fs.mapValues v = fs.mapValues w :=
    fun fs hfs => fields fs fun p hp => hg p (mem_groupPlaceholders.mpr ⟨fs, hfs, hp⟩)
  have blockchain := fields t.blockchain fun p hp => by simp [placeholders, hp]
  have nodes := parts t.nodes fun p hp => by simp [placeholders, hp]
  have chainMonitors := parts t.blockchainMonitors fun p hp => by
    simp [placeholders, hp]
  have nodeMonitors := parts t.nodeMonitors fun p hp => by simp [placeholders, hp]
  rw [fill, fill, blockchain, NameMap.mapValues_congr chainMonitors,
    NameMap.mapValues_congr nodeMonitors,
    NameMap.mapValues_congr fun fs hfs => congrArg (NodeSnapshot.mk · "") (nodes fs hfs)]

end SnapshotTemplate

/-- The reply of a store that answers each key as a placeholder of its kind. -/
def StoreRequest.answeredBy (value : Placeholder → Option String) (r : StoreRequest) :
    StoreReply :=
  ⟨r.flatKeys.map fun k => value ⟨.flat, k⟩, r.hashFields.map fun k => value ⟨.hash, k⟩⟩

namespace FetchedValues

/-- The values of such a reply. -/
def ofAnswer (value : Placeholder → Option String) (r : StoreRequest) : FetchedValues :=
  ⟨.ofList (r.flatKeys.map fun k => (k, value ⟨.flat, k⟩)),
    .ofList (r.hashFields.map fun k => (k, value ⟨.hash, k⟩))⟩

theorem zip_answeredBy (value : Placeholder → Option String) (r : StoreRequest) :
    zip r (r.answeredBy value) = .ok (ofAnswer value r) := by
  have shape : fits r (r.answeredBy value) = true := by simp [fits, StoreRequest.answeredBy]
  rw [zip, if_pos shape]
  simp only [StoreRequest.answeredBy, ofAnswer, List.map_prod_left_eq_zip]

/-- Every placeholder of a template gets the value of its own key and kind of look-up. -/
theorem get_ofAnswer {t : SnapshotTemplate} {p : Placeholder} (h : p ∈ t.placeholders)
    (value : Placeholder → Option String) (hashKey : String) :
    (ofAnswer value (t.request hashKey)).get p = value p := by
  have asked : p.key ∈ SnapshotTemplate.keysOf p.lookup t.placeholders :=
    SnapshotTemplate.mem_keysOf.mpr ⟨p, h, rfl, rfl⟩
  obtain ⟨lookup, key⟩ := p
  cases lookup <;>
    simp_all [get, ofAnswer, SnapshotTemplate.request, NameMap.find?_ofList_map]

/-- **Round trip**: reading what a template asks for and putting the values back fills every field
with the value of its own placeholder. -/
theorem resolve_ofAnswer (t : SnapshotTemplate) (value : Placeholder → Option String)
    (hashKey : String) : t.resolve (ofAnswer value (t.request hashKey)) = t.fill value :=
  SnapshotTemplate.fill_congr fun _ hp => get_ofAnswer hp value hashKey

end FetchedValues

/-! ## The shape of a filled template -/

section Filled

variable (value : Placeholder → Option String)

/-- The same fields, each with the value of its placeholder. -/
def FieldsFilled (fields : FieldPlaceholders) (values : FieldValues) : Prop :=
  values.keys = fields.keys ∧
    ∀ field p, fields.find? field = some p → values.find? field = some (value p)

/-- The same parts, each with its fields filled. -/
def PartsFilled (parts : NameMap FieldPlaceholders) (filled : NameMap FieldValues) : Prop :=
  filled.keys = parts.keys ∧
    ∀ name fields, parts.find? name = some fields →
      ∃ values, filled.find? name = some values ∧ FieldsFilled value fields values

/-- A snapshot with the parts and fields of the template, in which every field holds the value of
its own placeholder. -/
structure SnapshotTemplate.FilledAs (t : SnapshotTemplate) (s : ChainSnapshot) : Prop where
  blockchain : FieldsFilled value t.blockchain s.blockchain
  nodes : PartsFilled value t.nodes (s.nodes.mapValues (·.fields))
  blockchainMonitors : PartsFilled value t.blockchainMonitors s.blockchainMonitors
  nodeMonitors : PartsFilled value t.nodeMonitors s.nodeMonitors

theorem fieldsFilled_mapValues (fields : FieldPlaceholders) :
    FieldsFilled value fields (fields.mapValues value) := by
  refine ⟨NameMap.keys_mapValues .., ?_⟩
  intro field p found
  rw [NameMap.find?_mapValues, found, Option.map_some]

theorem partsFilled_mapValues (parts : NameMap FieldPlaceholders) :
    PartsFilled value parts (parts.mapValues (·.mapValues value)) := by
  refine ⟨NameMap.keys_mapValues .., ?_⟩
  intro name fields found
  refine ⟨fields.mapValues value, ?_, fieldsFilled_mapValues value fields⟩
  rw [NameMap.find?_mapValues, found, Option.map_some]

theorem SnapshotTemplate.filledAs_fill (t : SnapshotTemplate) : t.FilledAs value (t.fill value) where
  blockchain := fieldsFilled_mapValues value t.blockchain
  nodes := by
    rw [fill, NameMap.mapValues_mapValues]
    exact partsFilled_mapValues value t.nodes
  blockchainMonitors := partsFilled_mapValues value t.blockchainMonitors
  nodeMonitors := partsFilled_mapValues value t.nodeMonitors

end Filled

/-! ## Each key once -/

theorem nodup_eraseDups [DecidableEq α] (keys : List α) : keys.eraseDups.Nodup := by
  -- what follows the first key is shorter, but no tail of the list
  induction h : keys.length using Nat.strongRecOn generalizing keys with
  | ind n ih =>
    cases keys with
    | nil => exact .nil
    | cons key rest =>
      rw [List.eraseDups_cons, List.nodup_cons, List.mem_eraseDups]
      have shorter : (rest.filter fun other => !other == key).length < n := by
        have := List.length_filter_le (fun other => !other == key) rest
        simp only [List.length_cons] at h
        omega
      exact ⟨by simp, ih _ shorter _ rfl⟩

namespace SnapshotTemplate

/-- Some field of the template has this placeholder. -/
def Mentions (t : SnapshotTemplate) (p : Placeholder) : Prop :=
  (∃ field, t.blockchain.find? field = some p) ∨
    ∃ parts ∈ [t.nodes, t.blockchainMonitors, t.nodeMonitors], ∃ name fields field,
      parts.find? name = some fields ∧ fields.find? field = some p

theorem mem_placeholders {t : SnapshotTemplate} {p : Placeholder} :
    p ∈ t.placeholders ↔ t.Mentions p := by
  have group (parts : NameMap FieldPlaceholders) : p ∈ groupPlaceholders parts ↔
      ∃ name fields field, parts.find? name = some fields ∧ fields.find? field = some p := by
    simp only [mem_groupPlaceholders, NameMap.mem_values_iff]
    constructor
    · rintro ⟨fields, ⟨name, part⟩, field, found⟩
      exact ⟨name, fields, field, part, found⟩
    · rintro ⟨name, fields, field, part, found⟩
      exact ⟨fields, ⟨name, part⟩, field, found⟩
  simp only [placeholders, Mentions, List.mem_append, group, NameMap.mem_values_iff,
    List.mem_cons, List.not_mem_nil, or_false, exists_eq_or_imp, exists_eq_left, or_assoc]

theorem mem_keysOf_placeholders {t : SnapshotTemplate} {lookup : Lookup} {key : String} :
    key ∈ keysOf lookup t.placeholders ↔ t.Mentions ⟨lookup, key⟩ := by
  rw [mem_keysOf, ← mem_placeholders]
  constructor
  · rintro ⟨p, hp, rfl, rfl⟩
    exact hp
  · intro hp
    exact ⟨_, hp, rfl, rfl⟩

/-- **Template round trip**: each key that a field names is asked for once under its kind of
look-up, a reply that gives each key the value of its placeholder is taken, and the snapshot made
of it is the template with every field holding the value of its own placeholder. -/
theorem requested_values_return (t : SnapshotTemplate) (hashKey : String)
    (value : Placeholder → Option String) :
    let request := t.request hashKey
    (request.flatKeys.Nodup ∧ ∀ key, key ∈ request.flatKeys ↔ t.Mentions ⟨.flat, key⟩) ∧
    (request.hashFields.Nodup ∧ ∀ key, key ∈ request.hashFields ↔ t.Mentions ⟨.hash, key⟩) ∧
    ∃ values, FetchedValues.zip request (request.answeredBy value) = .ok values ∧
      t.FilledAs value (t.resolve values) := by
  refine ⟨⟨nodup_eraseDups _, fun _ => mem_keysOf_placeholders⟩,
    ⟨nodup_eraseDups _, fun _ => mem_keysOf_placeholders⟩,
    _, FetchedValues.zip_answeredBy value _, ?_⟩
  rw [FetchedValues.resolve_ofAnswer]
  exact filledAs_fill value t

/-- Two fields share a key, and its text is a key of the other kind as well. -/
example : (SnapshotTemplate.mk (.ofList [("a", ⟨.hash, "k"⟩), ("b", ⟨.hash, "k"⟩)]) .empty
    (.ofList [("c", .ofList [("a", ⟨.flat, "k"⟩)])]) .empty).request "bucket" =
    ⟨["k"], "bucket", ["k"]⟩ := by
  decide

end SnapshotTemplate

end ChainDashboard
