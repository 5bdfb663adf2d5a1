import ChainDashboard.Proofs.Snapshot.RoundTrip
import Mathlib.Data.List.Induction
import Mathlib.Data.List.Sort

/-!
# The keys of a read and their order

A template is walked field by field: the fields of the chain, then those of its nodes, of the
chain's monitors and of the nodes' monitors, each by name and then by field. The read asks for the
keys of each kind of look-up in the order in which the walk comes to them first
(`request_minimal`), and the order leaves no choice (`AsksFor.unique`). One pass that keeps what it
has seen gathers both lists at once (`request_eq_gathered`); the proof follows that pass.
-/

namespace ChainDashboard

/-! ## One pass over the placeholders -/

/-- What a pass has gathered: the placeholders it has seen, and the keys of either kind. -/
structure Gathering where
  seen : List Placeholder
  flatKeys : List String
  hashFields : List String

namespace Gathering

/-- Before the first placeholder. -/
def start : Gathering := ⟨[], [], []⟩

/-- Takes in one placeholder, unless it was seen before. -/
def take (g : Gathering) (p : Placeholder) : Gathering :=
  if p ∈ g.seen then g
  else
    match p.lookup with
    | .flat => { g with seen := p :: g.seen, flatKeys := g.flatKeys ++ [p.key] }
    | .hash => { g with seen := p :: g.seen, hashFields := g.hashFields ++ [p.key] }

/-- Takes in a list of placeholders. -/
def takeAll (ps : List Placeholder) : Gathering := ps.foldl take start

theorem takeAll_concat (ps : List Placeholder) (p : Placeholder) :
    takeAll (ps ++ [p]) = (takeAll ps).take p := by
  rw [takeAll, List.foldl_concat, takeAll]

/-- The keys gathered for one kind of look-up. -/
def keys (g : Gathering) : Lookup → List String
  | .flat => g.flatKeys
  | .hash => g.hashFields

theorem mem_seen_take {g : Gathering} {p q : Placeholder} :
    q ∈ (g.take p).seen ↔ q ∈ g.seen ∨ q = p := by
  unfold take
  split
  · rename_i old
    exact ⟨.inl, fun h => h.elim id fun same => same ▸ old⟩
  · split <;> exact List.mem_cons.trans or_comm

/-- A placeholder adds its key to the keys of its own kind, if it is new. -/
theorem keys_take (g : Gathering) (p : Placeholder) (lookup : Lookup) :
    (g.take p).keys lookup =
      if p ∉ g.seen ∧ p.lookup = lookup then g.keys lookup ++ [p.key] else g.keys lookup := by
  unfold take
  by_cases old : p ∈ g.seen
  · simp [old]
  · obtain ⟨kind, key⟩ := p
    cases kind <;> cases lookup <;> simp [old, keys]

end Gathering

/-- Among the placeholders one has the key before any has the other. -/
def ComesFirst (ps : List Placeholder) (lookup : Lookup) (key other : String) : Prop :=
  ∃ front back, ps = front ++ ⟨lookup, key⟩ :: back ∧ ⟨lookup, other⟩ ∉ front

theorem ComesFirst.append {ps : List Placeholder} {lookup : Lookup} {key other : String}
    (h : ComesFirst ps lookup key other) (more : List Placeholder) :
    ComesFirst (ps ++ more) lookup key other := by
  obtain ⟨front, back, rfl, unseen⟩ := h
  exact ⟨front, back ++ more, by rw [List.append_assoc, List.cons_append], unseen⟩

/-- The keys that some placeholders have for a kind of look-up, each once, the first one first. -/
structure KeysByFirst (ps : List Placeholder) (lookup : Lookup) (keys : List String) : Prop where
  nodup : keys.Nodup
  mem : ∀ key, key ∈ keys ↔ ⟨lookup, key⟩ ∈ ps
  ordered : keys.Pairwise (ComesFirst ps lookup)

namespace KeysByFirst

variable {ps : List Placeholder} {lookup : Lookup} {keys : List String}

/-- A placeholder that was seen, or is of the other kind, adds no key. -/
theorem skip (h : KeysByFirst ps lookup keys) {p : Placeholder}
    (idle : p.lookup = lookup → p ∈ ps) : KeysByFirst (ps ++ [p]) lookup keys where
  nodup := h.nodup
  mem key := by
    rw [h.mem, List.mem_append, List.mem_singleton]
    refine ⟨.inl, fun held => held.elim id ?_⟩
    rintro rfl
    exact idle rfl
  ordered := h.ordered.imp (ComesFirst.append · [p])

/-- The key of a new placeholder comes after all that were gathered. -/
theorem concat (h : KeysByFirst ps lookup keys) {key : String} (new : ⟨lookup, key⟩ ∉ ps) :
    KeysByFirst (ps ++ [⟨lookup, key⟩]) lookup (keys ++ [key]) where
  nodup := by
    have unlisted : key ∉ keys := mt (h.mem key).mp new
    exact List.nodup_append.mpr ⟨h.nodup, List.nodup_singleton key, by
      rintro a mem b only rfl
      exact unlisted (List.mem_singleton.mp only ▸ mem)⟩
  mem other := by
    rw [List.mem_append, List.mem_append, h.mem, List.mem_singleton, List.mem_singleton,
      Placeholder.mk.injEq, and_iff_right rfl]
  ordered := by
    refine List.pairwise_append.mpr ⟨h.ordered.imp (ComesFirst.append · _),
      List.pairwise_singleton .., ?_⟩
    intro earlier mem last only
    obtain rfl := List.mem_singleton.mp only
    obtain ⟨front, back, rfl⟩ := List.append_of_mem ((h.mem earlier).mp mem)
    have unseen : ⟨lookup, last⟩ ∉ front := fun mem => new (List.mem_append_left _ mem)
    exact ComesFirst.append ⟨front, back, rfl, unseen⟩ _

end KeysByFirst

namespace Gathering

/-- What the gathered state says about the placeholders walked so far. -/
structure Covers (ps : List Placeholder) (g : Gathering) : Prop where
  seen : ∀ p, p ∈ g.seen ↔ p ∈ ps
  keys : ∀ lookup, KeysByFirst ps lookup (g.keys lookup)

theorem covers_start : start.Covers [] where
  seen _ := Iff.rfl
  keys lookup := by
    cases lookup <;> exact ⟨.nil, fun _ => by simp [keys, start], .nil⟩

theorem Covers.take {ps : List Placeholder} {g : Gathering} (h : g.Covers ps) (p : Placeholder) :
    (g.take p).Covers (ps ++ [p]) where
  seen q := by rw [mem_seen_take, h.seen, List.mem_append, List.mem_singleton]
  keys lookup := by
    rw [keys_take]
    split
    · rename_i new
      obtain ⟨unseen, rfl⟩ := new
      exact (h.keys p.lookup).concat (mt (h.seen p).mpr unseen)
    · rename_i idle
      refine (h.keys lookup).skip fun kind => (h.seen p).mp ?_
      by_contra unseen
      exact idle ⟨unseen, kind⟩

/-- A pass gathers the keys of all that it walks over. -/
theorem covers_takeAll (ps : List Placeholder) : (takeAll ps).Covers ps := by
  induction ps using List.reverseRecOn with
  | nil => exact covers_start
  | append_singleton ps p ih =>
    rw [takeAll_concat]
    exact ih.take p

end Gathering

namespace SnapshotTemplate

/-- One more placeholder, after some others, adds its key if it is new and of that kind. -/
theorem keysOf_concat (lookup : Lookup) (ps : List Placeholder) (p : Placeholder) :
    keysOf lookup (ps ++ [p]) =
      if p ∉ ps ∧ p.lookup = lookup then keysOf lookup ps ++ [p.key] else keysOf lookup ps := by
  obtain ⟨kind, key⟩ := p
  by_cases alike : kind = lookup
  · subst alike
    have listed : key ∈ (ps.filter (·.lookup = kind)).map (·.key) ↔ ⟨kind, key⟩ ∈ ps := by
      refine List.mem_eraseDups.symm.trans (mem_keysOf.trans ⟨?_, fun mem => ⟨_, mem, rfl, rfl⟩⟩)
      rintro ⟨p, mem, rfl, rfl⟩
      exact mem
    by_cases old : ⟨kind, key⟩ ∈ ps <;>
      simp [keysOf, List.eraseDups_append, List.removeAll, List.eraseDups_cons, listed, old]
  · simp [keysOf, alike]

theorem keys_takeAll (lookup : Lookup) (ps : List Placeholder) :
    (Gathering.takeAll ps).keys lookup = keysOf lookup ps := by
  induction ps using List.reverseRecOn with
  | nil => cases lookup <;> rfl
  | append_singleton ps p ih =>
    simp only [Gathering.takeAll_concat, Gathering.keys_take, keysOf_concat, ih,
      (Gathering.covers_takeAll ps).seen]

/-- **The read is gathered in one pass** over the placeholders. -/
theorem request_eq_gathered (t : SnapshotTemplate) (hashKey : String) :
    t.request hashKey = ⟨(Gathering.takeAll t.placeholders).flatKeys, hashKey,
      (Gathering.takeAll t.placeholders).hashFields⟩ := by
  rw [request, ← keys_takeAll, ← keys_takeAll]
  rfl

end SnapshotTemplate

/-! ## The walk over a template -/

/-- The place of a field in a template. -/
inductive FieldPlace where
  | blockchain (field : String)
  | node (name field : String)
  | blockchainMonitor (name field : String)
  | nodeMonitor (name field : String)
  deriving DecidableEq

namespace FieldPlace

/-- The turn of the part that the field belongs to. -/
def turn : FieldPlace → Nat
  | .blockchain _ => 0
  | .node .. => 1
  | .blockchainMonitor .. => 2
  | .nodeMonitor .. => 3

/-- The name within the part; the fields of the chain itself have none. -/
def name : FieldPlace → String
  | .blockchain _ => ""
  | .node name _ | .blockchainMonitor name _ | .nodeMonitor name _ => name

def field : FieldPlace → String
  | .blockchain field | .node _ field | .blockchainMonitor _ field | .nodeMonitor _ field => field

/-- The order of the walk: part by part, in a part name by name, under a name field by field. -/
def Before (p q : FieldPlace) : Prop :=
  p.turn < q.turn ∨
    p.turn = q.turn ∧ (p.name < q.name ∨ p.name = q.name ∧ p.field < q.field)

theorem Before.asymm {p q : FieldPlace} (h : p.Before q) : ¬ q.Before p := by
  rintro (turn | ⟨turn, name | ⟨name, field⟩⟩)
  · rcases h with turn' | ⟨turn', -⟩ <;> omega
  all_goals
    rcases h with turn' | ⟨-, name' | ⟨name', field'⟩⟩
    · omega
  · exact String.lt_asymm name name'
  · exact String.lt_irrefl _ (name' ▸ name)
  · exact String.lt_irrefl _ (name ▸ name')
  · exact String.lt_asymm field field'

end FieldPlace

namespace SnapshotTemplate

/-- The placeholder at a place of the template. -/
def at? (t : SnapshotTemplate) : FieldPlace → Option Placeholder
  | .blockchain field => t.blockchain.find? field
  | .node name field => (t.nodes.find? name).bind (·.find? field)
  | .blockchainMonitor name field => (t.blockchainMonitors.find? name).bind (·.find? field)
  | .nodeMonitor name field => (t.nodeMonitors.find? name).bind (·.find? field)

/-- The walk over the named parts of one kind. -/
def walkParts (place : String → String → FieldPlace) (parts : NameMap FieldPlaceholders) :
    List (FieldPlace × Placeholder) :=
  parts.entries.flatMap fun part => part.2.entries.map fun e => (place part.1 e.1, e.2)

/-- The walk over the whole template. -/
def walk (t : SnapshotTemplate) : List (FieldPlace × Placeholder) :=
  t.blockchain.entries.map (fun e => (.blockchain e.1, e.2)) ++ walkParts .node t.nodes ++
    walkParts .blockchainMonitor t.blockchainMonitors ++ walkParts .nodeMonitor t.nodeMonitors

theorem map_snd_walkParts (place : String → String → FieldPlace)
    (parts : NameMap FieldPlaceholders) :
    (walkParts place parts).map (·.2) = groupPlaceholders parts := by
  simp only [walkParts, groupPlaceholders, NameMap.values, List.flatMap_def, List.map_flatten,
    List.map_map, Function.comp_def]

/-- The placeholders are listed as they are walked over. -/
theorem map_snd_walk (t : SnapshotTemplate) : t.walk.map (·.2) = t.placeholders := by
  simp only [walk, placeholders, List.map_append, map_snd_walkParts, List.map_map]
  rfl

theorem mem_walkParts {place : String → String → FieldPlace} {parts : NameMap FieldPlaceholders}
    {here : FieldPlace} {p : Placeholder} :
    (here, p) ∈ walkParts place parts ↔
      ∃ name field, here = place name field ∧
        (parts.find? name).bind (·.find? field) = some p := by
  simp only [walkParts, List.mem_flatMap, List.mem_map, Option.bind_eq_some_iff,
    NameMap.find?_eq_some_iff]
  constructor
  · rintro ⟨part, held, e, found, same⟩
    cases same
    exact ⟨part.1, e.1, rfl, part.2, held, found⟩
  · rintro ⟨name, field, rfl, fields, held, found⟩
    exact ⟨(name, fields), held, (field, p), found, rfl⟩

/-- The walk passes every place that has a placeholder. -/
theorem mem_walk {t : SnapshotTemplate} {place : FieldPlace} {p : Placeholder} :
    (place, p) ∈ t.walk ↔ t.at? place = some p := by
  simp only [walk, List.mem_append, mem_walkParts]
  cases place <;> simp [at?, NameMap.find?_eq_some_iff]

/-- The places of a part have its turn, and are told apart by name and field. -/
def IsPart (place : String → String → FieldPlace) (turn : Nat) : Prop :=
  ∀ name field, (place name field).turn = turn ∧ (place name field).name = name ∧
    (place name field).field = field

theorem turn_of_mem_walkParts {place : String → String → FieldPlace} {turn : Nat}
    (h : IsPart place turn) {parts : NameMap FieldPlaceholders} {a : FieldPlace × Placeholder}
    (mem : a ∈ walkParts place parts) : a.1.turn = turn := by
  obtain ⟨here, p⟩ := a
  obtain ⟨name, field, rfl, -⟩ := mem_walkParts.mp mem
  exact (h name field).1

theorem pairwise_walkParts {place : String → String → FieldPlace} {turn : Nat}
    (h : IsPart place turn) (parts : NameMap FieldPlaceholders) :
    (walkParts place parts).Pairwise fun a b => a.1.Before b.1 := by
  have before (name field name' field' : String)
      (h' : name < name' ∨ name = name' ∧ field < field') :
      (place name field).Before (place name' field') := by
    obtain ⟨turn_eq, name_eq, field_eq⟩ := h name field
    obtain ⟨turn_eq', name_eq', field_eq'⟩ := h name' field'
    refine .inr ⟨turn_eq.trans turn_eq'.symm, ?_⟩
    rwa [name_eq, name_eq', field_eq, field_eq']
  refine List.pairwise_flatMap.mpr ⟨fun part _ => ?_, parts.ascending.imp ?_⟩
  · rw [List.pairwise_map]
    exact part.2.ascending.imp fun less => before _ _ _ _ (.inr ⟨rfl, less⟩)
  · intro part part' less a ha b hb
    obtain ⟨e, -, rfl⟩ := List.mem_map.mp ha
    obtain ⟨e', -, rfl⟩ := List.mem_map.mp hb
    exact before _ _ _ _ (.inl less)

/-- A part may follow all that have an earlier turn. -/
theorem pairwise_append_walkParts {front : List (FieldPlace × Placeholder)}
    (ordered : front.Pairwise fun a b => a.1.Before b.1)
    {place : String → String → FieldPlace} {turn : Nat} (h : IsPart place turn)
    (earlier : ∀ a ∈ front, a.1.turn < turn) (parts : NameMap FieldPlaceholders) :
    (front ++ walkParts place parts).Pairwise fun a b => a.1.Before b.1 := by
  refine List.pairwise_append.mpr ⟨ordered, pairwise_walkParts h parts, ?_⟩
  intro a ha b hb
  exact .inl ((earlier a ha).trans_eq (turn_of_mem_walkParts h hb).symm)

/-- The walk goes forward in the order of the places. -/
theorem pairwise_walk (t : SnapshotTemplate) : t.walk.Pairwise fun a b => a.1.Before b.1 := by
  have chain : (t.blockchain.entries.map fun e => (FieldPlace.blockchain e.1, e.2)).Pairwise
      fun a b => a.1.Before b.1 := by
    rw [List.pairwise_map]
    exact t.blockchain.ascending.imp fun less => .inr ⟨rfl, .inr ⟨rfl, less⟩⟩
  have chain_turn : ∀ a ∈ t.blockchain.entries.map fun e => (FieldPlace.blockchain e.1, e.2),
      a.1.turn = 0 := by
    intro a mem
    obtain ⟨e, -, rfl⟩ := List.mem_map.mp mem
    rfl
  have node : IsPart .node 1 := fun _ _ => ⟨rfl, rfl, rfl⟩
  have chainMonitor : IsPart .blockchainMonitor 2 := fun _ _ => ⟨rfl, rfl, rfl⟩
  have nodeMonitor : IsPart .nodeMonitor 3 := fun _ _ => ⟨rfl, rfl, rfl⟩
  refine pairwise_append_walkParts (pairwise_append_walkParts (pairwise_append_walkParts chain
    node ?_ _) chainMonitor ?_ _) nodeMonitor ?_ _
  · intro a mem
    exact (chain_turn a mem).trans_lt (by decide)
  · intro a mem
    rcases List.mem_append.mp mem with mem | mem
    · exact (chain_turn a mem).trans_lt (by decide)
    · exact (turn_of_mem_walkParts node mem).trans_lt (by decide)
  · intro a mem
    rcases List.mem_append.mp mem with mem | mem
    · rcases List.mem_append.mp mem with mem | mem
      · exact (chain_turn a mem).trans_lt (by decide)
      · exact (turn_of_mem_walkParts node mem).trans_lt (by decide)
    · exact (turn_of_mem_walkParts chainMonitor mem).trans_lt (by decide)

/-! ## The read of a template -/

/-- The keys of one kind of look-up that a template asks for: each once, a key before another if
some field has it at a place before all the places of the other. -/
structure AsksFor (t : SnapshotTemplate) (lookup : Lookup) (keys : List String) : Prop where
  nodup : keys.Nodup
  mem : ∀ key, key ∈ keys ↔ ∃ place, t.at? place = some ⟨lookup, key⟩
  ordered : keys.Pairwise fun key other => ∃ place, t.at? place = some ⟨lookup, key⟩ ∧
    ∀ later, t.at? later = some ⟨lookup, other⟩ → place.Before later

theorem mem_placeholders_iff_at? {t : SnapshotTemplate} {p : Placeholder} :
    p ∈ t.placeholders ↔ ∃ place, t.at? place = some p := by
  rw [← map_snd_walk, List.mem_map]
  constructor
  · rintro ⟨⟨place, p⟩, mem, rfl⟩
    exact ⟨place, mem_walk.mp mem⟩
  · rintro ⟨place, found⟩
    exact ⟨(place, p), mem_walk.mpr found, rfl⟩

/-- Among the placeholders in the order of the walk, the first place of a key decides. -/
theorem exists_before_of_comesFirst {t : SnapshotTemplate} {lookup : Lookup} {key other : String}
    (different : key ≠ other) (h : ComesFirst t.placeholders lookup key other) :
    ∃ place, t.at? place = some ⟨lookup, key⟩ ∧
      ∀ later, t.at? later = some ⟨lookup, other⟩ → place.Before later := by
  obtain ⟨front, back, cut, unseen⟩ := h
  rw [← map_snd_walk] at cut
  obtain ⟨walked, rest, walk_eq, rfl, rest_eq⟩ := List.map_eq_append_iff.mp cut
  obtain ⟨⟨place, p⟩, ahead, rfl, rfl, rfl⟩ := List.map_eq_cons_iff.mp rest_eq
  have ordered := t.pairwise_walk
  rw [walk_eq] at ordered
  obtain ⟨-, ordered, -⟩ := List.pairwise_append.mp ordered
  refine ⟨place, mem_walk.mp ?_, fun later found => ?_⟩
  · rw [walk_eq]
    exact List.mem_append_right _ (.head _)
  · have passed := mem_walk.mpr found
    rw [walk_eq, List.mem_append, List.mem_cons] at passed
    rcases passed with passed | passed | passed
    · exact absurd (List.mem_map_of_mem passed) unseen
    · exact absurd (congrArg (fun a => a.2.key) passed).symm different
    · exact List.rel_of_pairwise_cons ordered passed

theorem asksFor_of_keysByFirst {t : SnapshotTemplate} {lookup : Lookup} {keys : List String}
    (h : KeysByFirst t.placeholders lookup keys) : t.AsksFor lookup keys where
  nodup := h.nodup
  mem key := (h.mem key).trans mem_placeholders_iff_at?
  ordered := (h.nodup.and h.ordered).imp fun ⟨different, first⟩ =>
    exists_before_of_comesFirst different first

/-- The order leaves no choice. -/
theorem AsksFor.unique {t : SnapshotTemplate} {lookup : Lookup} {keys keys' : List String}
    (h : t.AsksFor lookup keys) (h' : t.AsksFor lookup keys') : keys = keys' := by
  have same : keys.Perm keys' :=
    (List.perm_ext_iff_of_nodup h.nodup h'.nodup).mpr fun key => (h.mem key).trans (h'.mem key).symm
  refine same.eq_of_pairwise ?_ h.ordered h'.ordered
  rintro key other - - ⟨place, found, before⟩ ⟨place', found', before'⟩
  exact absurd (before' place found) (before place' found').asymm

/-- **Each key once, in the order of the walk**: a read of a template is for the bucket it is given,
and for every key that a field names, at the first place of the key. A text that is a key of both
kinds is asked for once as each. -/
theorem request_minimal (t : SnapshotTemplate) (hashKey : String) :
    let request := t.request hashKey
    request.hashKey = hashKey ∧ t.AsksFor .flat request.flatKeys ∧
      t.AsksFor .hash request.hashFields ∧
      ∀ key place place', t.at? place = some ⟨.flat, key⟩ → t.at? place' = some ⟨.hash, key⟩ →
        request.flatKeys.count key = 1 ∧ request.hashFields.count key = 1 := by
  have covered := (Gathering.covers_takeAll t.placeholders).keys
  have flat : t.AsksFor .flat (t.request hashKey).flatKeys := by
    rw [request_eq_gathered]
    exact asksFor_of_keysByFirst (covered .flat)
  have hash : t.AsksFor .hash (t.request hashKey).hashFields := by
    rw [request_eq_gathered]
    exact asksFor_of_keysByFirst (covered .hash)
  refine ⟨rfl, flat, hash, fun key place place' found found' => ⟨?_, ?_⟩⟩
  · exact List.count_eq_one_of_mem flat.nodup ((flat.mem key).mpr ⟨place, found⟩)
  · exact List.count_eq_one_of_mem hash.nodup ((hash.mem key).mpr ⟨place', found'⟩)

end SnapshotTemplate

end ChainDashboard
