import ChainDashboard.Proofs.NameMap
import ChainDashboard.Snapshot.Template

/-!
# Which value a key gets

A reply is taken if it has as many values of each kind as were asked for. Its values are put under
their keys one after the other, so a key that is asked for several times ends up with the value at
its last place, be it one or none. The two kinds of look-up are kept apart, so a text that is asked
for as both has a value for each (`FetchedValues.values_at_last_places`).
-/

namespace ChainDashboard

/-! ## The last place of a key -/

/-- The last place at which a list has the key. -/
structure LastPlace (keys : List String) (key : String) (place : Nat) : Prop where
  here : keys[place]? = some key
  last : ∀ later, place < later → keys[later]? ≠ some key

section LastPlace

variable {keys : List String} {key : String} {place : Nat}

theorem not_lastPlace_nil : ¬ LastPlace [] key place := fun h => nomatch h.here

theorem LastPlace.lt_length (h : LastPlace keys key place) : place < keys.length :=
  (List.getElem?_eq_some_iff.mp h.here).1

theorem getElem?_concat_iff (added : String) :
    (keys ++ [added])[place]? = some key ↔
      keys[place]? = some key ∨ place = keys.length ∧ key = added := by
  rcases Nat.lt_trichotomy place keys.length with inside | rfl | outside
  · simp [List.getElem?_append_left inside, Nat.ne_of_lt inside]
  · simp [eq_comm]
  · have beyond : (keys ++ [added]).length ≤ place := by
      rw [List.length_append, List.length_singleton]
      exact outside
    simp [List.getElem?_eq_none beyond, List.getElem?_eq_none (Nat.le_of_lt outside),
      Nat.ne_of_gt outside]

/-- One more key is at its own last place, and leaves the places of all other keys. -/
theorem lastPlace_concat (added : String) :
    LastPlace (keys ++ [added]) key place ↔
      if key = added then place = keys.length else LastPlace keys key place := by
  have bound {i : Nat} (h : keys[i]? = some key) : i < keys.length :=
    (List.getElem?_eq_some_iff.mp h).1
  split
  · rename_i same
    have atEnd : (keys ++ [added])[keys.length]? = some key :=
      (getElem?_concat_iff added).mpr (.inr ⟨rfl, same⟩)
    constructor
    · -- the key is at the end, so no earlier place is its last
      intro h
      rcases (getElem?_concat_iff added).mp h.here with earlier | ⟨here, -⟩
      · exact absurd atEnd (h.last keys.length (bound earlier))
      · exact here
    · rintro rfl
      refine ⟨atEnd, fun later after found => ?_⟩
      rcases (getElem?_concat_iff added).mp found with earlier | ⟨here, -⟩
      · exact Nat.lt_asymm after (bound earlier)
      · exact Nat.ne_of_gt after here
  · rename_i other
    have kept (i : Nat) : (keys ++ [added])[i]? = some key ↔ keys[i]? = some key := by
      simp only [getElem?_concat_iff, other, and_false, or_false]
    constructor
    · intro h
      exact ⟨(kept place).mp h.here, fun later after => mt (kept later).mpr (h.last later after)⟩
    · intro h
      exact ⟨(kept place).mpr h.here, fun later after => mt (kept later).mp (h.last later after)⟩

end LastPlace

/-- Keys with values in the same order: the last pair with a key is at the key's last place. -/
theorem lastOf_zip {α : Type u} {keys : List String} {values : List α}
    (paired : values.length = keys.length) {key : String} {value : α} :
    LastOf key value (keys.zip values) ↔
      ∃ place, LastPlace keys key place ∧ values[place]? = some value := by
  -- by what is put in last, as the map is filled
  induction keys using List.reverseRecOn generalizing values with
  | nil =>
    refine iff_of_false not_lastOf_nil ?_
    rintro ⟨place, last, -⟩
    exact not_lastPlace_nil last
  | append_singleton keys added ih =>
    rcases List.eq_nil_or_concat values with rfl | ⟨values, newest, rfl⟩
    · simp at paired
    simp only [List.concat_eq_append, List.length_append, List.length_singleton,
      Nat.add_right_cancel_iff] at paired ⊢
    rw [List.zip_append paired.symm, List.zip_cons_cons, List.zip_nil_left, lastOf_concat]
    simp only [lastPlace_concat]
    split
    · simp [← paired]
    · rw [ih paired]
      refine exists_congr fun place => and_congr_right fun last => ?_
      rw [List.getElem?_append_left (paired ▸ last.lt_length)]

namespace NameMap

variable {α : Type u} {keys : List String} {values : List α} {key : String}

/-- A map of keys with their values has each key's value at its last place. -/
theorem find?_ofList_zip_eq_some (paired : values.length = keys.length) {value : α} :
    (ofList (keys.zip values)).find? key = some value ↔
      ∃ place, LastPlace keys key place ∧ values[place]? = some value :=
  find?_ofList_eq_some_iff.trans (lastOf_zip paired)

theorem exists_find?_ofList_zip (paired : values.length = keys.length) :
    (∃ value, (ofList (keys.zip values)).find? key = some value) ↔ key ∈ keys := by
  rw [← mem_keys_iff, mem_keys_ofList]
  show key ∈ (keys.zip values).map Prod.fst ↔ _
  rw [List.map_fst_zip (Nat.le_of_eq paired.symm)]

end NameMap

/-! ## Replies -/

/-- The keys that are asked for by one kind of look-up. -/
def StoreRequest.asked (r : StoreRequest) : Lookup → List String
  | .flat => r.flatKeys
  | .hash => r.hashFields

/-- The values of a reply for one kind of look-up. -/
def StoreReply.given (r : StoreReply) : Lookup → List (Option String)
  | .flat => r.flat
  | .hash => r.hash

namespace FetchedValues

variable {request : StoreRequest} {reply : StoreReply} {values : FetchedValues}

theorem fits_iff : fits request reply = true ↔
    reply.flat.length = request.flatKeys.length ∧ reply.hash.length = request.hashFields.length := by
  simp only [fits, Bool.and_eq_true, beq_iff_eq]

/-- A reply that is taken has a value for every key. -/
theorem paired_of_zip (taken : zip request reply = .ok values) (lookup : Lookup) :
    (reply.given lookup).length = (request.asked lookup).length := by
  rw [zip] at taken
  split at taken
  · rename_i shape
    obtain ⟨flat, hash⟩ := fits_iff.mp shape
    cases lookup
    · exact flat
    · exact hash
  · cases taken

theorem get_of_zip (taken : zip request reply = .ok values) (p : Placeholder) :
    values.get p =
      ((NameMap.ofList ((request.asked p.lookup).zip (reply.given p.lookup))).find? p.key).join := by
  rw [zip] at taken
  split at taken
  · cases taken
    obtain ⟨lookup, key⟩ := p
    cases lookup <;> rfl
  · cases taken

theorem zip_eq_error_iff {e : StoreError} : zip request reply = .error e ↔
    (reply.flat.length ≠ request.flatKeys.length ∨
      reply.hash.length ≠ request.hashFields.length) ∧ e = shapeMismatch request reply := by
  rw [← not_and_or, ← fits_iff, zip]
  split
  · rename_i shape
    exact iff_of_false nofun fun h => h.1 shape
  · rename_i shape
    rw [Except.error.injEq, eq_comm]
    exact (and_iff_right shape).symm

/-- **Each key has the value at its last place**: a reply is refused exactly if it has too many or
too few values of some kind, and one that is taken gives a placeholder the value at the last place
of its key among the keys of its own kind of look-up, and none if the key is not among them. -/
theorem values_at_last_places (request : StoreRequest) (reply : StoreReply) :
    (∀ e, zip request reply = .error e ↔
      (reply.flat.length ≠ request.flatKeys.length ∨
        reply.hash.length ≠ request.hashFields.length) ∧ e = shapeMismatch request reply) ∧
    ∀ values, zip request reply = .ok values → ∀ p : Placeholder,
      (p.key ∈ request.asked p.lookup → ∃ place,
        LastPlace (request.asked p.lookup) p.key place ∧
          (reply.given p.lookup)[place]? = some (values.get p)) ∧
      (p.key ∉ request.asked p.lookup → values.get p = none) := by
  refine ⟨fun e => zip_eq_error_iff, fun values taken p => ?_⟩
  have paired := paired_of_zip taken p.lookup
  rw [get_of_zip taken]
  constructor
  · intro asked
    obtain ⟨value, found⟩ := (NameMap.exists_find?_ofList_zip paired).mpr asked
    obtain ⟨place, last, held⟩ := (NameMap.find?_ofList_zip_eq_some paired).mp found
    refine ⟨place, last, ?_⟩
    rw [held, found, Option.join_some]
  · intro unasked
    have missing := mt (NameMap.exists_find?_ofList_zip paired).mp unasked
    rw [Option.eq_none_iff_forall_ne_some.mpr (not_exists.mp missing), Option.join_none]

/-- A key that is asked for twice and a text that is a key of both kinds. -/
example :
    (zip ⟨["k", "m", "k"], "bucket", ["k"]⟩ ⟨[some "first", none, none], [some "field"]⟩).map
      (fun values => [values.get ⟨.flat, "k"⟩, values.get ⟨.hash, "k"⟩, values.get ⟨.hash, "m"⟩]) =
    .ok [none, some "field", none] := by
  decide

end FetchedValues

end ChainDashboard
