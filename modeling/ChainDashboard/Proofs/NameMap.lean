import ChainDashboard.NameMap
import Mathlib.Data.List.Basic
import Mathlib.Data.List.Induction

/-!
# The last of several values

A map holds one value for a name, the one that was put in last: an earlier one leaves no trace
(`NameMap.insert_insert`), and a map that is made from pairs has the last value of each name
(`NameMap.find?_ofList_eq_some_iff`).
-/

namespace ChainDashboard

/-- The last of the pairs with this name has this value. -/
def LastOf {α : Type u} (name : String) (value : α) (pairs : List (String × α)) : Prop :=
  ∃ before after, pairs = before ++ (name, value) :: after ∧ name ∉ after.map (·.1)

section LastOf

variable {α : Type u} {name : String} {value : α} {pairs : List (String × α)}

theorem not_lastOf_nil : ¬ LastOf name value [] := by
  rintro ⟨before, after, cut, -⟩
  exact List.append_ne_nil_of_right_ne_nil before (List.cons_ne_nil _ _) cut.symm

/-- One more pair counts for its own name, and the others for all other names. -/
theorem lastOf_concat (p : String × α) :
    LastOf name value (pairs ++ [p]) ↔
      if name = p.1 then p.2 = value else LastOf name value pairs := by
  constructor
  · rintro ⟨before, after, cut, unseen⟩
    rcases List.eq_nil_or_concat after with rfl | ⟨after, last, rfl⟩
    · obtain ⟨-, same⟩ := List.append_inj' cut rfl
      obtain rfl := List.singleton_inj.mp same
      exact if_pos rfl ▸ rfl
    · have cut : pairs ++ [p] = (before ++ (name, value) :: after) ++ [last] := by simpa using cut
      obtain ⟨rfl, same⟩ := List.append_inj' cut rfl
      obtain rfl := List.singleton_inj.mp same
      simp only [List.concat_eq_append, List.map_append, List.mem_append, not_or,
        List.map_singleton, List.mem_singleton] at unseen
      rw [if_neg unseen.2]
      exact ⟨before, after, rfl, unseen.1⟩
  · intro counts
    split at counts
    · rename_i same
      exact ⟨pairs, [], by rw [same, ← counts], List.not_mem_nil⟩
    · rename_i other
      obtain ⟨before, after, rfl, unseen⟩ := counts
      exact ⟨before, after ++ [p], by simp, by simp [unseen, other]⟩

end LastOf

namespace NameMap

variable {α : Type u}

theorem insert_insert (m : NameMap α) (name : String) (first second : α) :
    (m.insert name first).insert name second = m.insert name second := by
  apply ext_find?
  intro other
  simp only [find?_insert]
  split <;> rfl

/-- A map of pairs holds the last value of each name. -/
theorem find?_ofList_eq_some_iff {pairs : List (String × α)} {name : String} {value : α} :
    (ofList pairs).find? name = some value ↔ LastOf name value pairs := by
  induction pairs using List.reverseRecOn with
  | nil => exact iff_of_false nofun not_lastOf_nil
  | append_singleton pairs p ih =>
    have added : ofList (pairs ++ [p]) = (ofList pairs).insert p.1 p.2 := List.foldl_concat ..
    rw [added, find?_insert, lastOf_concat]
    split
    · exact Option.some_inj
    · exact ih

theorem eq_ofList_iff {m : NameMap α} {pairs : List (String × α)} :
    m = ofList pairs ↔ ∀ name value, m.find? name = some value ↔ LastOf name value pairs := by
  constructor
  · rintro rfl _ _
    exact find?_ofList_eq_some_iff
  · intro held
    exact ext_find? fun name => Option.ext fun value =>
      (held name value).trans find?_ofList_eq_some_iff.symm

end NameMap

end ChainDashboard
