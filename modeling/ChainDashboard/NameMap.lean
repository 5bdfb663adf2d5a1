/-!
Finite maps whose keys are names. The entries are kept in strictly ascending code-point order, so
a map has exactly one representation and listing it needs no sorting. Every operation has one
lemma that says what it does to look-up (`find?_insert`, `find?_ofList`, `find?_mapValues`, …), and
`NameMap.ext_find?` turns equal look-ups into equal maps.
-/
namespace ChainDashboard

/-- Entries in strictly ascending order of their names. -/
def Ascending {α : Type u} (entries : List (String × α)) : Prop :=
  entries.Pairwise (fun a b => a.1 < b.1)

/-- A finite map from names to values, listed in ascending order of the names. -/
structure NameMap (α : Type u) where
  entries : List (String × α)
  ascending : Ascending entries

namespace NameMap

variable {α : Type u} {β : Type v}

/-! ## Entry lists -/

/-- The value stored under a name. -/
def lookup (name : String) : List (String × α) → Option α
  | [] => none
  | (other, value) :: rest => if name = other then some value else lookup name rest

/-- Puts a value at its place in the order, over the value the name had. -/
def insertEntry (name : String) (value : α) : List (String × α) → List (String × α)
  | [] => [(name, value)]
  | (other, held) :: rest =>
    if name = other then (name, value) :: rest
    else if name < other then (name, value) :: (other, held) :: rest
    else (other, held) :: insertEntry name value rest

theorem mem_insertEntry {name : String} {value : α} {entry : String × α}
    {entries : List (String × α)} (h : entry ∈ insertEntry name value entries) :
    entry = (name, value) ∨ entry ∈ entries := by
  induction entries with
  | nil => simpa [insertEntry] using h
  | cons head rest ih =>
    obtain ⟨other, held⟩ := head
    rw [insertEntry] at h
    split at h
    · rcases List.mem_cons.mp h with h | h
      · exact .inl h
      · exact .inr (List.mem_cons_of_mem _ h)
    · split at h
      · exact List.mem_cons.mp h
      · rcases List.mem_cons.mp h with h | h
        · exact .inr (h ▸ List.mem_cons_self)
        · rcases ih h with h | h
          · exact .inl h
          · exact .inr (List.mem_cons_of_mem _ h)

theorem ascending_insertEntry (name : String) (value : α) {entries : List (String × α)}
    (h : Ascending entries) : Ascending (insertEntry name value entries) := by
  induction entries with
  | nil => simp [insertEntry, Ascending]
  | cons head rest ih =>
    obtain ⟨other, held⟩ := head
    obtain ⟨below, sorted⟩ := List.pairwise_cons.mp h
    rw [insertEntry]
    split
    · rename_i same
      exact List.pairwise_cons.mpr ⟨fun e he => same ▸ below e he, sorted⟩
    · split
      · rename_i less
        refine List.pairwise_cons.mpr ⟨fun e he => ?_, h⟩
        rcases List.mem_cons.mp he with he | he
        · exact he ▸ less
        · exact String.lt_trans less (below e he)
      · rename_i different notLess
        refine List.pairwise_cons.mpr ⟨fun e he => ?_, ih sorted⟩
        rcases mem_insertEntry he with he | he
        · subst he
          have le : other ≤ name := String.not_lt.mp notLess
          by_cases less : other < name
          · exact less
          · exact absurd (String.le_antisymm (String.not_lt.mp less) le) different
        · exact below e he

theorem lookup_insertEntry (name other : String) (value : α) (entries : List (String × α)) :
    lookup other (insertEntry name value entries) =
      if other = name then some value else lookup other entries := by
  induction entries with
  | nil => simp [insertEntry, lookup]
  | cons head rest ih =>
    obtain ⟨key, held⟩ := head
    rw [insertEntry]
    split
    · rename_i same
      subst same
      by_cases h : other = name <;> simp [lookup, h]
    · split
      · simp [lookup]
      · rename_i different _
        by_cases h : other = key
        · have h' : other ≠ name := fun e => different (e ▸ h)
          have h'' : key ≠ name := fun e => different e.symm
          simp [lookup, h, h'']
        · simp [lookup, h, ih]

theorem lookup_eq_none_of_forall {name : String} {entries : List (String × α)}
    (h : ∀ e ∈ entries, name ≠ e.1) : lookup name entries = none := by
  induction entries with
  | nil => rfl
  | cons head rest ih =>
    obtain ⟨other, held⟩ := head
    have h' : name ≠ other := h _ List.mem_cons_self
    simp only [lookup, h', if_false]
    exact ih fun e he => h e (List.mem_cons_of_mem _ he)

theorem lookup_ne_none_of_mem {entry : String × α} {entries : List (String × α)}
    (h : entry ∈ entries) : lookup entry.1 entries ≠ none := by
  induction entries with
  | nil => simp at h
  | cons head rest ih =>
    rw [lookup]
    split
    · simp
    · rename_i different
      rcases List.mem_cons.mp h with h | h
      · exact absurd (congrArg Prod.fst h) different
      · exact ih h

theorem mem_of_lookup {name : String} {value : α} {entries : List (String × α)}
    (h : lookup name entries = some value) : (name, value) ∈ entries := by
  induction entries with
  | nil => simp [lookup] at h
  | cons head rest ih =>
    obtain ⟨other, held⟩ := head
    rw [lookup] at h
    split at h
    · rename_i same
      cases h
      exact same ▸ List.mem_cons_self
    · exact List.mem_cons_of_mem _ (ih h)

theorem lookup_of_mem {name : String} {value : α} {entries : List (String × α)}
    (sorted : Ascending entries) (h : (name, value) ∈ entries) :
    lookup name entries = some value := by
  induction entries with
  | nil => simp at h
  | cons head rest ih =>
    obtain ⟨other, held⟩ := head
    obtain ⟨below, sorted⟩ := List.pairwise_cons.mp sorted
    rcases List.mem_cons.mp h with h | h
    · cases h
      simp [lookup]
    · have less : other < name := below _ h
      have : name ≠ other := fun e => String.lt_irrefl other (e ▸ less)
      simp [lookup, this, ih sorted h]

theorem entries_ext {left right : List (String × α)} (hl : Ascending left)
    (hr : Ascending right) (h : ∀ name, lookup name left = lookup name right) : left = right := by
  induction left generalizing right with
  | nil =>
    cases right with
    | nil => rfl
    | cons head rest =>
      have := h head.1
      simp [lookup] at this
  | cons a left ih =>
    obtain ⟨ka, va⟩ := a
    obtain ⟨la, hl'⟩ := List.pairwise_cons.mp hl
    cases right with
    | nil =>
      have := h ka
      simp [lookup] at this
    | cons b right =>
      obtain ⟨kb, vb⟩ := b
      obtain ⟨lb, hr'⟩ := List.pairwise_cons.mp hr
      have same : ka = kb := by
        have ha := h ka
        have hb := h kb
        simp only [lookup, if_true] at ha hb
        by_cases e : ka = kb
        · exact e
        · rw [if_neg e] at ha
          rw [if_neg (fun e' => e e'.symm)] at hb
          have h1 : kb < ka := lb _ (mem_of_lookup ha.symm)
          have h2 : ka < kb := la _ (mem_of_lookup hb)
          exact absurd h1 (String.lt_asymm h2)
      subst same
      have value : va = vb := by simpa [lookup] using h ka
      subst value
      refine congrArg _ (ih hl' hr' fun name => ?_)
      by_cases e : name = ka
      · subst e
        have none_left : lookup name left = none :=
          lookup_eq_none_of_forall fun x hx e => String.lt_irrefl name (by
            have := la x hx; rwa [← e] at this)
        have none_right : lookup name right = none :=
          lookup_eq_none_of_forall fun x hx e => String.lt_irrefl name (by
            have := lb x hx; rwa [← e] at this)
        rw [none_left, none_right]
      · simpa [lookup, e] using h name

/-! ## Maps -/

/-- The map without entries. -/
def empty : NameMap α := ⟨[], List.Pairwise.nil⟩

instance : Inhabited (NameMap α) := ⟨empty⟩

instance : EmptyCollection (NameMap α) := ⟨empty⟩

instance [DecidableEq α] : DecidableEq (NameMap α) := fun a b =>
  decidable_of_iff (a.entries = b.entries)
    ⟨fun h => by cases a; cases b; cases h; rfl, fun h => h ▸ rfl⟩

/-- The value held under `name`. -/
def find? (m : NameMap α) (name : String) : Option α := lookup name m.entries

/-- Whether `name` holds a value. -/
def contains (m : NameMap α) (name : String) : Bool := (m.find? name).isSome

/-- Holds `value` under `name`, in place of any value held there before. -/
def insert (m : NameMap α) (name : String) (value : α) : NameMap α :=
  ⟨insertEntry name value m.entries, ascending_insertEntry name value m.ascending⟩

/-- The map that holds the given pairs; of several pairs with one name the last stands. -/
def ofList (pairs : List (String × α)) : NameMap α :=
  pairs.foldl (fun m p => m.insert p.1 p.2) empty

/-- The names, ascending. -/
def keys (m : NameMap α) : List String := m.entries.map (·.1)

/-- The values, in the order of their names. -/
def values (m : NameMap α) : List α := m.entries.map (·.2)

/-- The number of entries. -/
def size (m : NameMap α) : Nat := m.entries.length

/-- Whether there is no entry. -/
def isEmpty (m : NameMap α) : Bool := m.entries.isEmpty

/-- The same names, with each value replaced by one made from it and its name. -/
def mapEntries (m : NameMap α) (f : String → α → β) : NameMap β :=
  ⟨m.entries.map fun e => (e.1, f e.1 e.2), by
    have := m.ascending
    unfold Ascending at *
    rwa [List.pairwise_map]⟩

/-- The same names with every value transformed. -/
def mapValues (m : NameMap α) (f : α → β) : NameMap β := m.mapEntries fun _ v => f v

/-- The entries that pass a test. -/
def filter (m : NameMap α) (keep : String → α → Bool) : NameMap α :=
  ⟨m.entries.filter fun e => keep e.1 e.2, m.ascending.filter _⟩

/-- The map without `name`. -/
def erase (m : NameMap α) (name : String) : NameMap α :=
  m.filter fun other _ => other ≠ name

/-! ## What the operations do to look-up -/

theorem ext_find? {a b : NameMap α} (h : ∀ name, a.find? name = b.find? name) : a = b := by
  obtain ⟨ea, ha⟩ := a
  obtain ⟨eb, hb⟩ := b
  have : ea = eb := entries_ext ha hb h
  subst this
  rfl

theorem find?_eq_some_iff {m : NameMap α} {name : String} {value : α} :
    m.find? name = some value ↔ (name, value) ∈ m.entries :=
  ⟨mem_of_lookup, lookup_of_mem m.ascending⟩

@[simp] theorem find?_empty (name : String) : (empty : NameMap α).find? name = none := rfl

@[simp] theorem keys_empty : (empty : NameMap α).keys = [] := rfl

theorem find?_insert (m : NameMap α) (name other : String) (value : α) :
    (m.insert name value).find? other = if other = name then some value else m.find? other :=
  lookup_insertEntry name other value m.entries

theorem lookup_append (name : String) (front back : List (String × α)) :
    lookup name (front ++ back) = (lookup name front).or (lookup name back) := by
  induction front with
  | nil => rfl
  | cons head rest ih => by_cases h : name = head.1 <;> simp [lookup, h, ih]

theorem find?_foldl_insert (pairs : List (String × α)) (m : NameMap α) (name : String) :
    (pairs.foldl (fun m p => m.insert p.1 p.2) m).find? name =
      (lookup name pairs.reverse).or (m.find? name) := by
  induction pairs generalizing m with
  | nil => rfl
  | cons head rest ih =>
    rw [List.foldl_cons, ih, List.reverse_cons, lookup_append, find?_insert]
    by_cases h : name = head.1 <;> simp [lookup, h]

/-- Of several pairs with one name the last stands. -/
theorem find?_ofList (pairs : List (String × α)) (name : String) :
    (ofList pairs).find? name = lookup name pairs.reverse := by
  rw [ofList, find?_foldl_insert, find?_empty, Option.or_none]

theorem contains_iff_mem_keys {m : NameMap α} {name : String} :
    m.contains name = true ↔ name ∈ m.keys := by
  simp only [contains, Option.isSome_iff_exists, find?_eq_some_iff, keys, List.mem_map]
  exact ⟨fun ⟨v, h⟩ => ⟨(name, v), h, rfl⟩, fun ⟨e, h, he⟩ => ⟨e.2, he ▸ h⟩⟩

theorem mem_keys_iff {m : NameMap α} {name : String} :
    name ∈ m.keys ↔ ∃ value, m.find? name = some value := by
  rw [← contains_iff_mem_keys, contains, Option.isSome_iff_exists]

theorem mem_values_iff {m : NameMap α} {value : α} :
    value ∈ m.values ↔ ∃ name, m.find? name = some value := by
  simp only [values, List.mem_map, find?_eq_some_iff]
  exact ⟨fun ⟨e, h, he⟩ => ⟨e.1, he ▸ h⟩, fun ⟨name, h⟩ => ⟨(name, value), h, rfl⟩⟩

theorem pairwise_keys (m : NameMap α) : m.keys.Pairwise (· < ·) :=
  List.pairwise_map.mpr m.ascending

theorem lookup_of_distinct {name : String} {value : α} {entries : List (String × α)}
    (distinct : (entries.map (·.1)).Nodup) (h : (name, value) ∈ entries) :
    lookup name entries = some value := by
  induction entries with
  | nil => simp at h
  | cons head rest ih =>
    obtain ⟨other, held⟩ := head
    obtain ⟨fresh, distinct⟩ := List.nodup_cons.mp distinct
    rcases List.mem_cons.mp h with h | h
    · cases h
      simp [lookup]
    · have : name ≠ other := fun e => fresh (e ▸ List.mem_map.mpr ⟨_, h, rfl⟩)
      simp [lookup, this, ih distinct h]

/-- Pairs with distinct names are all held. -/
theorem find?_ofList_of_mem {pairs : List (String × α)} (distinct : (pairs.map (·.1)).Nodup)
    {name : String} {value : α} (h : (name, value) ∈ pairs) :
    (ofList pairs).find? name = some value := by
  rw [find?_ofList]
  refine lookup_of_distinct ?_ (List.mem_reverse.mpr h)
  rw [List.map_reverse]
  exact List.pairwise_reverse.mpr (distinct.imp Ne.symm)

theorem mem_of_find?_ofList {pairs : List (String × α)} {name : String} {value : α}
    (h : (ofList pairs).find? name = some value) : (name, value) ∈ pairs := by
  rw [find?_ofList] at h
  exact List.mem_reverse.mp (mem_of_lookup h)

theorem mem_keys_ofList {pairs : List (String × α)} {name : String} :
    name ∈ (ofList pairs).keys ↔ name ∈ pairs.map (·.1) := by
  rw [mem_keys_iff]
  constructor
  · rintro ⟨value, h⟩
    exact List.mem_map.mpr ⟨_, mem_of_find?_ofList h, rfl⟩
  · intro h
    rw [find?_ofList, ← Option.isSome_iff_exists, ← Option.ne_none_iff_isSome]
    intro missing
    obtain ⟨p, hp, rfl⟩ := List.mem_map.mp h
    exact lookup_ne_none_of_mem (List.mem_reverse.mpr hp) missing

theorem lookup_map_names (names : List String) (f : String → α) (name : String) :
    lookup name (names.map fun n => (n, f n)) = if name ∈ names then some (f name) else none := by
  induction names with
  | nil => rfl
  | cons head rest ih => by_cases h : name = head <;> simp [lookup, h, ih]

/-- The map that holds under each of some names what a function makes of the name. -/
theorem find?_ofList_map (names : List String) (f : String → α) (name : String) :
    (ofList (names.map fun n => (n, f n))).find? name =
      if name ∈ names then some (f name) else none := by
  rw [find?_ofList, ← List.map_reverse, lookup_map_names]
  simp only [List.mem_reverse]

theorem lookup_map (f : String → α → β) (name : String) (entries : List (String × α)) :
    lookup name (entries.map fun e => (e.1, f e.1 e.2)) = (lookup name entries).map (f name) := by
  induction entries with
  | nil => rfl
  | cons head rest ih => by_cases h : name = head.1 <;> simp [lookup, h, ih]

theorem find?_mapEntries (m : NameMap α) (f : String → α → β) (name : String) :
    (m.mapEntries f).find? name = (m.find? name).map (f name) :=
  lookup_map f name m.entries

theorem find?_mapValues (m : NameMap α) (f : α → β) (name : String) :
    (m.mapValues f).find? name = (m.find? name).map f :=
  m.find?_mapEntries (fun _ v => f v) name

@[simp] theorem keys_mapValues (m : NameMap α) (f : α → β) : (m.mapValues f).keys = m.keys := by
  simp [keys, mapValues, mapEntries]

theorem mapValues_mapValues {γ : Type w} (m : NameMap α) (f : α → β) (g : β → γ) :
    (m.mapValues f).mapValues g = m.mapValues fun value => g (f value) := by
  apply ext_find?
  intro name
  simp only [find?_mapValues, Option.map_map]
  rfl

theorem mapValues_congr {m : NameMap α} {f g : α → β} (h : ∀ value ∈ m.values, f value = g value) :
    m.mapValues f = m.mapValues g := by
  apply ext_find?
  intro name
  rw [find?_mapValues, find?_mapValues]
  cases held : m.find? name with
  | none => rfl
  | some value => exact congrArg some (h value (mem_values_iff.mpr ⟨name, held⟩))

theorem find?_filter (m : NameMap α) (keep : String → α → Bool) (name : String) :
    (m.filter keep).find? name = (m.find? name).filter (keep name) := by
  apply Option.ext
  intro value
  rw [find?_eq_some_iff, Option.filter_eq_some_iff, find?_eq_some_iff]
  simp [filter]

end NameMap

/-! ## Sets of names -/

/-- A finite set of names, listed in ascending order. -/
abbrev NameSet := NameMap Unit

namespace NameSet

/-- The set of the given names. -/
def ofNames (names : List String) : NameSet := NameMap.ofList (names.map (·, ()))

end NameSet

end ChainDashboard
