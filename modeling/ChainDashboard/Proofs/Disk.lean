import ChainDashboard.Disk
import Mathlib.Data.List.DropRight

/-!
# Files within a directory

The path of a file is made from the path of a directory and a name, and taken apart again to find
the directory to watch. Taking it apart gives the name back (`Path.fileName?_within`). The path of
the directory may come back in another form, without the slashes and dots at its end, but it leads
to the same place, or fails for the same reason (`Disk.arriveAt_within`).
-/

namespace ChainDashboard

namespace Path

/-- A text that can name a file. -/
def isName (name : String) : Bool := !isIdle name && name ≠ ".." && !name.toList.contains '/'

/-! ## Parts -/

theorem parts_ne_nil (path : String) : parts path ≠ [] := by simp [parts, List.splitOn_ne_nil]

theorem parts_append_slash (before after : String) :
    parts (before ++ "/" ++ after) = parts before ++ parts after := by
  have chars : (before ++ "/" ++ after).toList = before.toList ++ '/' :: after.toList := by simp
  rw [parts, chars, List.splitOn_append_cons_self, List.map_append, parts, parts]

theorem parts_of_notMem {part : String} (noSlash : '/' ∉ part.toList) : parts part = [part] := by
  rw [parts, List.splitOn_eq_singleton noSlash, List.map_singleton, String.ofList_toList]

theorem notMem_of_mem_splitOn {cs part : List Char} (mem : part ∈ cs.splitOn '/') : '/' ∉ part := by
  induction cs generalizing part with
  | nil =>
    rw [List.splitOn_nil, List.mem_singleton] at mem
    simp [mem]
  | cons c rest ih =>
    obtain ⟨first, others, cut⟩ := List.exists_cons_of_ne_nil (List.splitOn_ne_nil '/' rest)
    rw [cut] at ih
    rw [List.splitOn_cons_eq_if_modifyHead, cut] at mem
    by_cases slash : c = '/'
    · simp only [slash, beq_self_eq_true, if_true, List.mem_cons] at mem
      rcases mem with rfl | mem
      · simp
      · exact ih (List.mem_cons.mpr mem)
    · simp only [beq_iff_eq, slash, if_false, List.modifyHead_cons, List.mem_cons] at mem
      rcases mem with rfl | mem
      · simpa [Ne.symm slash] using ih List.mem_cons_self
      · exact ih (List.mem_cons_of_mem _ mem)

theorem notMem_of_mem_parts {path part : String} (mem : part ∈ parts path) :
    '/' ∉ part.toList := by
  obtain ⟨cs, cut, rfl⟩ := List.mem_map.mp mem
  rw [String.toList_ofList]
  exact notMem_of_mem_splitOn cut

theorem parts_intercalate {ps : List String} (nonempty : ps ≠ [])
    (noSlash : ∀ p ∈ ps, '/' ∉ p.toList) : parts (String.intercalate "/" ps) = ps := by
  induction ps with
  | nil => exact absurd rfl nonempty
  | cons p rest ih =>
    obtain ⟨first, others⟩ := List.forall_mem_cons.mp noSlash
    by_cases last : rest = []
    · rw [last, String.intercalate_singleton, parts_of_notMem first]
    · rw [String.intercalate_cons_of_ne_nil last, parts_append_slash, parts_of_notMem first,
        ih last others, List.singleton_append]

/-- A path starts at the root if its first part is empty, unless it is empty as a whole. -/
theorem isAbsolute_iff {path : String} (nonempty : path ≠ "") :
    isAbsolute path = true ↔ (parts path).head? = some "" := by
  rw [isAbsolute, String.startsWith_string_iff, parts]
  cases chars : path.toList with
  | nil => exact absurd (String.toList_eq_nil_iff.mp chars) nonempty
  | cons c rest =>
    rw [List.splitOn_cons_eq_if_modifyHead]
    by_cases slash : c = '/'
    · simp [slash]
    · obtain ⟨first, others, cut⟩ := List.exists_cons_of_ne_nil (List.splitOn_ne_nil '/' rest)
      simp [slash, cut, Ne.symm slash]

/-! ## A name in a directory -/

/-- The path of a name in a directory, cut before the name. The front may lack a slash that the
path of the directory has at its end. -/
theorem within_cases {dir : String} (nonempty : dir ≠ "") (name : String) :
    ∃ front, within dir name = front ++ "/" ++ name ∧ (dir = front ∨ dir = front ++ "/") := by
  rw [within]
  by_cases slash : dir.endsWith "/"
  · have suffix : "/".toList <:+ dir.toList := by
      simpa [← String.endsWith_toSlice] using slash
    obtain ⟨front, chars⟩ := suffix
    have cut : dir = String.ofList front ++ "/" := by
      apply String.toList_injective
      simp [← chars]
    refine ⟨String.ofList front, ?_, .inr cut⟩
    rw [if_pos (by simp [slash]), cut]
  · exact ⟨dir, if_neg (by simp [nonempty, slash]), .inl rfl⟩

theorem trimmedParts_concat {name : String} (named : isName name = true) (ps : List String) :
    trimmedParts (ps ++ [name]) = ps ++ [name] := by
  have idle : isIdle name = false := by
    simp only [isName, Bool.and_eq_true, Bool.not_eq_true'] at named
    exact named.1.1
  cases ps with
  | nil => rfl
  | cons first rest =>
    rw [List.cons_append, trimmedParts, List.reverse_append, List.reverse_singleton,
      List.singleton_append, List.dropWhile_cons_of_neg (by simp [idle]), List.reverse_cons,
      List.reverse_reverse]

theorem parts_of_isName {name : String} (named : isName name = true) : parts name = [name] := by
  refine parts_of_notMem ?_
  simp only [isName, Bool.and_eq_true, Bool.not_eq_true', List.contains_eq_mem,
    decide_eq_false_iff_not] at named
  exact named.2

/-- The name of a file in a directory is found in its path. -/
theorem fileName?_within {dir name : String} (nonempty : dir ≠ "") (named : isName name = true) :
    fileName? (within dir name) = some name := by
  obtain ⟨front, path, -⟩ := within_cases nonempty name
  rw [fileName?, path, parts_append_slash, parts_of_isName named, trimmedParts_concat named,
    List.getLast?_concat]
  simp only [isName, Bool.and_eq_true, Bool.not_eq_true', decide_eq_true_eq] at named
  simp [named.1]

/-! ## The directory of a file -/

/-- Parts end with idle ones, if they are not left out. -/
theorem trimmedParts_append_idle {ps : List String} (nonempty : ps ≠ []) :
    ∃ idle, ps = trimmedParts ps ++ idle ∧ ∀ part ∈ idle, isIdle part = true := by
  cases ps with
  | nil => exact absurd rfl nonempty
  | cons first rest =>
    refine ⟨rest.rtakeWhile isIdle, ?_, fun part mem => List.mem_rtakeWhile_imp mem⟩
    rw [trimmedParts, List.cons_append]
    exact congrArg (first :: ·) List.rdropWhile_append_rtakeWhile.symm

theorem head?_trimmedParts (ps : List String) : (trimmedParts ps).head? = ps.head? := by
  cases ps <;> rfl

/-- The path that has some parts, without the idle ones at the end. -/
def trimmedPath (ps : List String) : String :=
  match trimmedParts ps with
  | [] => "."
  | [""] => "/"
  | ps => String.intercalate "/" ps

theorem directory_within {front name : String} (named : isName name = true) :
    directory (front ++ "/" ++ name) = trimmedPath (parts front) := by
  rw [directory, parts_append_slash, parts_of_isName named, trimmedParts_concat named,
    List.dropLast_concat]
  rfl

/-- What trimming does to a path: there is only a slash left, or idle parts are gone. -/
theorem trimmedPath_cases (front : String) :
    trimmedParts (parts front) = [""] ∧ trimmedPath (parts front) = "/" ∨
      trimmedParts (parts front) ≠ [""] ∧
        parts (trimmedPath (parts front)) = trimmedParts (parts front) := by
  obtain ⟨idle, cut, -⟩ := trimmedParts_append_idle (parts_ne_nil front)
  have nonempty : trimmedParts (parts front) ≠ [] := by
    intro none
    have head := head?_trimmedParts (parts front)
    rw [none, List.head?_nil, eq_comm, List.head?_eq_none_iff] at head
    exact parts_ne_nil front head
  by_cases root : trimmedParts (parts front) = [""]
  · refine .inl ⟨root, ?_⟩
    rw [trimmedPath, root]
    rfl
  · have path : trimmedPath (parts front) =
        String.intercalate "/" (trimmedParts (parts front)) := by
      rw [trimmedPath]
      split
      · contradiction
      · contradiction
      · rfl
    refine .inr ⟨root, ?_⟩
    rw [path]
    refine parts_intercalate nonempty fun p mem => ?_
    have part_of_front : p ∈ parts front := by
      rw [cut]
      exact List.mem_append_left _ mem
    exact notMem_of_mem_parts part_of_front

end Path

namespace Disk

variable {d : Disk}

theorem arrive_cons {place : List String} {part : String} {rest rest' : List String}
    (same : ∀ place, d.arrive place rest = d.arrive place rest') :
    d.arrive place (part :: rest) = d.arrive place (part :: rest') := by
  simp only [arrive, walk] at same ⊢
  repeat' split
  all_goals first | rfl | exact same _

/-- An idle part at the end asks only for what is asked for anyway, that there is a directory. -/
theorem arrive_idle {idle : List String} (idles : ∀ part ∈ idle, Path.isIdle part = true)
    (place ps : List String) : d.arrive place (ps ++ idle) = d.arrive place ps := by
  induction ps generalizing place with
  | cons part rest ih => exact arrive_cons fun place => ih place
  | nil =>
    induction idle with
    | nil => rfl
    | cons part rest ih =>
      obtain ⟨first, others⟩ := List.forall_mem_cons.mp idles
      have step : d.arrive place (part :: rest) =
          if d.entry? place = some .directory then d.arrive place rest else d.arrive place [] := by
        rcases found : d.entry? place with _ | ⟨_ | _ | _⟩ <;>
          simp only [arrive, walk, found, first, if_true, bind, Except.bind, reduceCtorEq, if_false,
            Option.some.injEq] <;> rfl
      rw [List.nil_append, step]
      split
      · exact ih others
      · rfl

/-- Two paths lead to the same directory, if they start at the same place. -/
structure LeadsAlike (d : Disk) (path other : String) : Prop where
  head : (Path.parts path).head? = (Path.parts other).head?
  arrive : ∀ place, d.arrive place (Path.parts path) = d.arrive place (Path.parts other)

theorem arrive_append {rest rest' : List String}
    (same : ∀ place, d.arrive place rest = d.arrive place rest') (place front : List String) :
    d.arrive place (front ++ rest) = d.arrive place (front ++ rest') := by
  induction front generalizing place with
  | nil => exact same place
  | cons part front ih => exact arrive_cons fun place => ih place

theorem LeadsAlike.arriveAt {path front other : String} (left : d.LeadsAlike path front)
    (right : d.LeadsAlike other front) (nonempty : path ≠ "") (nonempty' : other ≠ "") :
    d.arriveAt path = d.arriveAt other := by
  have absolute : Path.isAbsolute path = Path.isAbsolute other := by
    rw [Bool.eq_iff_iff, Path.isAbsolute_iff nonempty, Path.isAbsolute_iff nonempty', left.head,
      right.head]
  rw [Disk.arriveAt, Disk.arriveAt, absolute]
  exact arrive_append (fun place => (left.arrive place).trans (right.arrive place).symm) _ _

theorem leadsAlike_slash (front : String) : d.LeadsAlike (front ++ "/") front := by
  have parts : Path.parts (front ++ "/") = Path.parts front ++ [""] := by
    have cut := Path.parts_append_slash front ""
    rwa [String.append_empty] at cut
  refine ⟨?_, fun place => ?_⟩
  · rw [parts, List.head?_append_of_ne_nil _ (Path.parts_ne_nil front)]
  · rw [parts, arrive_idle (by decide)]

theorem leadsAlike_trimmed (front : String) :
    d.LeadsAlike (Path.trimmedPath (Path.parts front)) front := by
  obtain ⟨idle, cut, idles⟩ := Path.trimmedParts_append_idle (Path.parts_ne_nil front)
  rcases Path.trimmedPath_cases front with ⟨root, path⟩ | ⟨-, parts⟩
  · have parts : Path.parts "/" = [""] ++ [""] := by decide
    rw [root] at cut
    refine ⟨?_, fun place => ?_⟩
    · rw [path, parts, cut]
      rfl
    · rw [path, parts, cut, arrive_idle (by decide), arrive_idle idles]
  · refine ⟨?_, fun place => ?_⟩
    · rw [parts, Path.head?_trimmedParts]
    · rw [parts, ← arrive_idle idles place, ← cut]

/-- The directory of a file within a directory is that directory. -/
theorem arriveAt_within {dir name : String} (nonempty : dir ≠ "")
    (named : Path.isName name = true) :
    d.arriveAt (Path.directory (Path.within dir name)) = d.arriveAt dir := by
  obtain ⟨front, path, form⟩ := Path.within_cases nonempty name
  rw [path, Path.directory_within named]
  have nonempty_trimmed : Path.trimmedPath (Path.parts front) ≠ "" := by
    rcases Path.trimmedPath_cases front with ⟨-, path⟩ | ⟨other, parts⟩
    · rw [path]
      decide
    · intro empty
      rw [empty] at parts
      exact other (parts.symm.trans (by decide))
  refine (leadsAlike_trimmed front).arriveAt ?_ nonempty_trimmed nonempty
  rcases form with same | same
  · rw [same]
    exact ⟨rfl, fun _ => rfl⟩
  · rw [same]
    exact leadsAlike_slash front

/-! ## Watchers -/

/-- What a path leads to does not depend on how many watchers there are. -/
theorem walk_afterWatchers (d : Disk) (made : Nat) (place parts : List String) :
    (d.afterWatchers made).walk place parts = d.walk place parts := by
  induction parts generalizing place with
  | nil => rfl
  | cons part rest ih =>
    simp only [walk, ih]
    rfl

theorem stat_afterWatchers (d : Disk) (made : Nat) (path : String) :
    (d.afterWatchers made).stat path = d.stat path := by
  simp only [stat, locate, walkFrom, walk_afterWatchers]
  rfl

theorem state_afterWatchers (d : Disk) (made : Nat) (path : String) :
    (d.afterWatchers made).state path = d.state path := by
  simp only [state, stat_afterWatchers]
  rfl

theorem directory_afterWatchers (d : Disk) (made : Nat) (path : String) :
    (d.afterWatchers made).directory path = d.directory path := by
  simp only [directory, arriveAt, arrive, walk_afterWatchers]
  rfl

end Disk

end ChainDashboard
