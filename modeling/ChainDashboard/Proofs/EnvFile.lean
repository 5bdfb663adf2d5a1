import ChainDashboard.Environment.EnvFile
import Mathlib.Data.List.TakeWhile

/-!
# Loading the `.env` file once more

A process loads its `.env` file before each set of variables that it reads. Loading it again changes
nothing (`hydrate_twice`), although values refer to variables and may come out differently the
second time: which lines are assignments, and of which keys, does not depend on what variables hold,
and every key is set by then, up to the line at which loading ends. There names stand for what they
stood for the first time, so loading ends there again.

A value with a zero character is never set (`held?_hydrate_cases`), and it is the only value that
loading ends at (`zero_mem_of_hydrate`).
-/

namespace ChainDashboard

/-! ## Texts that are kept -/

namespace Environment

variable {env later : Environment} {name value : String}

theorem held?_eq_some : env.held? name = some value ↔ env.find? name = some (.text value) := by
  unfold held?
  split
  · rename_i held
    simp [held]
  · rename_i other
    simp only [reduceCtorEq, false_iff]
    exact other value

theorem held?_setDefault_of_held (held : env.held? name = some value) (key default : String) :
    (env.setDefault key default).held? name = some value := by
  rw [held?_setDefault]
  split
  · rename_i same
    rw [← same, held, Option.getD_some]
  · exact held

/-- Names that lead to a text go on to do so as long as variables keep their texts. -/
theorem text?_of_kept (kept : ∀ name value, env.held? name = some value →
    later.held? name = some value) (read : env.text? name = some value) :
    later.text? name = some value := by
  unfold text? at read ⊢
  split
  · rename_i whole
    rw [whole] at read
    exact kept name value read
  · rename_i rest cut
    rw [cut] at read
    obtain ⟨text, held, behind⟩ := Option.bind_eq_some_iff.mp read
    exact Option.bind_eq_some_iff.mpr ⟨text, kept _ text held, behind⟩

theorem setDefault_of_held (held : (env.held? name).isSome) (value : String) :
    env.setDefault name value = env :=
  if_pos held

theorem takesDefault_of_held (held : (env.held? name).isSome) (value : String) :
    env.takesDefault name value = true := by
  rw [takesDefault, held, Bool.true_or]

end Environment

namespace EnvFile

/-! ## Lines are assignments whatever names stand for -/

/-- Where a scan is, whatever its value is so far. -/
def Scan.place (s : Scan) : Mode × Bool := (s.mode, s.weak)

namespace Scan

variable {s t : Scan}

theorem place_plain (same : s.place = t.place) (c : Char) :
    (s.plain c).place = (t.plain c).place := by
  obtain ⟨mode, weak⟩ := Prod.mk.inj same
  simp only [plain, weak]
  repeat' split
  all_goals simp [place, push, mode, weak]

theorem place_step (same : s.place = t.place) (m m' : Meaning) (c : Char) :
    (s.step m c).map place = (t.step m' c).map place := by
  obtain ⟨mode, weak⟩ := Prod.mk.inj same
  rw [step, step, mode]
  cases t.mode with
  | plain => exact congrArg some (place_plain same c)
  | escaped =>
    simp only
    repeat' split
    all_goals simp [place, push, weak]
  | strong =>
    simp only
    split <;> simp [place, push, weak]
  | name passed =>
    simp only
    repeat' split
    all_goals simp [place, push, substitute, weak]
  | braced passed =>
    simp only
    split <;> simp [place, substitute, weak]
  | ended =>
    simp only
    split <;> simp [place, mode, weak]

theorem isSome_finish (same : s.place = t.place) (m m' : Meaning) :
    (s.finish m).isSome = (t.finish m').isSome := by
  obtain ⟨mode, weak⟩ := Prod.mk.inj same
  rw [finish, finish, mode, weak]
  cases t.weak <;> cases t.mode <;> rfl

end Scan

theorem outcome_scanValue (m m' : Meaning) (input : String) (cs : List Char) (index : Nat)
    {s t : Scan} (same : s.place = t.place) :
    (scanValue m input index s cs).map (fun _ => ()) =
      (scanValue m' input index t cs).map (fun _ => ()) := by
  induction cs generalizing index s t with
  | nil =>
    have ends := Scan.isSome_finish same m m'
    rw [scanValue, scanValue]
    cases first : s.finish m <;> cases second : t.finish m' <;> simp_all [Except.map]
  | cons c rest ih =>
    have mode : s.mode = t.mode := (Prod.mk.inj same).1
    have steps := Scan.place_step same m m' c
    rw [scanValue, scanValue, mode]
    split
    · rfl
    · cases first : s.step m c with
      | none =>
        cases second : t.step m' c with
        | none => rfl
        | some _ => simp [first, second] at steps
      | some s =>
        cases second : t.step m' c with
        | none => simp [first, second] at steps
        | some t =>
          rw [first, second] at steps
          exact ih (index + 1) (Option.some_inj.mp steps)

/-- Whether a text is a value depends on the text alone. -/
theorem outcome_value (m m' : Meaning) (input : List Char) :
    (value m input).map (fun _ => ()) = (value m' input).map (fun _ => ()) :=
  outcome_scanValue m m' _ input 0 rfl

/-- Whether a line is an assignment, and of which key, depends on the line alone. -/
theorem key_assignment? (m m' : Meaning) (line : List Char) :
    (assignment? m line).map (·.map (·.1)) = (assignment? m' line).map (·.map (·.1)) := by
  simp only [assignment?]
  split
  · rfl
  · split
    · rfl
    · rename_i key l _
      split
      · rfl
      · have outcome := outcome_value m m' l.skipBlank.rest
        cases first : value m l.skipBlank.rest <;> cases second : value m' l.skipBlank.rest <;>
          simp_all [Except.map]

theorem notMem_key? {l rest : LineRest} {key : String} (read : l.key? = some (key, rest)) :
    '=' ∉ key.toList := by
  rw [LineRest.key?] at read
  split at read
  · cases read
  · split at read
    · cases read
      rw [String.toList_ofList]
      intro mem
      exact absurd (List.mem_takeWhile_imp mem) (by decide)
    · cases read

theorem notMem_assignedKey {l rest : LineRest} {key : String}
    (read : assignedKey l = .ok (key, rest)) : '=' ∉ key.toList := by
  simp only [assignedKey] at read
  repeat' split at read
  all_goals
    first
    | (cases read; exact notMem_key? ‹_›)
    | cases read

/-- Keys have no equals sign in them, so each leads to the variable that it names. -/
theorem notMem_assignment? {meaning : Meaning} {line : List Char} {key value : String}
    (read : assignment? meaning line = .ok (some (key, value))) : '=' ∉ key.toList := by
  simp only [assignment?] at read
  repeat' split at read
  all_goals
    first
    | (cases read; exact notMem_assignedKey ‹_›)
    | cases read

/-! ## What was set stays set -/

theorem held?_loadLines {name value : String} (lines : List (Except Problem (List Char)))
    {env : Environment} (given : NameMap String) (held : env.held? name = some value) :
    (loadLines env given lines).2.held? name = some value := by
  fun_induction loadLines env given lines with
  | case4 env given line rest idle ih => exact ih held
  | case5 env given line rest key text set takes ih =>
    exact ih (Environment.held?_setDefault_of_held held _ _)
  | _ => exact held

theorem isSome_held?_loadLines (env : Environment) (given : NameMap String) (key value : String)
    (lines : List (Except Problem (List Char))) :
    ((loadLines (env.setDefault key value) given lines).2.held? key).isSome := by
  have set : (env.setDefault key value).held? key = some ((env.held? key).getD value) := by
    rw [Environment.held?_setDefault, if_pos rfl]
  rw [held?_loadLines lines given set, Option.isSome_some]

/-! ## What names stand for -/

/-- Whatever the file gave so far is a variable that holds a text. -/
def Covers (env : Environment) (given : NameMap String) : Prop :=
  ∀ name, (given.find? name).isSome → (env.text? name).isSome

namespace Covers

variable {env : Environment} {given : NameMap String} {key : String}

theorem empty (env : Environment) : Covers env NameMap.empty := fun _ found => nomatch found

theorem insert (covers : Covers env given) (noEquals : '=' ∉ key.toList)
    (held : (env.held? key).isSome) (value : String) : Covers env (given.insert key value) := by
  intro name found
  rw [NameMap.find?_insert] at found
  by_cases same : name = key
  · rw [same, Environment.text?_eq_held? env noEquals]
    exact held
  · rw [if_neg same] at found
    exact covers name found

theorem setDefault (covers : Covers env given) (noEquals : '=' ∉ key.toList) (value : String) :
    Covers (env.setDefault key value) (given.insert key value) := by
  refine insert (fun name found => ?_) noEquals ?_ value
  · obtain ⟨text, read⟩ := Option.isSome_iff_exists.mp (covers name found)
    rw [Environment.text?_of_kept (fun _ _ held => Environment.held?_setDefault_of_held held _ _)
      read, Option.isSome_some]
  · rw [Environment.held?_setDefault, if_pos rfl, Option.isSome_some]

/-- Then names stand for variables alone. -/
theorem lookupIn_eq (covers : Covers env given) :
    lookupIn env given = fun name => (env.text? name).getD "" := by
  funext name
  rw [lookupIn]
  cases read : env.text? name with
  | some text => rfl
  | none =>
    have none : given.find? name = none := by
      have absent := mt (covers name) (by rw [read]; exact nofun)
      simpa using absent
    rw [none]
    rfl

end Covers

/-! ## Line by line -/

section Line

variable {env : Environment} {given : NameMap String} {line : List Char} {key value : String}
  (rest : List (Except Problem (List Char)))

theorem loadLines_malformed {problem : Problem}
    (read : assignment? (lookupIn env given) line = .error problem) :
    loadLines env given (.ok line :: rest) = (.error problem, env) := by
  rw [loadLines, read]

theorem loadLines_idle (read : assignment? (lookupIn env given) line = .ok none) :
    loadLines env given (.ok line :: rest) = loadLines env given rest := by
  rw [loadLines, read]

theorem loadLines_set (read : assignment? (lookupIn env given) line = .ok (some (key, value)))
    (takes : env.takesDefault key value = true) : loadLines env given (.ok line :: rest) =
      loadLines (env.setDefault key value) (given.insert key value) rest := by
  rw [loadLines, read]
  exact if_pos takes

theorem loadLines_unsettable
    (read : assignment? (lookupIn env given) line = .ok (some (key, value)))
    (refuses : env.takesDefault key value = false) :
    loadLines env given (.ok line :: rest) = (.error (.unsettable key value), env) := by
  rw [loadLines, read]
  exact if_neg (by simp [refuses])

end Line

/-- The key of a line is the same whatever names stand for. -/
theorem exists_assignment? {m : Meaning} {line : List Char} {assigned : Option (String × String)}
    (read : assignment? m line = .ok assigned) (m' : Meaning) :
    ∃ assigned', assignment? m' line = .ok assigned' ∧
      assigned'.map (·.1) = assigned.map (·.1) := by
  have keys := key_assignment? m m' line
  rw [read] at keys
  cases again : assignment? m' line with
  | error problem =>
    rw [again] at keys
    cases keys
  | ok assigned' =>
    rw [again] at keys
    exact ⟨assigned', rfl, (Except.ok.inj keys).symm⟩

/-! ## Loading again -/

/-- Lines that were loaded change nothing in the environment that they led to, and they end as they
did before. -/
theorem loadLines_again {lines : List (Except Problem (List Char))} {env : Environment}
    {given given' : NameMap String} (covers : Covers env given)
    (covers' : Covers (loadLines env given lines).2 given') :
    loadLines (loadLines env given lines).2 given' lines = loadLines env given lines := by
  induction lines generalizing env given given' with
  | nil => rfl
  | cons line rest ih =>
    rcases line with problem | line
    · rfl
    cases read : assignment? (lookupIn env given) line with
    | error problem =>
      rw [loadLines_malformed rest read] at covers' ⊢
      -- names stand for what they stood for
      rw [covers.lookupIn_eq, ← covers'.lookupIn_eq] at read
      exact loadLines_malformed rest read
    | ok assigned =>
      rcases assigned with _ | ⟨key, value⟩
      · rw [loadLines_idle rest read] at covers' ⊢
        obtain ⟨assigned', again, keys⟩ :=
          exists_assignment? read (lookupIn (loadLines env given rest).2 given')
        obtain rfl := Option.map_eq_none_iff.mp keys
        rw [loadLines_idle rest again, ih covers covers']
      · have noEquals := notMem_assignment? read
        cases takes : env.takesDefault key value with
        | false =>
          rw [loadLines_unsettable rest read takes] at covers' ⊢
          rw [covers.lookupIn_eq, ← covers'.lookupIn_eq] at read
          exact loadLines_unsettable rest read takes
        | true =>
          rw [loadLines_set rest read takes] at covers' ⊢
          -- the key was set, so its second value does not matter
          have held := isSome_held?_loadLines env (given.insert key value) key value rest
          obtain ⟨assigned', again, keys⟩ := exists_assignment? read
            (lookupIn (loadLines (env.setDefault key value) (given.insert key value) rest).2 given')
          obtain ⟨⟨key', value'⟩, rfl, same⟩ := Option.map_eq_some_iff.mp keys
          obtain rfl : key' = key := same
          rw [loadLines_set rest again (Environment.takesDefault_of_held held value'),
            Environment.setDefault_of_held held,
            ih (covers.setDefault noEquals value) (covers'.insert noEquals held value')]

/-! ## Values that cannot be set -/

/-- The problem lies in the text of the file. -/
def Problem.isOfText : Problem → Bool
  | .line .. | .notUtf8 => true
  | .os _ | .unsettable .. => false

theorem isOfText_scanValue {meaning : Meaning} {input : String} {cs : List Char} {index : Nat}
    {s : Scan} {problem : Problem} (failed : scanValue meaning input index s cs = .error problem) :
    problem.isOfText := by
  induction cs generalizing index s with
  | nil =>
    rw [scanValue] at failed
    split at failed <;> cases failed
    rfl
  | cons c rest ih =>
    rw [scanValue] at failed
    split at failed
    · cases failed
    · split at failed
      · exact ih failed
      · cases failed
        rfl

theorem isOfText_assignment? {meaning : Meaning} {line : List Char} {problem : Problem}
    (failed : assignment? meaning line = .error problem) : problem.isOfText := by
  simp only [assignment?] at failed
  repeat' split at failed
  all_goals cases failed
  · rfl
  · exact isOfText_scanValue ‹_›

theorem isOfText_gather {held : List Char} {state : Openness} {physical : List (List UInt8)}
    {problem : Problem} (mem : .error problem ∈ gather held state physical) :
    problem.isOfText := by
  induction physical generalizing held state with
  | nil =>
    rw [gather] at mem
    split at mem
    · cases mem
    · cases List.mem_singleton.mp mem
      rfl
  | cons line rest ih =>
    rw [gather] at mem
    split at mem
    · cases List.mem_singleton.mp mem
      rfl
    · simp only at mem
      repeat' split at mem
      all_goals
        first
        | exact ih mem
        | exact ih ((List.mem_cons.mp mem).resolve_left nofun)

/-- What cannot be set has a zero character. -/
theorem zero_mem_of_loadLines {lines : List (Except Problem (List Char))} {env : Environment}
    {given : NameMap String} (texts : ∀ problem, .error problem ∈ lines → problem.isOfText)
    {key value : String} (ended : (loadLines env given lines).1 = .error (.unsettable key value)) :
    '\x00' ∈ value.toList := by
  fun_induction loadLines env given lines with
  | case1 => cases ended
  | case2 env given problem rest =>
    -- the text of the file ends the loading, not a value
    cases ended
    exact nomatch texts _ List.mem_cons_self
  | case3 env given line rest problem malformed =>
    cases ended
    exact nomatch isOfText_assignment? malformed
  | case4 env given line rest idle ih =>
    exact ih (fun problem mem => texts problem (List.mem_cons_of_mem _ mem)) ended
  | case5 env given line rest key text set takes ih =>
    exact ih (fun problem mem => texts problem (List.mem_cons_of_mem _ mem)) ended
  | case6 env given line rest key text set refuses =>
    cases ended
    simp only [Environment.takesDefault, Bool.or_eq_true, not_or] at refuses
    simpa using refuses.2

theorem zero_mem_of_hydrate {file : FileState} {env : Environment} {key value : String}
    (ended : (hydrate file env).1 = .error (.unsettable key value)) : '\x00' ∈ value.toList := by
  unfold hydrate at ended
  split at ended
  · cases ended
  · cases file with
    | absent => cases ended
    | unreadable e => cases ended
    | file content => exact zero_mem_of_loadLines (fun _ mem => isOfText_gather mem) ended

/-- What a default changes: a variable without a text takes one that it can be set to. -/
theorem held?_setDefault_cases {env : Environment} {key default name value : String}
    (takes : env.takesDefault key default = true)
    (held : (env.setDefault key default).held? name = some value) :
    env.held? name = some value ∨ '\x00' ∉ value.toList := by
  rw [Environment.held?_setDefault] at held
  split at held
  · rename_i same
    subst same
    cases old : env.held? name with
    | some text => exact .inl (by rw [old, Option.getD_some] at held; exact held)
    | none =>
      rw [old, Option.getD_none] at held
      cases held
      rw [Environment.takesDefault, old] at takes
      exact .inr (by simpa using takes)
  · exact .inl held

/-- Loading sets no variable to a text with a zero character, however it ends. -/
theorem held?_loadLines_cases {lines : List (Except Problem (List Char))} {env : Environment}
    {given : NameMap String} {name value : String}
    (held : (loadLines env given lines).2.held? name = some value) :
    env.held? name = some value ∨ '\x00' ∉ value.toList := by
  fun_induction loadLines env given lines with
  | case4 env given line rest idle ih => exact ih held
  | case5 env given line rest key text set takes ih =>
    exact (ih held).elim (held?_setDefault_cases takes) .inr
  | _ => exact .inl held

theorem held?_hydrate_cases {file : FileState} {env : Environment} {name value : String}
    (held : (hydrate file env).2.held? name = some value) :
    env.held? name = some value ∨ '\x00' ∉ value.toList := by
  unfold hydrate at held
  split at held
  · exact .inl held
  · cases file with
    | absent => exact .inl held
    | unreadable e => exact .inl held
    | file content => exact held?_loadLines_cases held

/-! ## Once more -/

/-- Loading a second time changes nothing and ends as the first time did, unless the file has turned
itself off in between. -/
theorem hydrate_twice (file : FileState) (env : Environment) :
    hydrate file (hydrate file env).2 =
      (if (hydrate file env).2.contains skipVariable then .ok () else (hydrate file env).1,
        (hydrate file env).2) := by
  by_cases skipped : env.contains skipVariable
  · simp [hydrate, skipped]
  · cases file with
    | absent => simp [hydrate, skipped]
    | unreadable e => simp [hydrate, skipped]
    | file content =>
      have first : hydrate (.file content) env = load content env := if_neg skipped
      rw [first, hydrate]
      split
      · rfl
      · exact loadLines_again (.empty env) (.empty _)

/-- **Loading again changes nothing** once the file has been loaded. -/
theorem hydrate_again {file : FileState} {env : Environment}
    (loaded : (hydrate file env).1 = .ok ()) :
    hydrate file (hydrate file env).2 = (.ok (), (hydrate file env).2) := by
  rw [hydrate_twice, loaded, ite_self]

end EnvFile

end ChainDashboard
