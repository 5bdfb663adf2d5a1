import ChainDashboard.Document.Ini

/-!
# Written lines are read back

A text is written line by line: `[name]` for a section, `key = value` for a field, with blank lines
and comments wherever they are wanted and either kind of line end. Reading gives the items that the
lines state (`items_text`).

The reader does not go line by line. After an item it passes over white space, also over several
line ends, but not over the indent of a line. So what is shown of a line is shown for both ways to
come to it, directly and through a gap (`Starts`).
-/

namespace ChainDashboard.Ini

/-! ## What is written -/

/-- The characters of names and keys. -/
def isNameChar (c : Char) : Bool := c.isAlphanum || c = '_'

/-- The characters of values. -/
def isValueChar (c : Char) : Bool := isNameChar c || ['-', '.', '/', ':', '=', ' '].contains c

/-- A name or a key as it is written. -/
structure IsName (s : String) : Prop where
  nonempty : s ≠ ""
  plain : ∀ c ∈ s.toList, isNameChar c = true

instance (s : String) : Decidable (IsName s) :=
  decidable_of_iff (s ≠ "" ∧ s.toList.all isNameChar = true)
    ⟨fun ⟨nonempty, plain⟩ => ⟨nonempty, List.all_eq_true.mp plain⟩,
      fun h => ⟨h.nonempty, List.all_eq_true.mpr h.plain⟩⟩

/-- A value as it is written; there may be spaces in it, but not around it. -/
structure IsValue (s : String) : Prop where
  plain : ∀ c ∈ s.toList, isValueChar c = true
  noSpace_front : s.toList.head? ≠ some ' '
  noSpace_back : s.toList.getLast? ≠ some ' '

instance (s : String) : Decidable (IsValue s) :=
  decidable_of_iff (s.toList.all isValueChar = true ∧ s.toList.head? ≠ some ' ' ∧
      s.toList.getLast? ≠ some ' ')
    ⟨fun ⟨plain, front, back⟩ => ⟨List.all_eq_true.mp plain, front, back⟩,
      fun h => ⟨List.all_eq_true.mpr h.plain, h.noSpace_front, h.noSpace_back⟩⟩

/-- A written line. -/
inductive Line where
  | blank (indent : List Char)
  | comment (mark : Char) (text : String)
  | header (name : String)
  | field (key value : String)

namespace Line

/-- The line is written with the characters that are meant for it. -/
def Plain : Line → Prop
  | .blank indent => ∀ c ∈ indent, isIndent c = true
  | .comment mark text => (mark = ';' ∨ mark = '#') ∧ '\n' ∉ text.toList
  | .header name => IsName name
  | .field key value => IsName key ∧ IsValue value

instance : DecidablePred Plain
  | .blank _ => decidable_of_iff _ List.all_eq_true
  | .comment mark text =>
    inferInstanceAs (Decidable ((mark = ';' ∨ mark = '#') ∧ '\n' ∉ text.toList))
  | .header name => inferInstanceAs (Decidable (IsName name))
  | .field key value => inferInstanceAs (Decidable (IsName key ∧ IsValue value))

/-- The characters of the line. -/
def chars : Line → List Char
  | .blank indent => indent
  | .comment mark text => mark :: text.toList
  | .header name => '[' :: (name.toList ++ [']'])
  | .field key value => key.toList ++ [' ', '=', ' '] ++ value.toList

/-- What the line states. -/
def item? : Line → Option Item
  | .blank _ | .comment .. => none
  | .header name => some (.header name)
  | .field key value => some (.field key value)

end Line

/-- The end of a line. -/
inductive LineEnd where
  | lf | crlf

/-- The characters that end the line. -/
def LineEnd.chars : LineEnd → List Char
  | .lf => ['\n']
  | .crlf => ['\r', '\n']

/-- A text in lines. The last one has no line end; it is blank if the text ends with a line end. -/
structure Layout where
  lines : List (Line × LineEnd)
  last : Line

namespace Layout

def Plain (l : Layout) : Prop := (∀ line ∈ l.lines, line.1.Plain) ∧ l.last.Plain

instance : DecidablePred Plain := fun l =>
  decidable_of_iff (l.lines.all (fun line => decide line.1.Plain) = true ∧ l.last.Plain) (by
    simp only [Plain, List.all_eq_true, decide_eq_true_eq])

/-- The characters of some lines and of the last one behind them. -/
def charsOf (last : Line) (lines : List (Line × LineEnd)) : List Char :=
  lines.flatMap (fun line => line.1.chars ++ line.2.chars) ++ last.chars

def text (l : Layout) : String := String.ofList (charsOf l.last l.lines)

/-- What the lines state, one after the other. -/
def itemsOf (last : Line) (lines : List (Line × LineEnd)) : List Item :=
  lines.filterMap (·.1.item?) ++ last.item?.toList

def items (l : Layout) : List Item := itemsOf l.last l.lines

end Layout

/-! ## Characters -/

theorem toNat_lt_of_isNameChar {c : Char} (h : isNameChar c = true) : c.toNat < 128 := by
  rw [isNameChar, Bool.or_eq_true, decide_eq_true_eq] at h
  rcases h with alphanumeric | rfl
  · have ranges : (decide (65 ≤ c.toNat ∧ c.toNat ≤ 90) || (97 ≤ c.toNat && c.toNat ≤ 122) ||
        (48 ≤ c.toNat && c.toNat ≤ 57)) = true := alphanumeric
    simp only [Bool.or_eq_true, Bool.and_eq_true, decide_eq_true_eq] at ranges
    omega
  · decide

theorem isBlank_of_isNameChar {c : Char} (h : isNameChar c = true) : Text.isBlank c = false := by
  have ascii : ∀ n < 128,
      isNameChar (Char.ofNat n) = true → Text.isBlank (Char.ofNat n) = false := by decide
  have here := ascii c.toNat (toNat_lt_of_isNameChar h)
  rw [Char.ofNat_toNat] at here
  exact here h

theorem notMem_of_test {test : Char → Bool} {marks : List Char}
    (fails : marks.all (fun mark => !test mark) = true) {c : Char} (h : test c = true) :
    c ∉ marks := by
  intro mem
  have failed := List.all_eq_true.mp fails c mem
  rw [h] at failed
  cases failed

/-- No character of a name has a meaning to the reader. -/
theorem notMem_of_isNameChar {c : Char} (h : isNameChar c = true) :
    c ∉ ['\\', '=', ':', ';', '#', '[', ']', '"', '\x27'] :=
  notMem_of_test (by decide) h

theorem ne_of_isBlank {c mark : Char} (h : Text.isBlank c = false)
    (blank : Text.isBlank mark = true) : c ≠ mark := by
  rintro rfl
  exact Bool.false_ne_true (h.symm.trans blank)

/-- Line breaks and indents are white space. -/
theorem isLineBreak_of_isBlank {c : Char} (h : Text.isBlank c = false) : isLineBreak c = false :=
  Bool.or_eq_false_iff.mpr
    ⟨decide_eq_false (ne_of_isBlank h (by decide)), decide_eq_false (ne_of_isBlank h (by decide))⟩

theorem isIndent_of_isBlank {c : Char} (h : Text.isBlank c = false) : isIndent c = false :=
  Bool.or_eq_false_iff.mpr
    ⟨decide_eq_false (ne_of_isBlank h (by decide)), decide_eq_false (ne_of_isBlank h (by decide))⟩

theorem isValueChar_cases {c : Char} (h : isValueChar c = true) :
    isNameChar c = true ∨ c ∈ ['-', '.', '/', ':', '=', ' '] := by
  rwa [isValueChar, Bool.or_eq_true, List.contains_iff_mem] at h

/-- Of the characters of values only the space is white space, -/
theorem isBlank_of_isValueChar {c : Char} (h : isValueChar c = true) (other : c ≠ ' ') :
    Text.isBlank c = false := by
  rcases isValueChar_cases h with plain | mark
  · exact isBlank_of_isNameChar plain
  · have marks : ['-', '.', '/', ':', '=', ' '].all
        (fun c => c == ' ' || !Text.isBlank c) = true := by decide
    simpa [other] using List.all_eq_true.mp marks c mark

/-- and none ends a value or starts a quoted part or an escape. -/
theorem notMem_of_isValueChar {c : Char} (h : isValueChar c = true) :
    c ∉ ['\\', '\n', '\r', '"', '\x27'] :=
  notMem_of_test (by decide) h

/-! ## Reading up to an expected character -/

theorem readUntil_append {expected : List (Option Char)} {cs tail : List Char}
    (inside : ∀ c ∈ cs, c ≠ '\\' ∧ some c ∉ expected) (stop : tail.head? ∈ expected)
    (p : Position) :
    readUntil expected ⟨cs ++ tail, p⟩ = .ok (cs, ⟨tail, cs.foldl Position.after p⟩) := by
  induction cs generalizing p with
  | nil =>
    have found : expected.contains (Cursor.peek? ⟨[] ++ tail, p⟩) = true :=
      List.contains_iff_mem.mpr stop
    rw [readUntil, if_pos found]
    rfl
  | cons c cs ih =>
    obtain ⟨⟨noEscape, unexpected⟩, inside⟩ := List.forall_mem_cons.mp inside
    have missed : ¬ expected.contains (Cursor.peek? ⟨c :: cs ++ tail, p⟩) = true :=
      mt List.contains_iff_mem.mp unexpected
    have rest : readUntil expected (Cursor.next ⟨c :: cs ++ tail, p⟩) = _ := ih inside (p.after c)
    rw [readUntil, if_neg missed]
    split
    · rename_i ended
      cases ended
    · rename_i escape
      cases escape
      exact absurd rfl noEscape
    · rename_i here
      cases here
      rw [rest]
      rfl

/-! ## White space around texts -/

theorem dropWhile_eq_self_of_head? {test : Char → Bool} {cs : List Char}
    (front : ∀ c, cs.head? = some c → test c = false) : cs.dropWhile test = cs := by
  cases cs with
  | nil => rfl
  | cons c rest => exact List.dropWhile_cons_of_neg (by simp [front c rfl])

theorem trimEnd_eq_self {cs : List Char}
    (back : ∀ c, cs.getLast? = some c → Text.isBlank c = false) : Text.trimEnd cs = cs := by
  rw [Text.trimEnd, dropWhile_eq_self_of_head?, List.reverse_reverse]
  intro c last
  exact back c (by rwa [List.head?_reverse] at last)

theorem trimChars_eq_self {cs : List Char} (front : ∀ c, cs.head? = some c → Text.isBlank c = false)
    (back : ∀ c, cs.getLast? = some c → Text.isBlank c = false) : Text.trimChars cs = cs := by
  rw [Text.trimChars, Text.trimStart, dropWhile_eq_self_of_head? front, trimEnd_eq_self back]

/-- A name keeps its ends, -/
theorem IsName.trimChars_eq {name : String} (h : IsName name) :
    Text.trimChars name.toList = name.toList :=
  trimChars_eq_self (fun _ first => isBlank_of_isNameChar (h.plain _ (List.mem_of_head? first)))
    fun _ last => isBlank_of_isNameChar (h.plain _ (List.mem_of_getLast? last))

/-- and a key loses the space in front of the equals sign. -/
theorem IsName.trimChars_append {name : String} (h : IsName name) :
    Text.trimChars (name.toList ++ [' ']) = name.toList := by
  have front : ∀ c, (name.toList ++ [' ']).head? = some c → Text.isBlank c = false := by
    intro c first
    obtain ⟨_, _, chars⟩ := List.exists_cons_of_ne_nil (mt String.toList_eq_nil_iff.mp h.nonempty)
    rw [chars, List.cons_append, List.head?_cons, Option.some.injEq] at first
    exact isBlank_of_isNameChar (h.plain c (by rw [chars, first]; exact .head _))
  have cut : Text.trimEnd (name.toList ++ [' ']) = Text.trimEnd name.toList := by
    rw [Text.trimEnd, List.reverse_append, List.reverse_singleton, List.singleton_append,
      List.dropWhile_cons_of_pos (by decide), Text.trimEnd]
  rw [Text.trimChars, Text.trimStart, dropWhile_eq_self_of_head? front, cut]
  exact trimEnd_eq_self fun c last => isBlank_of_isNameChar (h.plain c (List.mem_of_getLast? last))

theorem IsValue.trimChars_eq {value : String} (h : IsValue value) :
    Text.trimChars value.toList = value.toList := by
  refine trimChars_eq_self (fun c first => ?_) fun c last => ?_
  · refine isBlank_of_isValueChar (h.plain c (List.mem_of_head? first)) ?_
    rintro rfl
    exact h.noSpace_front first
  · refine isBlank_of_isValueChar (h.plain c (List.mem_of_getLast? last)) ?_
    rintro rfl
    exact h.noSpace_back last

/-! ## Steps -/

/-- The text from the cursor on gives the items, where no key is waiting. -/
def Reads (c : Cursor) (items : List Item) : Prop := itemsFrom c "" = .ok items

theorem reads_nil (p : Position) : Reads ⟨[], p⟩ [] := by
  rw [Reads, itemsFrom]
  rfl

theorem itemsFrom_of_step {c : Cursor} {key : String} {ch : Char} {r : Round} {items : List Item}
    (here : c.peek? = some ch) (next : step c key = .ok r)
    (rest : itemsFrom r.cursor r.key = .ok items) :
    itemsFrom c key = .ok (r.item?.toList ++ items) := by
  rw [itemsFrom]
  split
  · rename_i ended
    rw [here] at ended
    cases ended
  · split
    · rename_i failed
      rw [next] at failed
      cases failed
    · rename_i r' next'
      obtain rfl : r = r' := Except.ok.inj (next.symm.trans next')
      rw [rest]

/-- After most steps reading goes on behind a gap. -/
theorem reads_of_finish {c behind : Cursor} {ch : Char} {item? : Option Item} {items : List Item}
    (here : c.peek? = some ch) (next : step c "" = finish behind "" item?)
    (rest : Reads (skipGap behind) items) : Reads c (item?.toList ++ items) :=
  itemsFrom_of_step here next rest

theorem skipGap_of_notBlank {c : Char} (h : Text.isBlank c = false) (rest : List Char)
    (p : Position) : skipGap ⟨c :: rest, p⟩ = ⟨c :: rest, p⟩ := by
  rw [skipGap, skipGap.go, isLineBreak_of_isBlank h, h]
  rfl

theorem skipGap_indent {indent : List Char} (h : ∀ c ∈ indent, isIndent c = true)
    (rest : List Char) (p : Position) :
    ∃ q, skipGap ⟨indent ++ rest, p⟩ = skipGap ⟨rest, q⟩ := by
  induction indent generalizing p with
  | nil => exact ⟨p, rfl⟩
  | cons c indent ih =>
    obtain ⟨first, h⟩ := List.forall_mem_cons.mp h
    obtain ⟨q, same⟩ := ih h (p.after c)
    refine ⟨q, same ▸ ?_⟩
    obtain rfl | rfl : c = ' ' ∨ c = '\t' := by simpa [isIndent] using first
    all_goals rfl

/-- At a line break the gap goes on, unless the next line is indented. -/
theorem skipGap_lineBreak {c : Char} (h : isLineBreak c = true) (rest : List Char) (p : Position) :
    skipGap ⟨c :: rest, p⟩ = ⟨rest, p.after c⟩ ∨
      skipGap ⟨c :: rest, p⟩ = skipGap ⟨rest, p.after c⟩ := by
  rw [skipGap, skipGap.go, if_pos h]
  split
  · exact .inl rfl
  · exact .inr rfl

/-! ## Lines -/

/-- The text is the start of a line and gives the items, whether the reader comes to it directly or
through a gap. -/
def Starts (text : List Char) (items : List Item) : Prop :=
  ∀ p : Position, p.column = 0 → Reads ⟨text, p⟩ items ∧ Reads (skipGap ⟨text, p⟩) items

/-- The text may follow a line: it is empty, or a line end and further lines. -/
inductive Continues : List Char → List Item → Prop where
  | nothing : Continues [] []
  | lines (lineEnd : LineEnd) {text : List Char} {items : List Item} (starts : Starts text items) :
    Continues (lineEnd.chars ++ text) items

namespace Continues

variable {tail : List Char} {items : List Item}

theorem gap (h : Continues tail items) (p : Position) : Reads (skipGap ⟨tail, p⟩) items := by
  have newline {text : List Char} (starts : Starts text items) (p : Position) :
      Reads (skipGap ⟨'\n' :: text, p⟩) items := by
    obtain ⟨direct, through⟩ := starts (p.after '\n') rfl
    rcases skipGap_lineBreak (c := '\n') rfl text p with same | same <;> rw [same]
    · exact direct
    · exact through
  cases h with
  | nothing => exact reads_nil p
  | lines lineEnd starts =>
    cases lineEnd with
    | lf => exact newline starts p
    | crlf => exact newline starts (p.after '\r')

/-- A value ends where the line does. -/
theorem head? (h : Continues tail items) : tail.head? ∈ [some '\n', some '\r', none] := by
  cases h with
  | nothing => decide
  | lines lineEnd starts => cases lineEnd <;> simp [LineEnd.chars]

end Continues

section Line

variable {name key value : String} {tail : List Char} {items : List Item}

theorem reads_header (hn : IsName name) (h : Continues tail items) (p : Position) :
    Reads ⟨'[' :: (name.toList ++ ']' :: tail), p⟩ (.header name :: items) := by
  have inside : ∀ c ∈ name.toList, c ≠ '\\' ∧ some c ∉ [some ']'] := by
    intro c mem
    have plain := notMem_of_isNameChar (hn.plain c mem)
    simp_all
  have read : readUntil [some ']'] ⟨name.toList ++ ']' :: tail, p.after '['⟩ = _ :=
    readUntil_append inside (by simp) (p.after '[')
  have next : step ⟨'[' :: (name.toList ++ ']' :: tail), p⟩ "" =
      finish ⟨tail, (name.toList.foldl Position.after (p.after '[')).after ']'⟩ ""
        (some (.header name)) := by
    have opened : step ⟨'[' :: (name.toList ++ ']' :: tail), p⟩ "" = readHeader _ "" := rfl
    rw [opened, readHeader, Cursor.next, read]
    simp only [hn.trimChars_eq, String.ofList_toList]
    rfl
  exact reads_of_finish rfl next (h.gap _)

/-- Where a name starts, a key is read. -/
theorem step_name {c behind : Cursor} {ch : Char} {chars : List Char} (here : c.peek? = some ch)
    (hc : isNameChar ch = true) (read : readKey c = .ok (chars, behind)) (key : String) :
    step c key = finish behind (String.ofList chars) none := by
  have plain := notMem_of_isNameChar hc
  have blank := isBlank_of_isNameChar hc
  simp only [List.mem_cons, List.not_mem_nil, or_false, not_or] at plain
  rw [step, here]
  simp only
  rw [if_neg (by simp [plain]), if_neg (by simp [plain]), if_neg (by simp [plain]),
    if_neg (by simp [isIndent_of_isBlank blank]), if_neg (by simp [isLineBreak_of_isBlank blank]),
    read]

theorem readKey_name (hk : IsName key) (tail : List Char) (p : Position) :
    ∃ q, readKey ⟨key.toList ++ [' '] ++ '=' :: tail, p⟩ = .ok (key.toList, ⟨'=' :: tail, q⟩) := by
  have inside : ∀ c ∈ key.toList ++ [' '], c ≠ '\\' ∧ some c ∉ [some '=', some ':'] := by
    intro c mem
    rcases List.mem_append.mp mem with mem | mem
    · have plain := notMem_of_isNameChar (hk.plain c mem)
      simp_all
    · rw [List.mem_singleton.mp mem]
      decide
  have read : readUntil [some '=', some ':'] ⟨key.toList ++ [' '] ++ '=' :: tail, p⟩ = _ :=
    readUntil_append inside (by simp) p
  refine ⟨(key.toList ++ [' ']).foldl Position.after p, ?_⟩
  rw [readKey, read]
  simp only [hk.trimChars_append]

/-- A value starts with a character of its own that is no space, and an empty one where the line
ends. -/
theorem first_of_value (hv : IsValue value) (stops : tail.head? ∈ [some '\n', some '\r', none])
    {c : Char} (first : (value.toList ++ tail).head? = some c) :
    isValueChar c = true ∧ c ≠ ' ' ∨ c = '\n' ∨ c = '\r' := by
  cases chars : value.toList with
  | nil =>
    rw [chars, List.nil_append] at first
    exact .inr (by simpa [first] using stops)
  | cons c' rest =>
    obtain rfl : c' = c := by simpa [chars] using first
    refine .inl ⟨hv.plain c' (by rw [chars]; exact .head _), ?_⟩
    rintro rfl
    exact hv.noSpace_front (by rw [chars]; rfl)

/-- Of the white space behind the equals sign only the space is passed over. -/
theorem skip_value (hv : IsValue value) (stops : tail.head? ∈ [some '\n', some '\r', none])
    (p : Position) : ∃ q, Cursor.skip (fun x => Text.isBlank x && !isLineBreak x)
      ⟨' ' :: (value.toList ++ tail), p⟩ = ⟨value.toList ++ tail, q⟩ := by
  have kept : (value.toList ++ tail).dropWhile (fun x => Text.isBlank x && !isLineBreak x) =
      value.toList ++ tail := by
    refine dropWhile_eq_self_of_head? fun c first => ?_
    rcases first_of_value hv stops first with ⟨plain, noSpace⟩ | rfl | rfl
    · rw [isBlank_of_isValueChar plain noSpace, Bool.false_and]
    · rfl
    · rfl
  exact ⟨_, congrArg (Cursor.mk · _) kept⟩

theorem readValue_value (hv : IsValue value) (stops : tail.head? ∈ [some '\n', some '\r', none])
    (p : Position) :
    ∃ q, readValue true ⟨value.toList ++ tail, p⟩ = .ok (value.toList, ⟨tail, q⟩) := by
  rw [readValue]
  split
  · rename_i ended
    obtain ⟨chars, rfl⟩ := List.append_eq_nil_iff.mp (List.head?_eq_none_iff.mp ended)
    rw [chars]
    exact ⟨p, rfl⟩
  · rename_i c first
    have unquoted : ¬ (c = '"' ∨ c = '\x27') := by
      rcases first_of_value hv stops first with ⟨plain, -⟩ | rfl | rfl
      · have plain := notMem_of_isValueChar plain
        simp_all
      · decide
      · decide
    have inside : ∀ c ∈ value.toList, c ≠ '\\' ∧ some c ∉ [some '\n', some '\r', none] := by
      intro c mem
      have plain := notMem_of_isValueChar (hv.plain c mem)
      simp_all
    refine ⟨value.toList.foldl Position.after p, ?_⟩
    rw [if_neg unquoted, readUntil_append inside stops p]
    simp only [hv.trimChars_eq, if_true]

theorem reads_field (hk : IsName key) (hv : IsValue value) (h : Continues tail items)
    (p : Position) : Reads ⟨key.toList ++ [' ', '=', ' '] ++ value.toList ++ tail, p⟩
      (.field key value :: items) := by
  obtain ⟨first, rest, chars⟩ :=
    List.exists_cons_of_ne_nil (mt String.toList_eq_nil_iff.mp hk.nonempty)
  have parted : key.toList ++ [' ', '=', ' '] ++ value.toList ++ tail =
      key.toList ++ [' '] ++ '=' :: ' ' :: (value.toList ++ tail) := by simp
  rw [parted]
  obtain ⟨q, keyRead⟩ := readKey_name hk (' ' :: (value.toList ++ tail)) p
  obtain ⟨q', skipped⟩ := skip_value hv h.head? (q.after '=')
  obtain ⟨q'', valueRead⟩ := readValue_value hv h.head? q'
  -- a field takes two steps; in between the key waits in front of the equals sign
  have keyStep : step ⟨key.toList ++ [' '] ++ '=' :: ' ' :: (value.toList ++ tail), p⟩ "" =
      .ok ⟨⟨'=' :: ' ' :: (value.toList ++ tail), q⟩, key, none⟩ := by
    have here : Cursor.peek? ⟨key.toList ++ [' '] ++ '=' :: ' ' :: (value.toList ++ tail), p⟩ =
        some first := by rw [chars]; rfl
    rw [step_name here (hk.plain first (by rw [chars]; exact .head _)) keyRead]
    simp only [finish, String.ofList_toList, skipGap_of_notBlank (c := '=') rfl]
  have valueStep : step ⟨'=' :: ' ' :: (value.toList ++ tail), q⟩ key =
      finish ⟨tail, q''⟩ "" (some (.field key value)) := by
    have filled : ¬ key.isEmpty = true := mt String.isEmpty_iff.mp hk.nonempty
    have here : Cursor.peek? ⟨'=' :: ' ' :: (value.toList ++ tail), q⟩ = some '=' := rfl
    have behind : Cursor.next ⟨'=' :: ' ' :: (value.toList ++ tail), q⟩ =
        ⟨' ' :: (value.toList ++ tail), q.after '='⟩ := rfl
    rw [step, here]
    simp only [behind, skipped, valueRead, filled, String.ofList_toList]
    rfl
  exact itemsFrom_of_step (by rw [chars]; rfl) keyStep
    (itemsFrom_of_step rfl valueStep (h.gap q''))

theorem skip_append {test : Char → Bool} {cs tail : List Char} (inside : ∀ c ∈ cs, test c = true)
    (stop : ∀ c, tail.head? = some c → test c = false) (p : Position) :
    Cursor.skip test ⟨cs ++ tail, p⟩ = ⟨tail, cs.foldl Position.after p⟩ := by
  have none : tail.takeWhile test = [] := by
    cases tail with
    | nil => rfl
    | cons c rest => exact List.takeWhile_cons_of_neg (by simp [stop c rfl])
  rw [Cursor.skip, List.dropWhile_append_of_pos inside, List.takeWhile_append_of_pos inside,
    dropWhile_eq_self_of_head? stop, none, List.append_nil]

/-- A line end under the cursor makes no difference. -/
theorem Continues.direct (h : Continues tail items) (p : Position) : Reads ⟨tail, p⟩ items := by
  cases h with
  | nothing => exact reads_nil p
  | @lines lineEnd text _ starts =>
    cases lineEnd with
    | lf =>
      have next : step ⟨'\n' :: text, p⟩ "" = finish ⟨text, p.after '\n'⟩ "" none := rfl
      exact reads_of_finish rfl next (starts (p.after '\n') rfl).2
    | crlf =>
      have next : step ⟨'\r' :: '\n' :: text, p⟩ "" =
        finish ⟨'\n' :: text, p.after '\r'⟩ "" none := rfl
      exact reads_of_finish rfl next ((Continues.lines .lf starts).gap (p.after '\r'))

/-- A mark in the first column starts a comment. -/
theorem step_comment {mark : Char} (isMark : mark = ';' ∨ mark = '#') (rest : List Char)
    {p : Position} (start : p.column = 0) :
    step ⟨mark :: rest, p⟩ "" =
      finish (Cursor.skip (fun x => decide (x ≠ '\n')) ⟨mark :: rest, p⟩).next "" none := by
  have firstColumn : ¬ p.column + 1 > 1 := by omega
  rcases isMark with rfl | rfl <;> exact if_neg firstColumn

/-- A comment is passed over together with the end of its line. -/
theorem starts_comment {mark : Char} {text : String} (plain : (Line.comment mark text).Plain)
    (h : Continues tail items) : Starts (mark :: text.toList ++ tail) items := by
  obtain ⟨isMark, oneLine⟩ := plain
  have visible : Text.isBlank mark = false := by rcases isMark with rfl | rfl <;> rfl
  have inside : ∀ c ∈ mark :: text.toList, decide (c ≠ '\n') = true := by
    refine List.forall_mem_cons.mpr ⟨?_, fun c mem => ?_⟩
    · rcases isMark with rfl | rfl <;> rfl
    · exact decide_eq_true (ne_of_mem_of_not_mem mem oneLine)
  intro p start
  rw [List.cons_append, skipGap_of_notBlank visible, and_self]
  refine reads_of_finish rfl (step_comment isMark (text.toList ++ tail) start) ?_
  cases h with
  | nothing =>
    have skipped := skip_append inside (fun _ (first : [].head? = _) => nomatch first) p
    rw [← List.cons_append, skipped]
    exact reads_nil _
  | @lines lineEnd rest _ starts =>
    have stop : ∀ c, ('\n' :: rest).head? = some c → decide (c ≠ '\n') = false := by simp
    cases lineEnd with
    | lf =>
      have skipped := skip_append inside stop p
      rw [← List.cons_append, LineEnd.chars, List.singleton_append, skipped]
      exact (starts _ rfl).2
    | crlf =>
      have inside' : ∀ c ∈ mark :: text.toList ++ ['\r'], decide (c ≠ '\n') = true :=
        List.forall_mem_append.mpr ⟨inside, by simp⟩
      have parted : mark :: (text.toList ++ (LineEnd.crlf.chars ++ rest)) =
          mark :: text.toList ++ ['\r'] ++ '\n' :: rest := by simp [LineEnd.chars]
      rw [parted, skip_append inside' stop p]
      exact (starts _ rfl).2

/-- An indent with nothing behind it is passed over, -/
theorem step_indent_nil {c : Char} (hc : isIndent c = true) {rest : List Char} {p q : Position}
    (skipped : Cursor.skip isIndent ⟨c :: rest, p⟩ = ⟨[], q⟩) :
    step ⟨c :: rest, p⟩ "" = finish ⟨[], q⟩ "" none := by
  have nothing : readKey ⟨[], q⟩ = .error ⟨⟨[], q⟩, .unfinished [some '=', some ':']⟩ := by
    rw [readKey, readUntil]
    rfl
  obtain rfl | rfl : c = ' ' ∨ c = '\t' := by simpa [isIndent] using hc
  all_goals
    rw [step]
    simp only [Cursor.peek?, List.head?_cons, List.head?_nil, skipped, nothing]
    rfl

/-- and so is one that a line break follows. -/
theorem step_indent_lineBreak {c ch : Char} (hc : isIndent c = true) (hch : ch = '\n' ∨ ch = '\r')
    {rest text : List Char} {p q : Position}
    (skipped : Cursor.skip isIndent ⟨c :: rest, p⟩ = ⟨ch :: text, q⟩) :
    step ⟨c :: rest, p⟩ "" = .ok ⟨⟨text, q.after ch⟩, "", none⟩ := by
  obtain rfl | rfl : c = ' ' ∨ c = '\t' := by simpa [isIndent] using hc
  all_goals
    rw [step]
    simp only [Cursor.peek?, List.head?_cons, skipped]
    rcases hch with rfl | rfl <;> rfl

theorem starts_blank {indent : List Char} (plain : (Line.blank indent).Plain)
    (h : Continues tail items) : Starts (indent ++ tail) items := by
  intro p start
  obtain ⟨q, gap⟩ := skipGap_indent plain tail p
  refine ⟨?_, gap ▸ h.gap q⟩
  cases indent with
  | nil => exact h.direct p
  | cons c rest =>
    -- here no gap comes first, so the step itself has to pass over the indent
    have indented := plain c (.head _)
    have stop : ∀ c, tail.head? = some c → isIndent c = false := by
      intro c first
      have stops := h.head?
      rw [first] at stops
      obtain rfl | rfl : c = '\n' ∨ c = '\r' := by simpa using stops
      all_goals rfl
    have skipped := skip_append plain stop p
    cases h with
    | nothing => exact reads_of_finish rfl (step_indent_nil indented skipped) (reads_nil _)
    | lines lineEnd starts =>
      cases lineEnd with
      | lf =>
        exact itemsFrom_of_step rfl (step_indent_lineBreak indented (.inl rfl) skipped)
          (starts _ rfl).1
      | crlf =>
        exact itemsFrom_of_step rfl (step_indent_lineBreak indented (.inr rfl) skipped)
          ((Continues.lines .lf starts).direct _)

/-- Every written line gives what it states, and then what follows it. -/
theorem starts_line {line : Line} (plain : line.Plain) (h : Continues tail items) :
    Starts (line.chars ++ tail) (line.item?.toList ++ items) := by
  cases line with
  | blank indent => exact starts_blank plain h
  | comment mark text => exact starts_comment plain h
  | header name =>
    intro p _
    have parted : (Line.header name).chars ++ tail = '[' :: (name.toList ++ ']' :: tail) := by
      simp [Line.chars]
    rw [parted, skipGap_of_notBlank (c := '[') rfl, and_self]
    exact reads_header plain h p
  | field key value =>
    obtain ⟨hk, hv⟩ := plain
    intro p _
    have reads := reads_field hk hv h p
    have unmoved : skipGap ⟨(Line.field key value).chars ++ tail, p⟩ =
        ⟨(Line.field key value).chars ++ tail, p⟩ := by
      obtain ⟨first, rest, chars⟩ :=
        List.exists_cons_of_ne_nil (mt String.toList_eq_nil_iff.mp hk.nonempty)
      have visible := isBlank_of_isNameChar (hk.plain first (by rw [chars]; exact .head _))
      simp only [Line.chars, chars, List.cons_append, skipGap_of_notBlank visible]
    rw [unmoved, and_self]
    exact reads

end Line

/-- All lines together give what they state. -/
theorem starts_lines {last : Line} (plain_last : last.Plain) {lines : List (Line × LineEnd)}
    (plain : ∀ line ∈ lines, line.1.Plain) :
    Starts (Layout.charsOf last lines) (Layout.itemsOf last lines) := by
  induction lines with
  | nil =>
    have ended := starts_line plain_last .nothing
    rwa [List.append_nil, List.append_nil] at ended
  | cons line lines ih =>
    obtain ⟨first, plain⟩ := List.forall_mem_cons.mp plain
    have starts := starts_line first (Continues.lines line.2 (ih plain))
    have chars : Layout.charsOf last (line :: lines) =
        line.1.chars ++ (line.2.chars ++ Layout.charsOf last lines) := by
      simp [Layout.charsOf]
    have items : Layout.itemsOf last (line :: lines) =
        line.1.item?.toList ++ Layout.itemsOf last lines := by
      cases stated : line.1.item? <;> simp [Layout.itemsOf, stated]
    rwa [chars, items]

/-- **Written items are read**: a text in plain lines gives what its lines state, in their order. -/
theorem items_text {l : Layout} (plain : l.Plain) : Ini.items l.text = .ok l.items := by
  have start : Cursor.start l.text = ⟨Layout.charsOf l.last l.lines, ⟨0, 0⟩⟩ := by
    rw [Cursor.start, Layout.text, String.toList_ofList]
  rw [Ini.items, start]
  exact (starts_lines plain.2 plain.1 ⟨0, 0⟩ rfl).1

end ChainDashboard.Ini
