import ChainDashboard.Document.Basic
import ChainDashboard.Text.Quoted

/-!
The INI grammar of configuration documents: `[name]` opens a section, `key = value` or `key: value`
adds a field to it, and lines that start with `;` or `#` are comments. Names, keys and values may
hold backslash escapes, and a value may be made of quoted parts. The reader walks the text with a
cursor that knows its line and column; every step of the main loop shortens what is left, which is
why it ends (`step_shorter`).
-/
namespace ChainDashboard.Ini

/-! ## Positions and cursors -/

/-- A place in a text. Lines and columns count from zero. -/
structure Position where
  line : Nat
  column : Nat
  deriving DecidableEq, Repr

/-- The place after a character: a newline starts a line, all others move along it. -/
def Position.after (p : Position) (c : Char) : Position :=
  if c = '\n' then ⟨p.line + 1, 0⟩ else ⟨p.line, p.column + 1⟩

/-- The part of a text that is still to be read, and the place reached by what was read. -/
structure Cursor where
  rest : List Char
  passed : Position

namespace Cursor

/-- The cursor before the first character of a text. -/
def start (text : String) : Cursor := ⟨text.toList, ⟨0, 0⟩⟩

/-- The character under the cursor, `none` at the end. -/
def peek? (c : Cursor) : Option Char := c.rest.head?

/-- The place that a problem found here is reported at: that of the character under the cursor,
counted together with it. -/
def here (c : Cursor) : Position :=
  match c.rest with
  | [] => c.passed
  | ch :: _ => c.passed.after ch

/-- Moves past the character under the cursor. -/
def next (c : Cursor) : Cursor :=
  match c.rest with
  | [] => c
  | ch :: rest => ⟨rest, c.passed.after ch⟩

/-- Moves past all leading characters that pass a test. -/
def skip (test : Char → Bool) (c : Cursor) : Cursor :=
  ⟨c.rest.dropWhile test, (c.rest.takeWhile test).foldl Position.after c.passed⟩

/-- The number of characters that are left. -/
def size (c : Cursor) : Nat := c.rest.length

theorem size_next_le (c : Cursor) : c.next.size ≤ c.size := by
  unfold next size
  split <;> simp_all

theorem size_next_lt {c : Cursor} {ch : Char} (h : c.peek? = some ch) : c.next.size < c.size := by
  unfold peek? at h
  unfold next size
  split <;> simp_all

theorem size_skip_le (test : Char → Bool) (c : Cursor) : (c.skip test).size ≤ c.size :=
  (List.dropWhile_sublist test).length_le

theorem size_skip_lt {test : Char → Bool} {c : Cursor} {ch : Char} (h : c.peek? = some ch)
    (pass : test ch = true) : (c.skip test).size < c.size := by
  unfold peek? at h
  unfold skip size
  match hr : c.rest with
  | [] => simp [hr] at h
  | x :: rest =>
    have : x = ch := by simpa [hr] using h
    subst this
    simp only [List.dropWhile_cons, pass, if_true, List.length_cons]
    exact Nat.lt_succ_of_le (List.dropWhile_sublist test).length_le

end Cursor

/-! ## Problems -/

/-- Why a text is not a document. -/
inductive Problem where
  /-- A comment that does not start in the first column. -/
  | inlineComment
  /-- A value without a key. -/
  | missingKey
  /-- The text ended before one of the expected characters. -/
  | unfinished (expected : List (Option Char))
  /-- A backslash among the digits of a code point that no newline follows. -/
  | brokenContinuation (found : Option Char)
  /-- The digits of an escape are not those of a character. -/
  | noCharacter
  deriving DecidableEq, Repr

/-- What a problem is called. -/
def Problem.message : Problem → String
  | .inlineComment => "doesn't support inline comment"
  | .missingKey => "missing key"
  | .unfinished expected =>
    "expecting \"" ++ Text.bracketed (expected.map Text.quotedChar?) ++ "\" but found EOF."
  | .brokenContinuation found =>
    "expecting \"\\\\n\" but found \"" ++ Text.quotedChar? found ++ "\"."
  | .noCharacter => "unknown character in \\xHH form"

/-- A problem and where it was found. -/
structure SyntaxError where
  position : Position
  problem : Problem
  deriving DecidableEq, Repr

/-- The report of an error; lines and columns are shown counting from one. -/
def SyntaxError.message (e : SyntaxError) : String :=
  toString (e.position.line + 1) ++ ":" ++ toString (e.position.column + 1) ++ " " ++
    e.problem.message

/-- Reading stopped at a problem, with the cursor on the character that caused it. -/
structure Stop where
  cursor : Cursor
  problem : Problem

/-- The error that a stop is reported as. -/
def Stop.error (s : Stop) : SyntaxError := ⟨s.cursor.here, s.problem⟩

/-- What reading a piece of text gives: the characters it stands for and the cursor behind it. -/
abbrev Reading := Except Stop (List Char × Cursor)

/-- Where a reading left off, whether it succeeded or not. -/
def Reading.cursor : Reading → Cursor
  | .ok (_, c) => c
  | .error stop => stop.cursor

/-! ## Text with escapes -/

/-- The characters after `\x`, of which there have to be `count`. A backslash is only allowed
before a newline, and then counts as one of them. The cursor stays on the last one. -/
def readCode (expected : List (Option Char)) : Nat → Cursor → Reading
  | 0, c => .ok ([], c)
  | count + 1, c =>
    let c := c.next
    match c.peek? with
    | none => .error ⟨c, .unfinished expected⟩
    | some '\\' =>
      let c := c.next
      if c.peek? = some '\n' then
        match readCode expected count c with
        | .ok (more, c) => .ok ('\\' :: more, c)
        | .error stop => .error stop
      else .error ⟨c, .brokenContinuation c.peek?⟩
    | some ch =>
      match readCode expected count c with
      | .ok (more, c) => .ok (ch :: more, c)
      | .error stop => .error stop

/-- The character with the code point that the digits give. -/
def character? (digits : List Char) : Option Char :=
  (Text.natural? 16 digits).bind fun n =>
    if h : n.isValidChar then some (Char.ofNatAux n h) else none

/-- What the backslash under the cursor and the characters it governs stand for. -/
def readEscape (expected : List (Option Char)) (c : Cursor) : Reading :=
  let c := c.next
  match c.peek? with
  | none => .ok (['\\'], c)
  | some '0' => .ok (['\x00'], c.next)
  | some 'a' => .ok (['\x07'], c.next)
  | some 'b' => .ok (['\x08'], c.next)
  | some 't' => .ok (['\t'], c.next)
  | some 'r' => .ok (['\r'], c.next)
  | some 'n' => .ok (['\n'], c.next)
  | some '\n' => .ok ([], c.next)
  | some 'x' =>
    match readCode expected 4 c with
    | .error stop => .error stop
    | .ok (digits, c) =>
      match character? digits with
      | some ch => .ok ([ch], c.next)
      | none => .error ⟨c, .noCharacter⟩
  | some ch => .ok ([ch], c.next)

theorem size_readCode_le (expected : List (Option Char)) (count : Nat) (c : Cursor) :
    (readCode expected count c).cursor.size ≤ c.size := by
  induction count generalizing c with
  | zero => exact Nat.le_refl _
  | succ count ih =>
    have h1 := c.size_next_le
    have h2 := c.next.size_next_le
    have i1 := ih c.next
    have i2 := ih c.next.next
    unfold readCode
    simp only
    split
    · exact h1
    · split
      · split <;> rename_i e <;> rw [e] at i2 <;> simp only [Reading.cursor] at * <;> omega
      · simp only [Reading.cursor]; omega
    · split <;> rename_i e <;> rw [e] at i1 <;> simp only [Reading.cursor] at * <;> omega

theorem size_readEscape_lt (expected : List (Option Char)) {c : Cursor} {ch : Char}
    (h : c.peek? = some ch) : (readEscape expected c).cursor.size < c.size := by
  have h1 := Cursor.size_next_lt h
  have h2 := c.next.size_next_le
  have h3 := size_readCode_le expected 4 c.next
  unfold readEscape
  simp only
  split <;> try (simp only [Reading.cursor]; omega)
  split
  · rename_i e
    rw [e] at h3
    simp only [Reading.cursor] at *
    omega
  · rename_i c' e
    rw [e] at h3
    have h4 := c'.size_next_le
    split <;> simp only [Reading.cursor] at * <;> omega

/-- Reads up to, and not including, one of the expected characters; `none` among them stands for
the end of the text. -/
def readUntil (expected : List (Option Char)) (c : Cursor) : Reading :=
  if expected.contains c.peek? then .ok ([], c)
  else
    match h : c.peek? with
    | none => .error ⟨c, .unfinished expected⟩
    | some '\\' =>
      match e : readEscape expected c with
      | .error stop => .error stop
      | .ok (chars, c') =>
        have : c'.size < c.size := by
          have := size_readEscape_lt expected h
          rwa [e] at this
        match readUntil expected c' with
        | .error stop => .error stop
        | .ok (more, c'') => .ok (chars ++ more, c'')
    | some ch =>
      have : c.next.size < c.size := Cursor.size_next_lt h
      match readUntil expected c.next with
      | .error stop => .error stop
      | .ok (more, c') => .ok (ch :: more, c')
termination_by c.size

theorem size_readUntil_le (expected : List (Option Char)) (c : Cursor) :
    (readUntil expected c).cursor.size ≤ c.size := by
  fun_induction readUntil expected c with
  | case1 => exact Nat.le_refl _
  | case2 => exact Nat.le_refl _
  | case3 c _ h stop e =>
    have := size_readEscape_lt expected h
    rw [e] at this
    exact Nat.le_of_lt this
  | case4 c _ h chars c' e lt stop e' ih =>
    rw [e'] at ih
    exact Nat.le_trans ih (Nat.le_of_lt lt)
  | case5 c _ h chars c' e lt more c'' e' ih =>
    rw [e'] at ih
    exact Nat.le_trans ih (Nat.le_of_lt lt)
  | case6 c _ ch _ h lt stop e ih =>
    rw [e] at ih
    exact Nat.le_trans ih (Nat.le_of_lt lt)
  | case7 c _ ch _ h lt more c' e ih =>
    rw [e] at ih
    exact Nat.le_trans ih (Nat.le_of_lt lt)

/-- Unless an expected character comes first, something is read. -/
theorem size_readUntil_lt {expected : List (Option Char)} {c : Cursor} {ch : Char}
    (hc : c.peek? = some ch) (h : some ch ∉ expected) :
    (readUntil expected c).cursor.size < c.size := by
  fun_cases readUntil expected c with
  | case1 found => simp_all
  | case2 _ end? => simp_all
  | case3 _ h' stop e =>
    have := size_readEscape_lt expected h'
    rwa [e] at this
  | case4 _ h' chars c' e lt stop e' =>
    have := size_readUntil_le expected c'
    rw [e'] at this
    exact Nat.lt_of_le_of_lt this lt
  | case5 _ h' chars c' e lt more c'' e' =>
    have := size_readUntil_le expected c'
    rw [e'] at this
    exact Nat.lt_of_le_of_lt this lt
  | case6 _ ch _ h' lt stop e =>
    have := size_readUntil_le expected c.next
    rw [e] at this
    exact Nat.lt_of_le_of_lt this lt
  | case7 _ ch _ h' lt more c' e =>
    have := size_readUntil_le expected c.next
    rw [e] at this
    exact Nat.lt_of_le_of_lt this lt

/-- Reads a value: any number of quoted parts and then the rest of the line. Quoted parts stand as
they are. White space is cut from the end of the rest, and from its start only if no quoted part
comes before it. -/
def readValue (first : Bool) (c : Cursor) : Reading :=
  match h : c.peek? with
  | none => .ok ([], c)
  | some ch =>
    if ch = '"' ∨ ch = '\x27' then
      match e : readUntil [some ch] c.next with
      | .error stop => .error stop
      | .ok (chars, c') =>
        have : c'.next.size < c.size := by
          have h1 := Cursor.size_next_lt h
          have h2 := size_readUntil_le [some ch] c.next
          have h3 := c'.size_next_le
          rw [e] at h2
          simp only [Reading.cursor] at h2
          omega
        match readValue false c'.next with
        | .error stop => .error stop
        | .ok (more, c'') => .ok (chars ++ more, c'')
    else
      match readUntil [some '\n', some '\r', none] c with
      | .error stop => .error stop
      | .ok (chars, c') => .ok (if first then Text.trimChars chars else Text.trimEnd chars, c')
termination_by c.size

theorem size_readValue_le (first : Bool) (c : Cursor) :
    (readValue first c).cursor.size ≤ c.size := by
  fun_induction readValue first c with
  | case1 => exact Nat.le_refl _
  | case2 first c ch h _ stop e =>
    have h1 := Cursor.size_next_lt h
    have h2 := size_readUntil_le [some ch] c.next
    rw [e] at h2
    exact Nat.le_trans h2 (Nat.le_of_lt h1)
  | case3 first c ch h _ chars c' e lt stop e' ih =>
    rw [e'] at ih
    exact Nat.le_trans ih (Nat.le_of_lt lt)
  | case4 first c ch h _ chars c' e lt more c'' e' ih =>
    rw [e'] at ih
    exact Nat.le_trans ih (Nat.le_of_lt lt)
  | case5 first c ch h _ stop e =>
    have := size_readUntil_le [some '\n', some '\r', none] c
    rwa [e] at this
  | case6 first c ch h _ chars c' e =>
    have := size_readUntil_le [some '\n', some '\r', none] c
    rwa [e] at this

/-! ## Items -/

/-- What a text is made of: sections that open, and fields of the section that is open. -/
inductive Item where
  | header (name : String)
  | field (key value : String)
  deriving DecidableEq, Repr

/-- The white space that indents a line. -/
def isIndent (c : Char) : Bool := c = ' ' || c = '\t'

/-- A character that ends a line. -/
def isLineBreak (c : Char) : Bool := c = '\n' || c = '\r'

/-- Moves past white space between items. A line break before an indented line ends the gap, as
what follows it may belong to that line. -/
def skipGap (c : Cursor) : Cursor := go c.rest c.passed
where
  go : List Char → Position → Cursor
    | [], p => ⟨[], p⟩
    | ch :: rest, p =>
      if isLineBreak ch then
        if rest.head?.any isIndent then ⟨rest, p.after ch⟩ else go rest (p.after ch)
      else if Text.isBlank ch then go rest (p.after ch)
      else ⟨ch :: rest, p⟩

/-- The state between two steps: where reading continues, the key that waits for its value, and
the item that the step found. -/
structure Round where
  cursor : Cursor
  key : String
  item? : Option Item

/-- Ends a step with the gap behind what it read. -/
def finish (c : Cursor) (key : String) (item? : Option Item) : Except SyntaxError Round :=
  .ok ⟨skipGap c, key, item?⟩

/-- Reads the header whose bracket is under the cursor. -/
def readHeader (c : Cursor) (key : String) : Except SyntaxError Round :=
  match readUntil [some ']'] c.next with
  | .error stop => .error stop.error
  | .ok (chars, c) => finish c.next key (some (.header (String.ofList (Text.trimChars chars))))

/-- The key of a field, trimmed. -/
def readKey (c : Cursor) : Reading :=
  match readUntil [some '=', some ':'] c with
  | .error stop => .error stop
  | .ok (chars, c) => .ok (Text.trimChars chars, c)

/-- Reads one item or a part of it. `key` is the key read last, empty when none is waiting. -/
def step (c : Cursor) (key : String) : Except SyntaxError Round :=
  match c.peek? with
  | none => .ok ⟨c, key, none⟩
  | some ch =>
    if ch = ';' ∨ ch = '#' then
      if c.here.column > 1 then .error ⟨c.here, .inlineComment⟩
      else finish (c.skip (· ≠ '\n')).next key none
    else if ch = '[' then readHeader c key
    else if ch = '=' ∨ ch = ':' then
      if key.isEmpty then .error ⟨c.here, .missingKey⟩
      else
        match readValue true (c.next.skip fun x => Text.isBlank x && !isLineBreak x) with
        | .error stop => .error stop.error
        | .ok (chars, c) => finish c "" (some (.field key (String.ofList chars)))
    else if isIndent ch then
      let c := c.skip isIndent
      match c.peek? with
      | some '[' => readHeader c key
      | some '\n' => .ok ⟨c.next, key, none⟩
      | some '\r' => .ok ⟨c.next, key, none⟩
      | _ =>
        match readKey c with
        | .ok (chars, c) => finish c (String.ofList chars) none
        | .error stop => finish stop.cursor key none
    else if isLineBreak ch then finish c.next key none
    else
      match readKey c with
      | .ok (chars, c) => finish c (String.ofList chars) none
      | .error stop => .error stop.error

theorem size_skipGap_le (c : Cursor) : (skipGap c).size ≤ c.size := by
  have h (cs : List Char) (p : Position) : (skipGap.go cs p).size ≤ cs.length := by
    fun_induction skipGap.go cs p <;> simp_all [Cursor.size] <;> omega
  exact h c.rest c.passed

theorem finish_shorter {c : Cursor} {key : String} {item? : Option Item} {r : Round}
    (h : finish c key item? = .ok r) : r.cursor.size ≤ c.size := by
  cases h
  exact size_skipGap_le c

theorem readHeader_shorter {c : Cursor} {key : String} {ch : Char} {r : Round}
    (hc : c.peek? = some ch) (h : readHeader c key = .ok r) : r.cursor.size < c.size := by
  have h1 := Cursor.size_next_lt hc
  have h2 := size_readUntil_le [some ']'] c.next
  unfold readHeader at h
  split at h
  · cases h
  · rename_i c' e
    rw [e] at h2
    have h3 := finish_shorter h
    have h4 := c'.size_next_le
    simp only [Reading.cursor] at h2
    omega

theorem size_readKey (c : Cursor) :
    (readKey c).cursor = (readUntil [some '=', some ':'] c).cursor := by
  unfold readKey
  split <;> rename_i e <;> simp only [e, Reading.cursor]

/-- A key is at least one character long where none of the characters that end it comes first. -/
theorem size_readKey_lt {c : Cursor} {ch : Char} (hc : c.peek? = some ch) (h1 : ch ≠ '=')
    (h2 : ch ≠ ':') : (readKey c).cursor.size < c.size := by
  rw [size_readKey]
  refine size_readUntil_lt hc ?_
  simp [h1, h2]

/-- Every step reads at least one character. -/
theorem step_shorter {c : Cursor} {key : String} {ch : Char} {r : Round} (hc : c.peek? = some ch)
    (h : step c key = .ok r) : r.cursor.size < c.size := by
  unfold step at h
  rw [hc] at h
  simp only at h
  have hnext := Cursor.size_next_lt hc
  split at h
  · split at h
    · cases h
    · have h1 := finish_shorter h
      have h2 := (c.skip (· ≠ '\n')).size_next_le
      rename_i comment _
      have pass : decide (ch ≠ '\n') = true := by
        rcases comment with rfl | rfl <;> decide
      have h3 : (c.skip fun x => decide (x ≠ '\n')).size < c.size := Cursor.size_skip_lt hc pass
      omega
  · split at h
    · exact readHeader_shorter hc h
    · split at h
      · split at h
        · cases h
        · split at h
          · cases h
          · rename_i chars c' e
            have h1 := finish_shorter h
            have h2 := size_readValue_le true
              (c.next.skip fun x => Text.isBlank x && !isLineBreak x)
            rw [e] at h2
            have h3 := c.next.size_skip_le fun x => Text.isBlank x && !isLineBreak x
            simp only [Reading.cursor] at h2
            omega
      · split at h
        · rename_i indent
          have h0 := Cursor.size_skip_lt hc indent
          split at h
          · rename_i hb
            exact Nat.lt_trans (readHeader_shorter hb h) h0
          · cases h
            exact Nat.lt_of_le_of_lt (Cursor.size_next_le _) h0
          · cases h
            exact Nat.lt_of_le_of_lt (Cursor.size_next_le _) h0
          · have le : (readKey (c.skip isIndent)).cursor.size ≤ (c.skip isIndent).size := by
              rw [size_readKey]
              exact size_readUntil_le _ _
            split at h <;> rename_i e <;> rw [e] at le <;>
              exact Nat.lt_of_le_of_lt (Nat.le_trans (finish_shorter h) le) h0
        · split at h
          · exact Nat.lt_of_le_of_lt (finish_shorter h) hnext
          · split at h
            · rename_i notField _ _ _ _ _ e
              have lt := size_readKey_lt hc (fun x => notField (.inl x)) (fun x => notField (.inr x))
              rw [e] at lt
              exact Nat.lt_of_le_of_lt (finish_shorter h) lt
            · cases h

/-- The items from the cursor on. -/
def itemsFrom (c : Cursor) (key : String) : Except SyntaxError (List Item) :=
  match hc : c.peek? with
  | none => .ok []
  | some _ =>
    match h : step c key with
    | .error e => .error e
    | .ok r =>
      have := step_shorter hc h
      match itemsFrom r.cursor r.key with
      | .error e => .error e
      | .ok items => .ok (r.item?.toList ++ items)
termination_by c.size

/-- The items of a text, in their order. -/
def items (text : String) : Except SyntaxError (List Item) := itemsFrom (.start text) ""

end ChainDashboard.Ini

/-! ## From items to a document -/

namespace ChainDashboard.Document

/-- A document under construction and the section that fields go to. -/
structure Draft where
  document : Document
  open? : Option String

/-- Takes in one item. A header opens an empty section in place of any earlier one of its name;
fields before the first header belong to no section and are dropped. -/
def Draft.add (d : Draft) : Ini.Item → Draft
  | .header name => ⟨⟨d.document.sections.insert name NameMap.empty⟩, some name⟩
  | .field key value =>
    match d.open? with
    | none => d
    | some name =>
      let record := (d.document.record? name).getD NameMap.empty
      ⟨⟨d.document.sections.insert name (record.insert key value)⟩, some name⟩

/-- The document that a list of items describes. -/
def ofItems (items : List Ini.Item) : Document :=
  (items.foldl Draft.add ⟨empty, none⟩).document

/-- Reads a document from its text. -/
def parse (text : String) : Except Ini.SyntaxError Document :=
  (Ini.items text).map ofItems

end ChainDashboard.Document
