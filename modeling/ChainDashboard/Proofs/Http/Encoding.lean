import ChainDashboard.Http.Target
import ChainDashboard.Proofs.Text.Utf8
import Mathlib.Data.List.TakeWhile

/-!
# Texts in queries

A query carries a name and a value with every byte escaped that is no letter, no digit and none of
four marks. Whatever the value is, the server finds it under its name (`parameter_query`), because
what was encoded holds none of the characters that queries are cut at. A path without escapes is
compared with the routes as it is.
-/

namespace ChainDashboard.Http

/-! ## Escaping -/

/-- A character that stands for itself everywhere in a target. -/
def isUnreserved (c : Char) : Bool := c.isAlphanum || "-._~".toList.contains c

/-- The digit of a number below sixteen. -/
def hexDigit (n : Nat) : Char := (Nat.digitChar n).toUpper

/-- A byte as queries carry it. -/
def escapeByte (b : UInt8) : List Char :=
  if isUnreserved (Char.ofNat b.toNat) then [Char.ofNat b.toNat]
  else ['%', hexDigit (b.toNat / 16), hexDigit (b.toNat % 16)]

/-- A text as queries carry it. -/
def percentEncode (s : String) : List Char := (Text.bytes s).flatMap escapeByte

/-- The query with one parameter. -/
def query (name value : String) : String :=
  String.ofList (percentEncode name ++ '=' :: percentEncode value)

/-! ## The characters of what was escaped -/

theorem hexDigit_spec : ∀ n < 16, isUnreserved (hexDigit n) = true ∧
    hexDigit? (UInt8.ofNat (hexDigit n).toNat) = some n := by
  decide

theorem toNat_lt_of_isUnreserved {c : Char} (h : isUnreserved c = true) : c.toNat < 0x80 := by
  rw [isUnreserved, Bool.or_eq_true, List.contains_iff_mem] at h
  rcases h with alphanumeric | mark
  · have ranges : (decide (65 ≤ c.toNat ∧ c.toNat ≤ 90) || (97 ≤ c.toNat && c.toNat ≤ 122) ||
        (48 ≤ c.toNat && c.toNat ≤ 57)) = true := alphanumeric
    simp only [Bool.or_eq_true, Bool.and_eq_true, decide_eq_true_eq] at ranges
    omega
  · have marks : "-._~".toList.all (fun c => c.toNat < 0x80) = true := by decide
    exact of_decide_eq_true (List.all_eq_true.mp marks c mark)

/-- What was encoded has nothing but unreserved characters and percent signs. -/
theorem mem_percentEncode {s : String} {c : Char} (h : c ∈ percentEncode s) :
    isUnreserved c = true ∨ c = '%' := by
  obtain ⟨b, -, escaped⟩ := List.mem_flatMap.mp h
  have byte : b.toNat < 256 := b.toNat_lt
  rw [escapeByte] at escaped
  split at escaped
  · rename_i unreserved
    exact .inl (List.mem_singleton.mp escaped ▸ unreserved)
  · simp only [List.mem_cons, List.not_mem_nil, or_false] at escaped
    rcases escaped with rfl | rfl | rfl
    · exact .inr rfl
    · exact .inl (hexDigit_spec _ (by omega)).1
    · exact .inl (hexDigit_spec _ (by omega)).1

theorem notMem_percentEncode {c : Char} (reserved : isUnreserved c = false) (other : c ≠ '%')
    (s : String) : c ∉ percentEncode s := by
  intro h
  rcases mem_percentEncode h with unreserved | percent
  · exact absurd unreserved (by simp [reserved])
  · exact other percent

/-! ## Undoing escapes -/

/-- The bytes of ASCII characters. -/
def asciiBytes (cs : List Char) : List UInt8 := cs.map fun c => UInt8.ofNat c.toNat

theorem bytes_ascii {cs : List Char} (ascii : ∀ c ∈ cs, c.toNat < 0x80) :
    Text.bytes (String.ofList cs) = asciiBytes cs := by
  rw [Text.bytes_eq, String.toList_ofList]
  induction cs with
  | nil => rfl
  | cons c cs ih =>
    obtain ⟨first, rest⟩ := List.forall_mem_cons.mp ascii
    have one : String.utf8EncodeChar c = [UInt8.ofNat c.toNat] := if_pos (Nat.le_of_lt_succ first)
    rw [List.flatMap_cons, ih rest, one]
    rfl

theorem unescape_cons {keep : UInt8 → Bool} {first : UInt8} (plain : first ≠ 0x25)
    (rest : List UInt8) : unescape keep (first :: rest) = first :: unescape keep rest := by
  have none : escaped? first rest = none := by simp [escaped?, plain]
  rw [unescape, none, Option.filter_none]

theorem unescape_of_plain {keep : UInt8 → Bool} {bytes : List UInt8}
    (plain : ∀ b ∈ bytes, b ≠ 0x25) : unescape keep bytes = bytes := by
  induction bytes with
  | nil => rw [unescape]
  | cons first rest ih =>
    obtain ⟨first, rest⟩ := List.forall_mem_cons.mp plain
    rw [unescape_cons first, ih rest]

theorem unescape_escapeByte (b : UInt8) (rest : List UInt8) :
    unescape (fun _ => false) (asciiBytes (escapeByte b) ++ rest) =
      b :: unescape (fun _ => false) rest := by
  have byte : b.toNat < 256 := b.toNat_lt
  rw [escapeByte]
  split
  · rename_i unreserved
    have valid : b.toNat.isValidChar := .inl (by omega)
    have char : (Char.ofNat b.toNat).toNat = b.toNat := by
      rw [Char.ofNat, dif_pos valid]
      rfl
    have plain : b ≠ 0x25 := by
      rintro rfl
      exact absurd unreserved (by decide)
    -- the byte stands for itself, and does not start an escape
    show unescape _ (UInt8.ofNat (Char.ofNat b.toNat).toNat :: rest) = _
    rw [char, UInt8.ofNat_toNat, unescape_cons plain]
  · obtain ⟨-, high⟩ := hexDigit_spec (b.toNat / 16) (by omega)
    obtain ⟨-, low⟩ := hexDigit_spec (b.toNat % 16) (by omega)
    have joined : escaped? 0x25 (UInt8.ofNat (hexDigit (b.toNat / 16)).toNat ::
        UInt8.ofNat (hexDigit (b.toNat % 16)).toNat :: rest) = some b := by
      simp only [escaped?, decide_true, high, low]
      rw [Nat.div_add_mod']
      simp
    show unescape _ (0x25 :: _ :: _ :: rest) = _
    rw [unescape, joined]
    rfl

/-- **A value is read back from its query.** -/
theorem decodeForm_percentEncode (s : String) : decodeForm (percentEncode s) = s := by
  have noPlus : (percentEncode s).map (fun c => if c = '+' then ' ' else c) = percentEncode s := by
    refine (List.map_congr_left fun c h => if_neg ?_).trans (List.map_id _)
    rintro rfl
    exact notMem_percentEncode (by decide) (by decide) s h
  have ascii : ∀ c ∈ percentEncode s, c.toNat < 0x80 := by
    intro c h
    rcases mem_percentEncode h with unreserved | rfl
    · exact toNat_lt_of_isUnreserved unreserved
    · decide
  -- byte by byte, since an escape is never cut by what follows
  have undone (bytes : List UInt8) :
      unescape (fun _ => false) (asciiBytes (bytes.flatMap escapeByte)) = bytes := by
    induction bytes with
    | nil => rw [List.flatMap_nil, asciiBytes, List.map_nil, unescape]
    | cons b bytes ih =>
      rw [List.flatMap_cons, asciiBytes, List.map_append]
      exact (unescape_escapeByte b _).trans (congrArg (b :: ·) ih)
  rw [decodeForm, noPlus, bytes_ascii ascii, percentEncode, undone, Text.lossyText_bytes]

/-! ## Targets -/

/-- A name and its value as a part of a query. -/
def part (p : String × String) : List Char := percentEncode p.1 ++ '=' :: percentEncode p.2

theorem notMem_part (p : String × String) : '&' ∉ part p := by
  have absent := notMem_percentEncode (c := '&') (by decide) (by decide)
  simp [part, absent]

theorem decode_part (p : String × String) :
    (decodeForm ((part p).takeWhile (· ≠ '=')),
      decodeForm (((part p).dropWhile (· ≠ '=')).drop 1)) = p := by
  have noEquals : ∀ c ∈ percentEncode p.1, decide (c ≠ '=') = true := by
    rintro c h
    refine decide_eq_true ?_
    rintro rfl
    exact notMem_percentEncode (by decide) (by decide) p.1 h
  rw [part, List.takeWhile_append_of_pos noEquals, List.dropWhile_append_of_pos noEquals,
    List.takeWhile_cons_of_neg (by simp), List.dropWhile_cons_of_neg (by simp), List.append_nil,
    List.drop_one, List.tail_cons, decodeForm_percentEncode, decodeForm_percentEncode]

/-- The query with some parameters, in their order. -/
def queryOf (ps : List (String × String)) : String :=
  String.ofList (['&'].intercalate (ps.map part))

/-- The parameters of a query are read back, those with the same name too. -/
theorem parameters_queryOf (path : String) (ps : List (String × String)) :
    (Target.mk path (queryOf ps)).parameters = ps := by
  rw [Target.parameters, queryOf, String.toList_ofList]
  by_cases none : ps = []
  · rw [none]
    rfl
  · have cut : (['&'].intercalate (ps.map part)).splitOn '&' = ps.map part := by
      refine List.splitOn_intercalate '&' (fun cs mem => ?_) (by simpa using none)
      obtain ⟨p, -, rfl⟩ := List.mem_map.mp mem
      exact notMem_part p
    have nonempty : (ps.map part).filter (fun cs => decide (cs ≠ [])) = ps.map part := by
      rw [List.filter_eq_self]
      intro cs mem
      obtain ⟨p, -, rfl⟩ := List.mem_map.mp mem
      simp [part]
    rw [cut, nonempty, List.map_map]
    exact (List.map_congr_left fun p _ => decode_part p).trans (List.map_id _)

theorem parameters_query (path name value : String) :
    (Target.mk path (query name value)).parameters = [(name, value)] := by
  have single : query name value = queryOf [(name, value)] := by
    rw [query, queryOf, List.map_singleton, List.intercalate_singleton, part]
  rw [single, parameters_queryOf]

/-- The parameter of a query is found in it. -/
theorem parameter_query (path name value : String) :
    (Target.mk path (query name value)).parameter name = .ok (some value) := by
  rw [Target.parameter, parameters_query, List.filter_cons_of_pos (by simp), List.filter_nil]

example : query "chainName" "a & b" = "chainName=a%20%26%20b" := by decide +kernel

theorem parameter_emptyQuery (path name : String) :
    (Target.mk path "").parameter name = .ok none := by
  have parameters : (Target.mk path "").parameters = [] := rfl
  rw [Target.parameter, parameters, List.filter_nil]

/-! ## Paths -/

/-- A path of characters that stand for themselves. -/
def isPlain (path : String) : Bool := path.toList.all fun c => isPathChar c && c ≠ '%'

theorem isPlain_iff {path : String} :
    isPlain path = true ↔ ∀ c ∈ path.toList, isPathChar c = true ∧ c ≠ '%' := by
  simp [isPlain]

theorem toNat_lt_of_isPathChar {c : Char} (h : isPathChar c = true) : c.toNat < 0x80 := by
  simp only [isPathChar, Bool.or_eq_true, Bool.and_eq_true, decide_eq_true_eq] at h
  omega

/-- A path without escapes is compared with the routes as it is. -/
theorem decodedPath_of_plain {path : String} (plain : isPlain path = true) (query : String) :
    (Target.mk path query).decodedPath = path := by
  rw [isPlain_iff] at plain
  have ascii : ∀ c ∈ path.toList, c.toNat < 0x80 :=
    fun c mem => toNat_lt_of_isPathChar (plain c mem).1
  have bytes : Text.bytes path = asciiBytes path.toList := by
    rw [← bytes_ascii ascii, String.ofList_toList]
  have noPercent : ∀ b ∈ Text.bytes path, b ≠ 0x25 := by
    rw [bytes]
    intro b h
    obtain ⟨c, mem, rfl⟩ := List.mem_map.mp h
    intro percent
    have same := congrArg UInt8.toNat percent
    rw [Text.toNat_ofNat_of_lt (Nat.lt_trans (ascii c mem) (by decide))] at same
    exact (plain c mem).2 (Char.toNat_inj.mp same)
  rw [Target.decodedPath, unescape_of_plain noPercent, Text.lossyText_bytes]

end ChainDashboard.Http
