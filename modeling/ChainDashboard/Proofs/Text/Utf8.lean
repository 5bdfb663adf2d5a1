import ChainDashboard.Text.Utf8

/-!
# Texts as bytes and back

Reading bytes never fails, and the bytes of a text are read as that text (`lossyText_bytes`): where
the bytes of a character stand, that character is found, with as many bytes as it has.
-/

namespace ChainDashboard.Text

/-! ## Reading one character -/

theorem within_iff {low high b : UInt8} :
    within low high b = true ↔ low.toNat ≤ b.toNat ∧ b.toNat ≤ high.toNat := by
  simp [within, UInt8.le_iff_toNat_le]

theorem not_within_of_lt {low high b : UInt8} (h : high.toNat < b.toNat) :
    ¬ within low high b = true := by
  rw [within_iff]
  omega

section FirstChar

variable {a b c d : UInt8} (rest : List UInt8)

theorem not_ascii (h : 0x80 ≤ a.toNat) : ¬ a < 0x80 :=
  Nat.not_lt.mpr h

theorem firstChar_one (ascii : a < 0x80) : firstChar a rest = (Char.ofNat a.toNat, 0) :=
  if_pos ascii

theorem firstChar_two (first : within 0xC2 0xDF a = true) (second : within 0x80 0xBF b = true) :
    firstChar a (b :: rest) = (Char.ofNat (a.toNat % 0x20 * 0x40 + payload b), 1) := by
  have ascii := not_ascii (Nat.le_trans (by decide) (within_iff.mp first).1)
  simp only [firstChar, if_neg ascii, if_pos first, if_pos second]

theorem firstChar_three (first : within 0xE0 0xEF a = true) (second : secondByte a b = true)
    (third : within 0x80 0xBF c = true) :
    firstChar a (b :: c :: rest) =
      (Char.ofNat ((a.toNat % 0x10 * 0x40 + payload b) * 0x40 + payload c), 2) := by
  have lead := (within_iff.mp first).1
  have ascii := not_ascii (Nat.le_trans (by decide) lead)
  have two : ¬ within 0xC2 0xDF a = true := not_within_of_lt (Nat.lt_of_lt_of_le (by decide) lead)
  simp only [firstChar, if_neg ascii, if_neg two, if_pos first, if_pos second, if_pos third]

theorem firstChar_four (first : within 0xF0 0xF4 a = true) (second : secondByte a b = true)
    (third : within 0x80 0xBF c = true) (fourth : within 0x80 0xBF d = true) :
    firstChar a (b :: c :: d :: rest) =
      (Char.ofNat (((a.toNat % 0x08 * 0x40 + payload b) * 0x40 + payload c) * 0x40 + payload d),
        3) := by
  have lead := (within_iff.mp first).1
  have ascii := not_ascii (Nat.le_trans (by decide) lead)
  have two : ¬ within 0xC2 0xDF a = true := not_within_of_lt (Nat.lt_of_lt_of_le (by decide) lead)
  have three : ¬ within 0xE0 0xEF a = true := not_within_of_lt (Nat.lt_of_lt_of_le (by decide) lead)
  simp only [firstChar, if_neg ascii, if_neg two, if_neg three, if_pos first, if_pos second,
    if_pos third, if_pos fourth]

/-- What a second byte may be depends on the first one only where that one is at a limit. -/
theorem secondByte_of_bounds (second : within 0x80 0xBF b = true)
    (e0 : a.toNat = 0xE0 → 0xA0 ≤ b.toNat) (ed : a.toNat = 0xED → b.toNat ≤ 0x9F)
    (f0 : a.toNat = 0xF0 → 0x90 ≤ b.toNat) (f4 : a.toNat = 0xF4 → b.toNat ≤ 0x8F) :
    secondByte a b = true := by
  obtain ⟨low, high⟩ := within_iff.mp second
  rw [secondByte]
  split
  · rename_i limit
    exact within_iff.mpr ⟨e0 (congrArg UInt8.toNat limit), high⟩
  split
  · rename_i limit
    exact within_iff.mpr ⟨low, ed (congrArg UInt8.toNat limit)⟩
  split
  · rename_i limit
    exact within_iff.mpr ⟨f0 (congrArg UInt8.toNat limit), high⟩
  split
  · rename_i limit
    exact within_iff.mpr ⟨low, f4 (congrArg UInt8.toNat limit)⟩
  · exact second

end FirstChar

/-! ## Encoded characters -/

theorem toNat_ofNat_of_lt {n : Nat} (h : n < 256) : (UInt8.ofNat n).toNat = n := by
  rw [UInt8.toNat_ofNat', Nat.mod_eq_of_lt h]

/-- A byte that continues a character carries six bits of it. -/
theorem continuation (n : Nat) :
    within 0x80 0xBF (UInt8.ofNat (n % 64 + 0x80)) = true ∧
      (UInt8.ofNat (n % 64 + 0x80)).toNat = n % 64 + 0x80 ∧
      payload (UInt8.ofNat (n % 64 + 0x80)) = n % 64 := by
  have byte : (UInt8.ofNat (n % 64 + 0x80)).toNat = n % 64 + 0x80 := toNat_ofNat_of_lt (by omega)
  refine ⟨within_iff.mpr ?_, byte, ?_⟩
  · rw [byte]
    exact ⟨by simp, by simp; omega⟩
  · rw [payload, byte]
    omega

/-- The bytes of a character are read as that character. -/
theorem firstChar_encoded (c : Char) (rest : List UInt8) :
    ∃ first more, String.utf8EncodeChar c = first :: more ∧
      firstChar first (more ++ rest) = (c, more.length) := by
  have valid : c.val.toNat < 0xD800 ∨ 0xDFFF < c.val.toNat ∧ c.val.toNat < 0x110000 := c.valid
  have whole {n k : Nat} (h : n = c.val.toNat) : (Char.ofNat n, k) = (c, k) := by
    rw [h]
    exact congrArg (·, k) (Char.ofNat_toNat c)
  have lead {n : Nat} (h : n < 256) : (UInt8.ofNat n).toNat = n := toNat_ofNat_of_lt h
  rw [String.utf8EncodeChar]
  generalize c.val.toNat = v at valid whole
  obtain ⟨second, secondByte, secondBits⟩ := continuation v
  obtain ⟨third, thirdByte, thirdBits⟩ := continuation (v / 64)
  obtain ⟨fourth, fourthByte, fourthBits⟩ := continuation (v / 4096)
  split
  · have byte : (UInt8.ofNat v).toNat = v := lead (by omega)
    refine ⟨_, _, rfl, (firstChar_one rest ?_).trans (whole byte)⟩
    rw [UInt8.lt_iff_toNat_lt, byte]
    exact Nat.lt_succ_of_le ‹_›
  split
  · have byte : (UInt8.ofNat (v / 64 % 32 + 0xC0)).toNat = v / 64 % 32 + 0xC0 := lead (by omega)
    refine ⟨_, _, rfl, (firstChar_two rest ?_ second).trans (whole ?_)⟩
    · rw [within_iff, byte]
      exact ⟨by simp; omega, by simp; omega⟩
    · rw [byte, secondBits]
      omega
  split
  · have byte : (UInt8.ofNat (v / 4096 % 16 + 0xE0)).toNat = v / 4096 % 16 + 0xE0 :=
      lead (by omega)
    refine ⟨_, _, rfl, (firstChar_three rest ?_ ?_ second).trans (whole ?_)⟩
    · rw [within_iff, byte]
      exact ⟨by simp, by simp; omega⟩
    · refine secondByte_of_bounds third ?_ ?_ ?_ ?_ <;> rw [byte, thirdByte] <;> omega
    · rw [byte, thirdBits, secondBits]
      omega
  · have byte : (UInt8.ofNat (v / 262144 % 8 + 0xF0)).toNat = v / 262144 % 8 + 0xF0 :=
      lead (by omega)
    refine ⟨_, _, rfl, (firstChar_four rest ?_ ?_ third second).trans (whole ?_)⟩
    · rw [within_iff, byte]
      exact ⟨by simp, by simp; omega⟩
    · refine secondByte_of_bounds fourth ?_ ?_ ?_ ?_ <;> rw [byte, fourthByte] <;> omega
    · rw [byte, fourthBits, thirdBits, secondBits]
      omega

theorem lossyChars_encoded (c : Char) (rest : List UInt8) :
    lossyChars (String.utf8EncodeChar c ++ rest) = c :: lossyChars rest := by
  obtain ⟨first, more, encoded, found⟩ := firstChar_encoded c rest
  rw [encoded, List.cons_append, lossyChars, found, List.drop_left]

theorem bytes_eq (s : String) : bytes s = s.toList.flatMap String.utf8EncodeChar := by
  rw [bytes, String.toUTF8_eq_toByteArray, ← String.utf8Encode_toList, List.utf8Encode,
    List.data_toByteArray]

/-- **A text is read back from its bytes.** -/
theorem lossyText_bytes (s : String) : lossyText (bytes s) = s := by
  have chars (cs : List Char) : lossyChars (cs.flatMap String.utf8EncodeChar) = cs := by
    induction cs with
    | nil => rw [List.flatMap_nil, lossyChars]
    | cons c cs ih => rw [List.flatMap_cons, lossyChars_encoded, ih]
  rw [lossyText, bytes_eq, chars, String.ofList_toList]

end ChainDashboard.Text
