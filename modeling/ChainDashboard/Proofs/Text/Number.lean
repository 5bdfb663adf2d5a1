import ChainDashboard.Text.Number

/-!
# Numbers that were written

Whatever whole number is written in decimal digits, with a minus sign if it is negative, is read
back as itself (`integer?_toString`). So a number of sixty-four bits survives being sent as text.
-/

namespace ChainDashboard.Text

theorem range_of_isDigit {c : Char} (h : c.isDigit = true) : 48 ≤ c.toNat ∧ c.toNat ≤ 57 := by
  simpa [Char.isDigit, UInt32.le_iff_toNat_le] using h

theorem digit?_of_isDigit {c : Char} (h : c.isDigit = true) : digit? c = some (c.toNat - 48) := by
  obtain ⟨least, most⟩ := range_of_isDigit h
  have bounds : ('0' ≤ c && c ≤ '9') = true := by
    simpa [Char.le_def, UInt32.le_iff_toNat_le] using And.intro least most
  rw [digit?, if_pos bounds]
  rfl

theorem continueDigits?_of_isDigit {cs : List Char} (digits : ∀ c ∈ cs, c.isDigit = true)
    (acc : Nat) : continueDigits? 10 acc cs = some (Nat.ofDigitChars 10 cs acc) := by
  induction cs generalizing acc with
  | nil => rw [continueDigits?, Nat.ofDigitChars_nil]
  | cons c rest ih =>
    obtain ⟨first, rest⟩ := List.forall_mem_cons.mp digits
    have range := range_of_isDigit first
    have small : c.toNat - 48 < 10 := by omega
    rw [continueDigits?, digit?_of_isDigit first, Nat.ofDigitChars_cons]
    simp only [if_pos small]
    rw [ih rest, Nat.mul_comm acc 10]
    rfl

theorem isDigit_of_mem_decimal {n : Nat} {c : Char} (h : c ∈ Nat.toDigits 10 n) :
    c.isDigit = true :=
  Nat.isDigit_of_mem_toDigits (by decide) (by decide) h

theorem digits?_decimal (n : Nat) : digits? 10 (Nat.toDigits 10 n) = some n := by
  have nonempty : (Nat.toDigits 10 n).isEmpty = false := by simp [Nat.toDigits_ne_nil]
  rw [digits?, nonempty, if_neg Bool.false_ne_true,
    continueDigits?_of_isDigit fun c h => isDigit_of_mem_decimal h, Nat.ofDigitChars_ten_toDigits]

/-- A whole number is read back from its text. -/
theorem integer?_toString (n : Int) : integer? 10 (toString n).toList = some n := by
  rw [Int.toString_eq_repr, Int.repr_eq_if]
  split
  · rename_i nonneg
    -- no digit is a sign, so the digits are read as they are
    have unsigned : integer? 10 (Nat.toDigits 10 n.toNat) =
        (digits? 10 (Nat.toDigits 10 n.toNat)).map Int.ofNat := by
      have digit {c : Char} (h : c ∈ Nat.toDigits 10 n.toNat) : c.isDigit = true :=
        isDigit_of_mem_decimal h
      cases written : Nat.toDigits 10 n.toNat with
      | nil => exact absurd written Nat.toDigits_ne_nil
      | cons c rest =>
        rw [written] at digit
        have noMinus : c ≠ '-' := by
          rintro rfl
          exact absurd (digit List.mem_cons_self) (by decide)
        have noPlus : c ≠ '+' := by
          rintro rfl
          exact absurd (digit List.mem_cons_self) (by decide)
        cases read : digits? 10 (c :: rest) <;> simp [integer?, natural?, noMinus, noPlus, read]
    rw [Nat.toList_repr, unsigned, digits?_decimal]
    exact congrArg some (Int.toNat_of_nonneg nonneg)
  · rename_i negative
    have written : ("-" ++ (-n).toNat.repr).toList = '-' :: Nat.toDigits 10 (-n).toNat := by
      simp
    have positive : ((-n).toNat : Int) = -n := Int.toNat_of_nonneg (by omega)
    rw [written, integer?, digits?_decimal]
    show some (-((-n).toNat : Int)) = some n
    rw [positive, Int.neg_neg]

/-- A number of sixty-four bits is read back from its text. -/
theorem readInt64?_toString (n : Int64) : readInt64? (toString n.toInt) = some n := by
  rw [readInt64?, integer?_toString, Option.bind_some,
    if_pos ⟨n.minValue_le_toInt, n.toInt_le⟩, Int64.ofInt_toInt]

end ChainDashboard.Text
