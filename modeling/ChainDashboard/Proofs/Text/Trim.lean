import ChainDashboard.Text.Trim
import Mathlib.Data.List.DropRight

/-!
# Trimming twice

White space is gone after one trim, so a setting that was stored trimmed reads the same again.
-/

namespace ChainDashboard.Text

/-- Dropping from the end leaves the first character, so none in front becomes white space. -/
theorem trimStart_trimEnd_trimStart (cs : List Char) :
    trimStart (trimEnd (trimStart cs)) = trimEnd (trimStart cs) := by
  rw [trimStart, List.dropWhile_eq_self_iff]
  intro nonempty
  have first := List.rdropWhile_prefix isBlank (trimStart cs)
  rw [List.IsPrefix.getElem (show trimEnd (trimStart cs) <+: trimStart cs from first) nonempty]
  exact List.dropWhile_get_zero_not isBlank cs (nonempty.trans_le first.length_le)

@[simp] theorem trimChars_trimChars (cs : List Char) :
    trimChars (trimChars cs) = trimChars cs := by
  rw [trimChars, trimChars, trimStart_trimEnd_trimStart]
  exact List.rdropWhile_idempotent isBlank (trimStart cs)

@[simp] theorem trim_trim (s : String) : trim (trim s) = trim s := by
  simp [trim]

/-- A setting that is not blank is stored trimmed and not empty. -/
theorem trimmed_of_nonBlank? {s t : String} (h : nonBlank? s = some t) : trim t = t ∧ t ≠ "" := by
  obtain ⟨rfl, nonempty⟩ := nonBlank?_eq_some.mp h
  exact ⟨trim_trim s, nonempty⟩

end ChainDashboard.Text
