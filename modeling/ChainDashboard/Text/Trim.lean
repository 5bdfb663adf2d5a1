/-!
White space around a text. Settings are compared and stored without it, and a setting that is
nothing but white space counts as absent (`nonBlank?`).
-/
namespace ChainDashboard.Text

/-- The characters with Unicode's `White_Space` property. -/
def isBlank (c : Char) : Bool :=
  let n := c.toNat
  (0x09 ≤ n && n ≤ 0x0D) || n == 0x20 || n == 0x85 || n == 0xA0 || n == 0x1680 ||
    (0x2000 ≤ n && n ≤ 0x200A) || n == 0x2028 || n == 0x2029 || n == 0x202F || n == 0x205F ||
    n == 0x3000

/-- Characters without the white space in front of them. -/
def trimStart (cs : List Char) : List Char := cs.dropWhile isBlank

/-- Characters without the white space behind them. -/
def trimEnd (cs : List Char) : List Char := (cs.reverse.dropWhile isBlank).reverse

/-- Characters without the white space around them. -/
def trimChars (cs : List Char) : List Char := trimEnd (trimStart cs)

/-- A text without the white space around it. -/
def trim (s : String) : String := String.ofList (trimChars s.toList)

/-- The trimmed text, unless nothing is left of it. -/
def nonBlank? (s : String) : Option String :=
  let t := trim s
  if t.isEmpty then none else some t

theorem nonBlank?_eq_some {s t : String} : nonBlank? s = some t ↔ trim s = t ∧ t ≠ "" := by
  have empty : (trim s).isEmpty = true ↔ trim s = "" := String.isEmpty_iff
  unfold nonBlank?
  by_cases blank : trim s = ""
  · rw [if_pos (empty.mpr blank)]
    exact ⟨nofun, fun ⟨same, nonempty⟩ => absurd (same.symm.trans blank) nonempty⟩
  · rw [if_neg (mt empty.mp blank), Option.some.injEq]
    exact ⟨fun same => ⟨same, same ▸ blank⟩, fun h => h.1⟩

theorem isSome_nonBlank? {s : String} : (nonBlank? s).isSome = true ↔ trim s ≠ "" := by
  simp only [Option.isSome_iff_exists, nonBlank?_eq_some]
  constructor
  · rintro ⟨_, rfl, nonempty⟩
    exact nonempty
  · intro nonempty
    exact ⟨_, rfl, nonempty⟩

end ChainDashboard.Text
