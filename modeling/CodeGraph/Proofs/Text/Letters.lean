import CodeGraph.Text.Alnum
import CodeGraph.Text.Blank
import Mathlib.Data.List.Basic

namespace CodeGraph.Text

/-- The blanks beyond ASCII. -/
def blankRanges : RangeTable :=
  [(0x85, 0x85), (0xA0, 0xA0), (0x1680, 0x1680), (0x2000, 0x200A), (0x2028, 0x2029), (0x202F, 0x202F),
    (0x205F, 0x205F), (0x3000, 0x3000)]

theorem alnumRanges_disjoint :
    ∀ range ∈ alnumRanges, ∀ blank ∈ blankRanges, range.2 < blank.1 ∨ blank.2 < range.1 := by
  decide +kernel

theorem basic_isBlank : ∀ n < 0x80, (Char.ofNat n).isAlphanum = true → isBlank (Char.ofNat n) = false := by
  decide +kernel

theorem isBlank_eq_false_of_isAlnum {c : Char} (alnum : isAlnum c = true) : isBlank c = false := by
  unfold isAlnum at alnum
  split at alnum
  · rename_i basic
    have bare := basic_isBlank c.toNat basic
    rw [Char.ofNat_toNat] at bare
    exact bare alnum
  · obtain ⟨range, among, inRange⟩ := List.any_eq_true.mp alnum
    have apart := alnumRanges_disjoint range among
    simp only [blankRanges, List.forall_mem_cons] at apart
    simp at inRange
    simp [isBlank, isWhiteSpace]
    omega

end CodeGraph.Text
