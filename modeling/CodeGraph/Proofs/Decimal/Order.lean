import Mathlib.Data.Int.Order.Basic
import Mathlib.Data.Prod.Lex

namespace CodeGraph.Decimal

open Float.Model (UnpackedFloat)

/-- Where a number stands: by its sign and whether it is infinite, then by exponent and mantissa, both
reversed below zero. What is no number stands nowhere. -/
def unpackedPlace : UnpackedFloat → Option (ℤ ×ₗ ℤ ×ₗ ℤ)
  | .notANumber => none
  | .infinity .negative => some (toLex (-2, toLex (0, 0)))
  | .finite .negative mantissa exponent _ => some (toLex (-1, toLex (-exponent, -mantissa)))
  | .zero _ => some (toLex (0, toLex (0, 0)))
  | .finite .positive mantissa exponent _ => some (toLex (1, toLex (exponent, mantissa)))
  | .infinity .positive => some (toLex (2, toLex (0, 0)))

theorem compare_neg (i j : ℤ) : compare (-i) (-j) = (compare i j).swap := by
  rw [Int.compare_swap]
  rcases lt_trichotomy i j with less | rfl | more
  · rw [compare_gt_iff_gt.mpr less, compare_gt_iff_gt.mpr (by omega)]
  · simp
  · rw [compare_lt_iff_lt.mpr more, compare_lt_iff_lt.mpr (by omega)]

theorem compare_natCast (m n : ℕ) : compare (m : ℤ) (n : ℤ) = compare m n := by
  rcases lt_trichotomy m n with less | rfl | more
  · rw [compare_lt_iff_lt.mpr less, compare_lt_iff_lt.mpr (by omega)]
  · simp
  · rw [compare_gt_iff_gt.mpr more, compare_gt_iff_gt.mpr (by omega)]

theorem unpacked_compare (x y : UnpackedFloat) :
    x.compare y = (unpackedPlace x).bind fun i => (unpackedPlace y).map (compare i) := by
  rcases x with (_ | _) | _ | _ | ⟨_ | _, m, e, _⟩ <;>
    rcases y with (_ | _) | _ | _ | ⟨_ | _, n, f, _⟩ <;>
    dsimp only [UnpackedFloat.compare, unpackedPlace] <;>
    simp [Prod.Lex.compare_def, compareLex, compareOn]
  -- Two finite numbers of one sign are left: exponents come before mantissas on both sides.
  all_goals try rfl
  · rw [Ordering.swap_then]
    simp [compare_neg, compare_natCast]
  · simp [compare_natCast]

/-- Where a number stands among all numbers. -/
def place (x : Float) : Option (ℤ ×ₗ ℤ ×ₗ ℤ) :=
  unpackedPlace x.toModel.unpack

variable {x y z : Float}

theorem lt_iff_place : x < y ↔ ∃ i ∈ place x, ∃ j ∈ place y, i < j := by
  have unfolded : x < y ↔ x.toModel.unpack.compare y.toModel.unpack = some .lt := by
    change decide (x.toModel.unpack.lt y.toModel.unpack = true) = true ↔ _
    simp [UnpackedFloat.lt]
  rw [unfolded, unpacked_compare]
  simp only [place, Option.mem_def, Option.bind_eq_some_iff, Option.map_eq_some_iff,
    compare_lt_iff_lt]

theorem le_iff_place : x ≤ y ↔ ∃ i ∈ place x, ∃ j ∈ place y, i ≤ j := by
  have unfolded : x ≤ y ↔ ∃ o, x.toModel.unpack.compare y.toModel.unpack = some o ∧ o.isLE := by
    change decide (x.toModel.unpack.le y.toModel.unpack = true) = true ↔ _
    simp [UnpackedFloat.le, Option.any_eq_true]
  rw [unfolded, unpacked_compare]
  constructor
  · rintro ⟨o, found, below⟩
    obtain ⟨i, atX, found⟩ := Option.bind_eq_some_iff.mp found
    obtain ⟨j, atY, rfl⟩ := Option.map_eq_some_iff.mp found
    exact ⟨i, atX, j, atY, compare_le_iff_le.mp (by simpa [Ordering.isLE_iff_ne_gt] using below)⟩
  · rintro ⟨i, atX, j, atY, below⟩
    refine ⟨compare i j, ?_, ?_⟩
    · rw [show unpackedPlace x.toModel.unpack = some i from atX,
        show unpackedPlace y.toModel.unpack = some j from atY]
      rfl
    · simpa [Ordering.isLE_iff_ne_gt] using compare_le_iff_le.mpr below

theorem beq_iff_place : (x == y) = true ↔ ∃ i ∈ place x, i ∈ place y := by
  have unfolded : (x == y) = true ↔ x.toModel.unpack.compare y.toModel.unpack = some .eq := by
    change (x.toModel.unpack.compare y.toModel.unpack == some .eq) = true ↔ _
    simp
  rw [unfolded, unpacked_compare]
  simp [place, Option.bind_eq_some_iff, Option.map_eq_some_iff, compare_eq_iff_eq]

/-- Every number is equal to itself. -/
theorem beq_self (number : x.isNaN = false) : (x == x) = true := by
  have stands : ∃ i, place x = some i := by
    change x.toModel.unpack.isNaN = false at number
    unfold place
    generalize x.toModel.unpack = unpacked at number
    rcases unpacked with (_ | _) | _ | _ | ⟨_ | _, m, e, _⟩ <;> first | exact ⟨_, rfl⟩ | cases number
  obtain ⟨i, atX⟩ := stands
  exact beq_iff_place.mpr ⟨i, atX, atX⟩

theorem le_of_lt (less : x < y) : x ≤ y := by
  obtain ⟨i, atX, j, atY, below⟩ := lt_iff_place.mp less
  exact le_iff_place.mpr ⟨i, atX, j, atY, below.le⟩

theorem lt_trans (first : x < y) (second : y < z) : x < z := by
  obtain ⟨i, atX, j, atY, below⟩ := lt_iff_place.mp first
  obtain ⟨j', atY', k, atZ, above⟩ := lt_iff_place.mp second
  cases Option.some.inj (atY.symm.trans atY')
  exact lt_iff_place.mpr ⟨i, atX, k, atZ, below.trans above⟩

theorem not_lt_of_le (below : x ≤ y) : ¬ y < x := by
  intro less
  obtain ⟨i, atX, j, atY, below⟩ := le_iff_place.mp below
  obtain ⟨j', atY', i', atX', above⟩ := lt_iff_place.mp less
  cases Option.some.inj (atY.symm.trans atY')
  cases Option.some.inj (atX.symm.trans atX')
  exact absurd above below.not_gt

/-- A number that is at most another one and not less has the same value. -/
theorem beq_of_le_of_not_lt (below : x ≤ y) (notLess : ¬ x < y) : (y == x) = true := by
  obtain ⟨i, atX, j, atY, below⟩ := le_iff_place.mp below
  rcases below.lt_or_eq with less | rfl
  · exact absurd (lt_iff_place.mpr ⟨i, atX, j, atY, less⟩) notLess
  · exact beq_iff_place.mpr ⟨i, atY, atX⟩

theorem beq_self_of_le (below : x ≤ y) : (x == x) = true := by
  obtain ⟨i, atX, _⟩ := le_iff_place.mp below
  exact beq_iff_place.mpr ⟨i, atX, atX⟩

theorem lt_trans_le (first : x < y) (second : y ≤ z) : x < z := by
  obtain ⟨i, atX, j, atY, below⟩ := lt_iff_place.mp first
  obtain ⟨j', atY', k, atZ, above⟩ := le_iff_place.mp second
  cases Option.some.inj (atY.symm.trans atY')
  exact lt_iff_place.mpr ⟨i, atX, k, atZ, below.trans_le above⟩

theorem le_self_of_lt (less : x < y) : y ≤ y := by
  obtain ⟨_, _, j, atY, _⟩ := lt_iff_place.mp less
  exact le_iff_place.mpr ⟨j, atY, j, atY, le_rfl⟩

theorem lt_of_not_le (first : x ≤ x) (second : y ≤ y) (above : ¬ x ≤ y) : y < x := by
  obtain ⟨i, atX, _⟩ := le_iff_place.mp first
  obtain ⟨j, atY, _⟩ := le_iff_place.mp second
  have order : ¬ i ≤ j := fun below => above (le_iff_place.mpr ⟨i, atX, j, atY, below⟩)
  exact lt_iff_place.mpr ⟨j, atY, i, atX, not_le.mp order⟩

end CodeGraph.Decimal
