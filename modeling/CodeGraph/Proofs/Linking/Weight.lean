import CodeGraph.Linking.Similarity
import CodeGraph.Proofs.Decimal.Order
import CodeGraph.Schema.Readers

namespace CodeGraph

theorem Reader.unit_eq_ok_iff {x y : Float} :
    Reader.unit x = .ok y ↔ x = y ∧ 0.0 ≤ x ∧ x ≤ 1.0 := by
  unfold Reader.unit
  by_cases small : x ≤ 1.0 <;> by_cases large : 0.0 ≤ x <;> simp [small, large, Checked.issue]

namespace Similarity

/-- A weight is a score brought into the interval from zero to one. Nothing else is said about scores
that are no number. -/
structure IsClamped (score : Number) (weight : Float) : Prop where
  nonneg : 0.0 ≤ weight
  le_one : weight ≤ 1.0
  int : ∀ i, score = .int i → weight = if 0 < i then 1.0 else 0.0
  below : ∀ x, score = .float x → x < 0.0 → weight = 0.0
  above : ∀ x, score = .float x → 1.0 < x → weight = 1.0
  inside : ∀ x, score = .float x → 0.0 ≤ x → x ≤ 1.0 → (weight == x) = true

theorem weight_mem (score : Number) : 0.0 ≤ weight score ∧ weight score ≤ 1.0 := by
  have zero : (0.0 : Float) ≤ 0.0 ∧ (0.0 : Float) ≤ 1.0 := by decide
  have one : (0.0 : Float) ≤ 1.0 ∧ (1.0 : Float) ≤ 1.0 := by decide
  cases score with
  | int i =>
    simp only [weight]
    split
    · exact one
    · exact zero
  | float x =>
    simp only [weight]
    by_cases less : x < 1.0
    · by_cases positive : 0.0 < x
      · simpa only [less, positive, if_true] using
          And.intro (Decimal.le_of_lt positive) (Decimal.le_of_lt less)
      · simpa only [less, positive, if_true, if_false] using zero
    · simpa only [less, if_false, show (0.0 : Float) < 1.0 by decide, if_true] using one

theorem isClamped_weight (score : Number) : IsClamped score (weight score) where
  nonneg := (weight_mem score).1
  le_one := (weight_mem score).2
  int := by
    rintro i rfl
    rfl
  below := by
    rintro x rfl negative
    have less := Decimal.lt_trans negative (show (0.0 : Float) < 1.0 by decide)
    have notPositive := Decimal.not_lt_of_le (Decimal.le_of_lt negative)
    simp only [weight, less, notPositive, if_true, if_false]
  above := by
    rintro x rfl more
    have notLess := Decimal.not_lt_of_le (Decimal.le_of_lt more)
    simp only [weight, notLess, if_false, show (0.0 : Float) < 1.0 by decide, if_true]
  inside := by
    rintro x rfl nonneg le_one
    simp only [weight]
    by_cases less : x < 1.0
    · by_cases positive : 0.0 < x
      · simpa only [less, positive, if_true] using Decimal.beq_self_of_le le_one
      · have same := Decimal.beq_of_le_of_not_lt nonneg positive
        obtain ⟨i, atX, atZero⟩ := Decimal.beq_iff_place.mp same
        simpa only [less, positive, if_true, if_false] using
          Decimal.beq_iff_place.mpr ⟨i, atZero, atX⟩
    · have same := Decimal.beq_of_le_of_not_lt le_one less
      simpa only [less, if_false, show (0.0 : Float) < 1.0 by decide, if_true] using same

end Similarity

end CodeGraph
