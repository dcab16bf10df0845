import CodeGraph.Decimal.Shortest
import CodeGraph.Proofs.Decimal.Bits
import CodeGraph.Proofs.Decimal.Rounding
import CodeGraph.Proofs.Decimal.Rows

namespace CodeGraph.Decimal

section Magnitude

variable {x : Float}

theorem magnitude_eq (x : Float) :
    magnitude x = if magnitudeBits x / 2 ^ 52 = 0 then (magnitudeBits x % 2 ^ 52, -1074)
      else (magnitudeBits x % 2 ^ 52 + 2 ^ 52, ((magnitudeBits x / 2 ^ 52 : ℕ) : ℤ) - 1075) :=
  rfl

theorem canonical_magnitude (finite : x.isFinite = true) (nonzero : (magnitude x).1 ≠ 0) :
    Canonical (magnitude x).1 (magnitude x).2 := by
  have bound := magnitudeBits_lt_of_isFinite finite
  have infinity : infinityBits = 2047 * 2 ^ 52 := rfl
  rw [magnitude_eq] at nonzero ⊢
  split at nonzero
  · rename_i subnormal
    rw [if_pos subnormal]
    constructor <;> dsimp only at nonzero ⊢ <;> omega
  · rename_i normal
    rw [if_neg normal]
    constructor <;> dsimp only <;> omega

theorem bitsOf_magnitude (x : Float) : bitsOf (magnitude x).1 (magnitude x).2 = magnitudeBits x := by
  have least : leastMantissa = 2 ^ 52 := rfl
  unfold bitsOf
  rw [magnitude_eq, least]
  split <;> dsimp only <;> omega

theorem quotient_value (x : Float) :
    0 < (quotient x).2 ∧ ((quotient x).1 : ℚ) / (quotient x).2 = (magnitude x).1 * 2 ^ (magnitude x).2 := by
  unfold quotient
  obtain ⟨m, e⟩ := magnitude x
  dsimp only
  split
  · obtain ⟨n, same⟩ := Int.eq_ofNat_of_zero_le (show 0 ≤ -e by omega)
    have exponent : e = -n := by omega
    subst exponent
    refine ⟨Nat.pow_pos (by decide), ?_⟩
    simp only [neg_neg, Int.toNat_natCast, Nat.pow_eq, Nat.cast_pow, zpow_neg, zpow_natCast]
    rfl
  · obtain ⟨n, rfl⟩ := Int.eq_ofNat_of_zero_le (show 0 ≤ e by omega)
    refine ⟨Nat.one_pos, ?_⟩
    simp only [Int.toNat_natCast, Nat.pow_eq, Nat.cast_mul, Nat.cast_pow, zpow_natCast, Nat.cast_one, div_one]
    rfl

end Magnitude

section Grid

theorem digitCount_bounds {n : ℕ} (pos : 0 < n) :
    (10 : ℚ) ^ ((digitCount n : ℤ) - 1) ≤ n ∧ (n : ℚ) < 10 ^ (digitCount n : ℤ) := by
  have some : 0 < digitCount n := Nat.length_toDigits_pos
  obtain ⟨count, same⟩ : ∃ count, digitCount n = count + 1 := ⟨digitCount n - 1, by omega⟩
  have high : n < 10 ^ digitCount n := (Nat.length_toDigits_le_iff (by decide) some).mp le_rfl
  have low : 10 ^ count ≤ n := by
    rcases count.eq_zero_or_pos with rfl | more
    · exact pos
    · refine Nat.le_of_not_lt fun less => ?_
      have short : digitCount n ≤ count := (Nat.length_toDigits_le_iff (by decide) more).mpr less
      omega
  constructor
  · rw [same, show ((count + 1 : ℕ) : ℤ) - 1 = (count : ℤ) by push_cast; ring, zpow_natCast]
    exact_mod_cast low
  · rw [zpow_natCast]
    exact_mod_cast high

variable {num den : ℕ}

theorem inUnits_le_iff (pos : 0 < den) (power : ℤ) (d : ℕ) :
    (inUnits num den power).1 ≤ d * (inUnits num den power).2 ↔ (num : ℚ) / den ≤ d * 10 ^ power := by
  have unit : (0 : ℚ) < (inUnits num den power).2 := by exact_mod_cast inUnits_pos num pos power
  rw [← div_le_iff₀ (by positivity), ← inUnits_value, div_le_iff₀ unit]
  exact_mod_cast Iff.rfl

theorem le_inUnits_iff (pos : 0 < den) (power : ℤ) (d : ℕ) :
    d * (inUnits num den power).2 ≤ (inUnits num den power).1 ↔ (d : ℚ) * 10 ^ power ≤ num / den := by
  have unit : (0 : ℚ) < (inUnits num den power).2 := by exact_mod_cast inUnits_pos num pos power
  rw [← le_div_iff₀ (by positivity), ← inUnits_value, le_div_iff₀ unit]
  exact_mod_cast Iff.rfl

theorem leadingExponent_le (numPos : 0 < num) (denPos : 0 < den) :
    (10 : ℚ) ^ leadingExponent num den ≤ num / den := by
  have positive : (0 : ℚ) < den := by exact_mod_cast denPos
  unfold leadingExponent
  dsimp only
  generalize guessed : (digitCount num : ℤ) - digitCount den = guess
  split
  · rw [le_div_iff₀ positive]
    calc (10 : ℚ) ^ (guess - 1) * den
        ≤ 10 ^ (guess - 1) * 10 ^ (digitCount den : ℤ) := by
          gcongr
          exact (digitCount_bounds denPos).2.le
      _ = 10 ^ ((digitCount num : ℤ) - 1) := by
          rw [← zpow_add₀ (by norm_num), ← guessed]
          congr 1
          ring
      _ ≤ num := (digitCount_bounds numPos).1
  · rename_i reached
    have one := (@le_inUnits_iff num den denPos guess 1).mp (by omega)
    rwa [Nat.cast_one, one_mul] at one

/-- A quarter of a last place as a quotient. -/
def quarterPlace (e : ℤ) : ℕ × ℕ :=
  if e < 2 then (1, Nat.pow 2 (2 - e).toNat) else (Nat.pow 2 (e - 2).toNat, 1)

theorem quarterPlace_value (e : ℤ) :
    0 < (quarterPlace e).2 ∧ ((quarterPlace e).1 : ℚ) / (quarterPlace e).2 = 2 ^ (e - 2) := by
  unfold quarterPlace
  split
  · obtain ⟨n, same⟩ := Int.eq_ofNat_of_zero_le (show 0 ≤ 2 - e by omega)
    rw [show e - 2 = -(n : ℤ) by omega, same]
    refine ⟨Nat.pow_pos (by decide), ?_⟩
    simp
  · obtain ⟨n, same⟩ := Int.eq_ofNat_of_zero_le (show 0 ≤ e - 2 by omega)
    rw [same]
    refine ⟨Nat.one_pos, ?_⟩
    simp

variable {m : ℕ} {e power : ℤ}

theorem roundsTo_iff {q : ℚ} :
    RoundsTo m e q ↔
      if m % 2 = 0 then (4 * m - quartersBelow m e) * 2 ^ (e - 2) ≤ q ∧ q ≤ (4 * m + 2) * 2 ^ (e - 2)
      else (4 * m - quartersBelow m e) * 2 ^ (e - 2) < q ∧ q < (4 * m + 2) * 2 ^ (e - 2) := by
  split
  · rename_i even
    exact ⟨fun rounds => ⟨rounds.low, rounds.high⟩,
      fun ⟨low, high⟩ => ⟨low, high, fun odd => absurd even (by omega)⟩⟩
  · rename_i odd
    exact ⟨fun rounds => rounds.odd (by omega),
      fun ⟨low, high⟩ => ⟨low.le, high.le, fun _ => ⟨low, high⟩⟩⟩

theorem RoundsTo.of_lt {q : ℚ} (low : (4 * m - quartersBelow m e) * 2 ^ (e - 2) < q)
    (high : q < (4 * m + 2) * 2 ^ (e - 2)) : RoundsTo m e q :=
  ⟨low.le, high.le, fun _ => ⟨low, high⟩⟩

/-- The neighbours of a number on a decimal grid, and which of them are returned: one that rounds to the
number, if there is one. -/
theorem gridPoint?_eq (positive : 0 < m) (e power : ℤ) : ∃ (floor nearest : ℕ) (rounds : ℕ → Bool),
    (∀ d, rounds d = true ↔ RoundsTo m e (d * 10 ^ power)) ∧
    (floor * 10 ^ power ≤ (m * 2 ^ e : ℚ) ∧ (m * 2 ^ e : ℚ) < (floor + 1) * 10 ^ power) ∧
    (nearest = floor ∨ nearest = floor + 1) ∧
    gridPoint? m e power =
      match rounds floor, rounds (floor + 1) with
      | true, true => some nearest
      | true, false => some floor
      | false, true => some (floor + 1)
      | false, false => none := by
  obtain ⟨scalePos, scale⟩ := quarterPlace_value e
  let grid (n : ℕ) : ℕ × ℕ := inUnits (n * (quarterPlace e).1) (quarterPlace e).2 power
  let middle := (grid (4 * m)).1
  let unit := (grid (4 * m)).2
  have value (n : ℕ) : ((n * (quarterPlace e).1 : ℕ) : ℚ) / (quarterPlace e).2 = n * 2 ^ (e - 2) := by
    rw [Nat.cast_mul, mul_div_assoc, scale]
  have shared (n : ℕ) : (grid n).2 = unit := by
    simp only [grid, unit, inUnits]
    split <;> rfl
  have low_iff (n d : ℕ) : (grid n).1 ≤ d * unit ↔ (n * 2 ^ (e - 2) : ℚ) ≤ d * 10 ^ power := by
    rw [← shared n, ← value]
    exact inUnits_le_iff scalePos power d
  have high_iff (n d : ℕ) : d * unit ≤ (grid n).1 ↔ (d * 10 ^ power : ℚ) ≤ n * 2 ^ (e - 2) := by
    rw [← shared n, ← value]
    exact le_inUnits_iff scalePos power d
  have number : ((4 * m : ℕ) : ℚ) * 2 ^ (e - 2) = m * 2 ^ e := by
    rw [zpow_sub₀ two_ne_zero]
    push_cast
    ring
  have below : ((4 * m - quartersBelow m e : ℕ) : ℚ) = 4 * m - quartersBelow m e := by
    have bound := (quartersBelow_bounds m e).2
    rw [Nat.cast_sub (by omega)]
    push_cast
    rfl
  have above : ((4 * m + 2 : ℕ) : ℚ) = 4 * m + 2 := by push_cast; rfl
  refine ⟨middle / unit, roundQuotient middle unit,
    fun d => if m % 2 = 0 then (grid (4 * m - quartersBelow m e)).1 ≤ d * unit && d * unit ≤ (grid (4 * m + 2)).1
      else (grid (4 * m - quartersBelow m e)).1 < d * unit && d * unit < (grid (4 * m + 2)).1,
    fun d => ?_, ⟨?_, ?_⟩, ?_, rfl⟩
  · rw [roundsTo_iff, ← below, ← above]
    split
    · simp only [Bool.and_eq_true, decide_eq_true_eq, low_iff, high_iff]
    · simp only [Bool.and_eq_true, decide_eq_true_eq, ← not_le, low_iff, high_iff]
  · rw [← number, ← high_iff]
    exact Nat.div_mul_le_self middle unit
  · rw [← number, ← Nat.cast_succ, ← not_le, ← high_iff, not_le]
    have unitPos := inUnits_pos (4 * m * (quarterPlace e).1) scalePos power
    exact (Nat.lt_mul_div_succ middle unitPos).trans_eq (Nat.mul_comm _ _)
  · unfold roundQuotient
    dsimp only
    split
    · exact .inl rfl
    · split
      · exact .inl rfl
      · exact .inr rfl

/-- A grid point that is returned rounds to the number. -/
theorem roundsTo_of_gridPoint? (positive : 0 < m) {d : ℕ} (found : gridPoint? m e power = some d) :
    RoundsTo m e (d * 10 ^ power) := by
  obtain ⟨floor, nearest, rounds, rounds_iff, -, neighbour, returned⟩ := gridPoint?_eq positive e power
  rw [found] at returned
  rw [← rounds_iff]
  cases low : rounds floor <;> cases high : rounds (floor + 1) <;> rw [low, high] at returned <;> cases returned
  · exact high
  · exact low
  · rcases neighbour with rfl | rfl
    · exact low
    · exact high

/-- A grid of a ten-quadrillionth of a number has a point that rounds to it. -/
theorem isSome_gridPoint? (canonical : Canonical m e) (fine : (10 : ℚ) ^ power * 10 ^ 16 ≤ m * 2 ^ e) :
    (gridPoint? m e power).isSome = true := by
  obtain ⟨floor, nearest, rounds, rounds_iff, ⟨low, high⟩, -, returned⟩ :=
    gridPoint?_eq canonical.positive e power
  have quarter : (2 : ℚ) ^ (e - 2) = 2 ^ e / 4 := by
    rw [zpow_sub₀ two_ne_zero]
    norm_num
  have unit : (0 : ℚ) < 2 ^ e := by positivity
  have short : (m : ℚ) < 2 ^ 53 := by exact_mod_cast canonical.short
  have near : rounds floor = true ∨ rounds (floor + 1) = true := by
    rw [rounds_iff, rounds_iff]
    by_cases boundary : m = leastMantissa ∧ e ≠ -1074
    · -- Below the least number with its last place the numbers are closer, so the grid point above is taken.
      have least : (m : ℚ) = 2 ^ 52 := by exact_mod_cast boundary.1
      have one : quartersBelow m e = 1 := if_pos boundary
      right
      refine .of_lt ?_ ?_ <;> rw [quarter] <;> push_cast
      · rw [one]
        push_cast
        linarith
      · rw [least] at fine low ⊢
        linarith
    · have two : quartersBelow m e = 2 := if_neg boundary
      rcases lt_or_ge ((m : ℚ) * 2 ^ e - 2 ^ e / 2) (floor * 10 ^ power) with close | far
      · left
        refine .of_lt ?_ ?_ <;> rw [quarter]
        · rw [two]
          push_cast
          linarith
        · linarith
      · right
        have spacing : (10 : ℚ) ^ power < 2 ^ e := by nlinarith
        refine .of_lt ?_ ?_ <;> rw [quarter] <;> push_cast
        · rw [two]
          push_cast
          linarith
        · linarith
  rw [returned]
  rcases near with first | second
  · cases high : rounds (floor + 1) <;> rw [first] <;> rfl
  · cases low : rounds floor <;> rw [second] <;> rfl

/-- The search ends with digits that round to the number, as it goes on to seventeen digits. -/
theorem roundsTo_shortestFrom (canonical : Canonical m e) {first : ℤ}
    (leading : (10 : ℚ) ^ first ≤ m * 2 ^ e) (count tries : ℕ) (total : count + tries = 18) (some : 0 < tries) :
    RoundsTo m e ((shortestFrom m e first count tries).value *
      10 ^ (shortestFrom m e first count tries).exponent) := by
  induction tries generalizing count with
  | zero => cases some
  | succ tries ih =>
    unfold shortestFrom
    dsimp only
    split
    · rename_i found
      exact roundsTo_of_gridPoint? canonical.positive found
    · rename_i missing
      rcases tries.eq_zero_or_pos with rfl | more
      · have fine : (10 : ℚ) ^ (first - count + 1) * 10 ^ 16 ≤ m * 2 ^ e := by
          have last : first - count + 1 + (16 : ℕ) = first := by omega
          rw [← zpow_natCast, ← zpow_add₀ (by norm_num), last]
          exact leading
        have present := isSome_gridPoint? canonical fine
        rw [missing] at present
        cases present
      · exact ih (count + 1) (by omega) more

end Grid

/-- A number ends in as many zeros as it can be divided by ten. -/
theorem pow_dvd_of_zeros (n : ℕ) :
    10 ^ ((Nat.toDigits 10 n).reverse.takeWhile (· == '0')).length ∣ n := by
  generalize split : (Nat.toDigits 10 n).reverse = chars
  have digits : Nat.toDigits 10 n =
      (chars.dropWhile (· == '0')).reverse ++ List.replicate (chars.takeWhile (· == '0')).length '0' := by
    have whole := congrArg List.reverse (List.takeWhile_append_dropWhile (p := (· == '0')) (l := chars))
    rw [List.reverse_append, ← split, List.reverse_reverse, split, takeWhile_zero,
      List.reverse_replicate] at whole
    exact whole.symm
  have value := @Nat.ofDigitChars_ten_toDigits n
  rw [digits, Nat.ofDigitChars_append, Nat.ofDigitChars_replicate_zero] at value
  exact ⟨_, value.symm⟩

theorem Digits.normalize_value (digits : Digits) :
    (digits.normalize.value : ℚ) * 10 ^ digits.normalize.exponent = digits.value * 10 ^ digits.exponent := by
  unfold Digits.normalize
  dsimp only
  split
  · rename_i zero
    simp [zero]
  · have divides := pow_dvd_of_zeros digits.value
    generalize ((Nat.toDigits 10 digits.value).reverse.takeWhile (· == '0')).length = zeros at divides
    rw [Nat.pow_eq, zpow_add₀ (by norm_num), mul_comm ((10 : ℚ) ^ digits.exponent), ← mul_assoc, zpow_natCast]
    congr 1
    exact_mod_cast Nat.div_mul_cancel divides

/-- The shortest digits of a number round to the number. -/
theorem roundsTo_shortest {x : Float} (finite : x.isFinite = true) (nonzero : (magnitude x).1 ≠ 0) :
    RoundsTo (magnitude x).1 (magnitude x).2 ((shortest x).value * 10 ^ (shortest x).exponent) := by
  have canonical := canonical_magnitude finite nonzero
  obtain ⟨denPos, value⟩ := quotient_value x
  have positive : (0 : ℚ) < (magnitude x).1 := by exact_mod_cast canonical.positive
  have numPos : 0 < (quotient x).1 := by
    refine Nat.pos_of_ne_zero fun none => ?_
    have product : (0 : ℚ) < (magnitude x).1 * 2 ^ (magnitude x).2 := by positivity
    rw [← value, none] at product
    simp at product
  have leading := leadingExponent_le numPos denPos
  rw [value] at leading
  unfold shortest
  dsimp only
  rw [if_neg nonzero, Digits.normalize_value]
  exact roundsTo_shortestFrom canonical leading 1 17 rfl (by decide)

end CodeGraph.Decimal
