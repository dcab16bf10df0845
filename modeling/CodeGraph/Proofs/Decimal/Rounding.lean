import CodeGraph.Decimal.Binary
import Mathlib.Algebra.Order.Field.Power
import Mathlib.Data.Rat.Cast.Order
import Mathlib.Tactic.FieldSimp
import Mathlib.Tactic.Linarith
import Mathlib.Tactic.NormNum
import Mathlib.Tactic.Positivity
import Mathlib.Tactic.Ring

namespace CodeGraph.Decimal

section Units

variable (num : ℕ) {den : ℕ}

/-- A quotient in units of a power of a base. -/
theorem units_value (base : ℕ) (power : ℤ) :
    ((if power < 0 then (num * Nat.pow base (-power).toNat, den)
      else (num, den * Nat.pow base power.toNat)).1 : ℚ) /
      (if power < 0 then (num * Nat.pow base (-power).toNat, den)
        else (num, den * Nat.pow base power.toNat)).2 = num / den / (base : ℚ) ^ power := by
  split
  · obtain ⟨n, same⟩ := Int.eq_ofNat_of_zero_le (show 0 ≤ -power by omega)
    have power_eq : power = -n := by omega
    subst power_eq
    simp only [neg_neg, Int.toNat_natCast, Nat.pow_eq, Nat.cast_mul, Nat.cast_pow, zpow_neg,
      zpow_natCast, div_inv_eq_mul]
    ring
  · obtain ⟨n, rfl⟩ := Int.eq_ofNat_of_zero_le (show 0 ≤ power by omega)
    simp only [Int.toNat_natCast, Nat.pow_eq, Nat.cast_mul, Nat.cast_pow, zpow_natCast]
    rw [div_div]

theorem inUnits_pos (pos : 0 < den) (power : ℤ) : 0 < (inUnits num den power).2 := by
  unfold inUnits
  split
  · exact pos
  · exact Nat.mul_pos pos (Nat.pow_pos (by decide))

theorem inUnits_value (power : ℤ) :
    ((inUnits num den power).1 : ℚ) / (inUnits num den power).2 = num / den / 10 ^ power :=
  units_value num 10 power

theorem inBinaryUnits_pos (pos : 0 < den) (exponent : ℤ) : 0 < (inBinaryUnits num den exponent).2 := by
  unfold inBinaryUnits
  split
  · exact pos
  · exact Nat.mul_pos pos (Nat.pow_pos (by decide))

theorem inBinaryUnits_value (exponent : ℤ) :
    ((inBinaryUnits num den exponent).1 : ℚ) / (inBinaryUnits num den exponent).2 =
      num / den / 2 ^ exponent :=
  units_value num 2 exponent

end Units

/-- A fraction is rounded to a number that it is at most a half away from. A half goes to an even
number. -/
theorem roundQuotient_eq {num den m : ℕ} (pos : 0 < den) (low : (m : ℚ) - 1 / 2 ≤ num / den)
    (high : (num : ℚ) / den ≤ m + 1 / 2)
    (odd : m % 2 = 1 → (m : ℚ) - 1 / 2 < num / den ∧ (num : ℚ) / den < m + 1 / 2) :
    roundQuotient num den = m := by
  have positive : (0 : ℚ) < den := by exact_mod_cast pos
  rw [le_div_iff₀ positive] at low
  rw [div_le_iff₀ positive] at high
  rw [lt_div_iff₀ positive, div_lt_iff₀ positive] at odd
  have low' : 2 * m * den ≤ 2 * num + den := by
    have scaled : (2 * m * den : ℚ) ≤ 2 * num + den := by linarith
    exact_mod_cast scaled
  have high' : 2 * num ≤ 2 * m * den + den := by
    have scaled : (2 * num : ℚ) ≤ 2 * m * den + den := by linarith
    exact_mod_cast scaled
  have odd' (isOdd : m % 2 = 1) : 2 * m * den < 2 * num + den ∧ 2 * num < 2 * m * den + den := by
    obtain ⟨above, below⟩ := odd isOdd
    have scaled : (2 * m * den : ℚ) < 2 * num + den ∧ (2 * num : ℚ) < 2 * m * den + den :=
      ⟨by linarith, by linarith⟩
    exact_mod_cast scaled
  have whole := Nat.div_add_mod num den
  have rest := Nat.mod_lt num pos
  have upper : num / den ≤ m := by
    by_contra more
    have step : (m + 1) * den ≤ den * (num / den) := by
      rw [Nat.mul_comm den]
      exact Nat.mul_le_mul_right den (by omega)
    have spread : (m + 1) * den = m * den + den := by ring
    have doubled : 2 * m * den = 2 * (m * den) := by ring
    omega
  have lower : m ≤ num / den + 1 := by
    by_contra less
    have step : den * (num / den + 2) ≤ m * den := by
      rw [Nat.mul_comm m]
      exact Nat.mul_le_mul_left den (by omega)
    have spread : den * (num / den + 2) = den * (num / den) + 2 * den := by ring
    have doubled : 2 * m * den = 2 * (m * den) := by ring
    omega
  have doubled : 2 * m * den = 2 * (den * m) := by ring
  unfold roundQuotient
  dsimp only
  rcases (by omega : num / den = m ∨ num / den + 1 = m) with exact_ | short
  · rw [exact_] at whole ⊢
    by_cases even : m % 2 = 0
    · split
      · rfl
      · rw [if_pos ⟨by omega, even⟩]
    · have strict := (odd' (by omega)).2
      rw [if_pos (by omega)]
  · have product : den * m = den * (num / den) + den := by
      rw [← short]
      ring
    rw [if_neg (by omega)]
    by_cases even : m % 2 = 0
    · rw [if_neg (by omega)]
      exact short
    · have strict := (odd' (by omega)).1
      rw [if_neg (by omega)]
      exact short

theorem log2_bounds {n : ℕ} (pos : 0 < n) :
    (2 : ℚ) ^ (n.log2 : ℤ) ≤ n ∧ (n : ℚ) < 2 ^ ((n.log2 : ℤ) + 1) := by
  have low := Nat.log2_self_le pos.ne'
  have high := Nat.lt_log2_self (n := n)
  refine ⟨by exact_mod_cast low, ?_⟩
  have whole : ((n.log2 : ℤ) + 1) = ((n.log2 + 1 : ℕ) : ℤ) := by push_cast; rfl
  rw [whole, zpow_natCast]
  exact_mod_cast high

/-- A quotient has 53 binary digits from the last place on that was found for it, or fewer if this is the
least place there is. -/
theorem lastPlace_spec {num den : ℕ} (numPos : 0 < num) (denPos : 0 < den) :
    -1074 ≤ lastPlace num den ∧ (num : ℚ) / den < 2 ^ (lastPlace num den + 53) ∧
      (-1074 < lastPlace num den → (2 : ℚ) ^ (lastPlace num den + 52) ≤ num / den) := by
  have positive : (0 : ℚ) < den := by exact_mod_cast denPos
  obtain ⟨numLow, numHigh⟩ := log2_bounds numPos
  obtain ⟨denLow, denHigh⟩ := log2_bounds denPos
  have above : (2 : ℚ) ^ ((num.log2 : ℤ) - den.log2 - 1) ≤ num / den := by
    rw [le_div_iff₀ positive]
    calc (2 : ℚ) ^ ((num.log2 : ℤ) - den.log2 - 1) * den
        ≤ 2 ^ ((num.log2 : ℤ) - den.log2 - 1) * 2 ^ ((den.log2 : ℤ) + 1) := by gcongr
      _ = 2 ^ (num.log2 : ℤ) := by rw [← zpow_add₀ two_ne_zero]; congr 1; ring
      _ ≤ num := numLow
  have below : (num : ℚ) / den < 2 ^ ((num.log2 : ℤ) - den.log2 + 1) := by
    rw [div_lt_iff₀ positive]
    calc (num : ℚ) < 2 ^ ((num.log2 : ℤ) + 1) := numHigh
      _ = 2 ^ ((num.log2 : ℤ) - den.log2 + 1) * 2 ^ (den.log2 : ℤ) := by
        rw [← zpow_add₀ two_ne_zero]; congr 1; ring
      _ ≤ 2 ^ ((num.log2 : ℤ) - den.log2 + 1) * den := by gcongr
  -- The first guess is one too large where fewer than 53 digits stand before it.
  generalize guessed : (num.log2 : ℤ) - den.log2 - 52 = guess at *
  have short : (inBinaryUnits num den guess).1 / (inBinaryUnits num den guess).2 < leastMantissa ↔
      (num : ℚ) / den < 2 ^ (guess + 52) := by
    have unitPos := inBinaryUnits_pos num denPos guess
    have unitPositive : (0 : ℚ) < (inBinaryUnits num den guess).2 := by exact_mod_cast unitPos
    rw [Nat.div_lt_iff_lt_mul unitPos, zpow_add₀ two_ne_zero, mul_comm ((2 : ℚ) ^ guess),
      ← div_lt_iff₀ (by positivity), ← inBinaryUnits_value, div_lt_iff₀ unitPositive]
    have value : ((leastMantissa : ℕ) : ℚ) = 2 ^ (52 : ℤ) := by norm_num [leastMantissa]
    rw [← value]
    exact_mod_cast Iff.rfl
  have base : ∃ base : ℤ, lastPlace num den = max base (-1074) ∧
      (num : ℚ) / den < 2 ^ (base + 53) ∧ (2 : ℚ) ^ (base + 52) ≤ num / den := by
    unfold lastPlace
    rw [guessed]
    dsimp only
    split
    · rename_i small
      refine ⟨guess - 1, rfl, ?_, ?_⟩
      · have bound := short.mp small
        rwa [show guess - 1 + 53 = guess + 52 by ring]
      · rwa [show guess - 1 + 52 = (num.log2 : ℤ) - den.log2 - 1 by omega]
    · rename_i large
      refine ⟨guess, rfl, ?_, not_lt.mp fun bound => large (short.mpr bound)⟩
      rwa [show guess + 53 = (num.log2 : ℤ) - den.log2 + 1 by omega]
  obtain ⟨base, same, high, low⟩ := base
  rw [same]
  refine ⟨le_max_right _ _, high.trans_le ?_, fun more => ?_⟩
  · exact zpow_le_zpow_right₀ one_le_two (by omega)
  · rwa [max_eq_left (by omega)]

/-- A mantissa and an exponent that a number can have. -/
structure Canonical (m : ℕ) (e : ℤ) : Prop where
  positive : 0 < m
  short : m < 2 ^ 53
  least : -1074 ≤ e
  greatest : e ≤ 971
  normal : -1074 < e → 2 ^ 52 ≤ m

/-- How far down a number reaches, in quarters of its last place: the number below it may be nearer. -/
def quartersBelow (m : ℕ) (e : ℤ) : ℕ :=
  if m = leastMantissa ∧ e ≠ -1074 then 1 else 2

/-- A fraction in the interval around a number. The ends are in it if the mantissa is even. -/
structure RoundsTo (m : ℕ) (e : ℤ) (q : ℚ) : Prop where
  low : (4 * m - quartersBelow m e) * 2 ^ (e - 2) ≤ q
  high : q ≤ (4 * m + 2) * 2 ^ (e - 2)
  odd : m % 2 = 1 → (4 * m - quartersBelow m e) * 2 ^ (e - 2) < q ∧ q < (4 * m + 2) * 2 ^ (e - 2)

theorem quartersBelow_bounds (m : ℕ) (e : ℤ) : 1 ≤ quartersBelow m e ∧ quartersBelow m e ≤ 2 := by
  unfold quartersBelow
  split <;> simp

namespace RoundsTo

variable {m : ℕ} {e : ℤ} {q : ℚ}

theorem pos (canonical : Canonical m e) (rounds : RoundsTo m e q) : 0 < q := by
  have first : (1 : ℚ) ≤ m := by exact_mod_cast canonical.positive
  have second : (quartersBelow m e : ℚ) ≤ 2 := by exact_mod_cast (quartersBelow_bounds m e).2
  refine lt_of_lt_of_le ?_ rounds.low
  have factor : (0 : ℚ) < 4 * m - quartersBelow m e := by linarith
  positivity

theorem lt_place (canonical : Canonical m e) (rounds : RoundsTo m e q) : q < 2 ^ (e + 53) := by
  have short : (m : ℚ) + 1 ≤ 2 ^ 53 := by exact_mod_cast canonical.short
  calc q ≤ (4 * m + 2) * 2 ^ (e - 2) := rounds.high
    _ < 2 ^ (55 : ℤ) * 2 ^ (e - 2) := by
      have factor : (4 * m + 2 : ℚ) < 2 ^ (55 : ℤ) := by norm_num; linarith
      gcongr
    _ = 2 ^ (e + 53) := by rw [← zpow_add₀ two_ne_zero]; congr 1; ring

/-- A fraction near a number is not much less than the number. -/
theorem ge_place {digits : ℤ} (rounds : RoundsTo m e q) (reached : (2 : ℚ) ^ digits + 2 ≤ 4 * m) :
    (2 : ℚ) ^ (e + digits - 2) ≤ q := by
  have bound : (quartersBelow m e : ℚ) ≤ 2 := by exact_mod_cast (quartersBelow_bounds m e).2
  calc (2 : ℚ) ^ (e + digits - 2) = 2 ^ digits * 2 ^ (e - 2) := by
        rw [← zpow_add₀ two_ne_zero]; congr 1; ring
    _ ≤ (4 * m - quartersBelow m e) * 2 ^ (e - 2) := by
      have factor : (2 : ℚ) ^ digits ≤ 4 * m - quartersBelow m e := by linarith
      gcongr
    _ ≤ q := rounds.low

/-- A fraction near a number has the last place of the number, or the one below if the number is the least
with its last place and the fraction is less. -/
theorem lastPlace_cases (canonical : Canonical m e) {num den : ℕ} (numPos : 0 < num)
    (denPos : 0 < den) (rounds : RoundsTo m e (num / den)) :
    lastPlace num den = e ∨ lastPlace num den = e - 1 ∧ m = 2 ^ 52 ∧ e ≠ -1074 := by
  obtain ⟨least, high, low⟩ := lastPlace_spec numPos denPos
  have least_e := canonical.least
  have atMost : lastPlace num den ≤ e := by
    by_contra more
    have bound := (low (by omega)).trans_lt (rounds.lt_place canonical)
    have := (zpow_lt_zpow_iff_right₀ one_lt_two).mp bound
    omega
  have atLeast {digits : ℤ} (reached : (2 : ℚ) ^ digits + 2 ≤ 4 * m) :
      e + digits - 2 < lastPlace num den + 53 :=
    (zpow_lt_zpow_iff_right₀ one_lt_two).mp ((rounds.ge_place reached).trans_lt high)
  rcases atMost.lt_or_eq with less | same
  · have normal : (2 ^ 52 : ℚ) ≤ m := by exact_mod_cast canonical.normal (by omega)
    have near := @atLeast 53 (by norm_num; linarith)
    have mantissa : m = 2 ^ 52 := by
      by_contra other
      have more : (2 ^ 52 + 1 : ℚ) ≤ m := by
        have normal := canonical.normal (by omega)
        have whole : 2 ^ 52 + 1 ≤ m := by omega
        exact_mod_cast whole
      have nearer := @atLeast 54 (by norm_num; linarith)
      omega
    exact .inr ⟨by omega, mantissa, by omega⟩
  · exact .inl same

/-- In units of its last place, a fraction near a number is at most a half away from the mantissa. -/
theorem scaled (rounds : RoundsTo m e q) :
    (m : ℚ) - 1 / 2 ≤ q / 2 ^ e ∧ q / 2 ^ e ≤ m + 1 / 2 ∧
      (m % 2 = 1 → (m : ℚ) - 1 / 2 < q / 2 ^ e ∧ q / 2 ^ e < m + 1 / 2) := by
  have unit : (0 : ℚ) < 2 ^ e := by positivity
  have quarter : (2 : ℚ) ^ (e - 2) = 2 ^ e / 4 := by
    rw [zpow_sub₀ two_ne_zero]
    norm_num
  have bound : (quartersBelow m e : ℚ) ≤ 2 := by exact_mod_cast (quartersBelow_bounds m e).2
  obtain ⟨low, high, odd⟩ := rounds
  rw [quarter] at low high odd
  rw [le_div_iff₀ unit, div_le_iff₀ unit, lt_div_iff₀ unit, div_lt_iff₀ unit]
  refine ⟨?_, by linarith, fun isOdd => ⟨?_, by linarith [(odd isOdd).2]⟩⟩
  · nlinarith
  · nlinarith [(odd isOdd).1]

/-- Below the least number with its last place, the place below is half of that. -/
theorem scaled_below (rounds : RoundsTo (2 ^ 52) e q) (notLeast : e ≠ -1074) :
    ((2 ^ 53 : ℕ) : ℚ) - 1 / 2 ≤ q / 2 ^ (e - 1) := by
  have unit : (0 : ℚ) < 2 ^ (e - 1) := by positivity
  have half : (2 : ℚ) ^ (e - 2) = 2 ^ (e - 1) / 2 := by
    rw [show e - 2 = e - 1 - 1 by ring, zpow_sub₀ two_ne_zero (e - 1)]
    norm_num
  have low := rounds.low
  have one : quartersBelow (2 ^ 52) e = 1 := if_pos ⟨rfl, notLeast⟩
  rw [one, half] at low
  rw [le_div_iff₀ unit]
  push_cast at low ⊢
  linarith

end RoundsTo

/-- The magnitude bits of a number with a mantissa and an exponent. -/
def bitsOf (m : ℕ) (e : ℤ) : ℕ :=
  (e + 1075).toNat * leastMantissa + m - leastMantissa

theorem bitsOf_lt {m : ℕ} {e : ℤ} (canonical : Canonical m e) : bitsOf m e < infinityBits := by
  obtain ⟨_, short, least, greatest, _⟩ := canonical
  obtain ⟨n, same⟩ := Int.eq_ofNat_of_zero_le (show 0 ≤ e + 1075 by omega)
  have mantissa : leastMantissa = 2 ^ 52 := rfl
  have infinity : infinityBits = 2047 * 2 ^ 52 := rfl
  unfold bitsOf
  rw [same, Int.toNat_natCast, mantissa, infinity]
  omega

/-- A fraction near a number is rounded to the number. -/
theorem ofQuotient?_eq {m : ℕ} {e : ℤ} (canonical : Canonical m e) {num den : ℕ} (denPos : 0 < den)
    (rounds : RoundsTo m e (num / den)) :
    ofQuotient? num den = some (Float.ofBits (bitsOf m e).toUInt64) := by
  have numPos : 0 < num := by
    by_contra none
    have zero : num = 0 := by omega
    have positive := rounds.pos canonical
    simp [zero] at positive
  have bits : (lastPlace num den + 1075).toNat * leastMantissa +
      roundQuotient (inBinaryUnits num den (lastPlace num den)).1
        (inBinaryUnits num den (lastPlace num den)).2 - leastMantissa = bitsOf m e := by
    have unitPos := inBinaryUnits_pos num denPos (lastPlace num den)
    have value := @inBinaryUnits_value num den (lastPlace num den)
    rcases rounds.lastPlace_cases canonical numPos denPos with same | ⟨below, mantissa, notLeast⟩
    · rw [same] at value unitPos ⊢
      obtain ⟨low, high, odd⟩ := rounds.scaled
      rw [← value] at low high odd
      rw [roundQuotient_eq unitPos low high odd]
      rfl
    · -- The mantissa is rounded up to the next power of two, which carries into the exponent.
      rw [mantissa] at rounds
      have low := rounds.scaled_below notLeast
      have high := (lastPlace_spec numPos denPos).2.1
      rw [below] at value unitPos high ⊢
      rw [← value] at low
      have carried : ((inBinaryUnits num den (e - 1)).1 : ℚ) / (inBinaryUnits num den (e - 1)).2 ≤
          ((2 ^ 53 : ℕ) : ℚ) + 1 / 2 := by
        rw [value, div_le_iff₀ (by positivity)]
        rw [zpow_add₀ two_ne_zero] at high
        have unit : (0 : ℚ) < 2 ^ (e - 1) := by positivity
        push_cast
        norm_num at high ⊢
        linarith
      rw [roundQuotient_eq unitPos low carried (by norm_num), mantissa]
      obtain ⟨n, same⟩ := Int.eq_ofNat_of_zero_le (show 0 ≤ e + 1074 by
        have := canonical.least
        omega)
      have least : leastMantissa = 2 ^ 52 := rfl
      unfold bitsOf
      rw [show e - 1 + 1075 = (n : ℤ) by omega, show e + 1075 = ((n + 1 : ℕ) : ℤ) by omega,
        Int.toNat_natCast, Int.toNat_natCast, least]
      omega
  unfold ofQuotient?
  rw [if_neg numPos.ne']
  dsimp only
  rw [bits, if_pos (bitsOf_lt canonical)]

end CodeGraph.Decimal
