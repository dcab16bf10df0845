import CodeGraph.Proofs.Decimal.Shortest
import CodeGraph.Proofs.Decimal.Spelling

namespace CodeGraph.Decimal

theorem two_pow_lt {n k : ℕ} (less : 2 ^ n < 10 ^ k) : (2 : ℚ) ^ (n : ℤ) < 10 ^ (k : ℤ) := by
  rw [zpow_natCast, zpow_natCast]
  exact_mod_cast less

/-- The first digit of what rounds to a number is far within the powers of ten that are read. -/
theorem size_bounds {m : ℕ} {e size : ℤ} {q : ℚ} (canonical : Canonical m e) (rounds : RoundsTo m e q)
    (low : (10 : ℚ) ^ (size - 1) ≤ q) (high : q < 10 ^ size) : -400 < size ∧ size ≤ 400 := by
  have least : (2 : ℚ) ^ (-1075 : ℤ) ≤ q := by
    have reached : (2 : ℚ) ^ (1 : ℤ) + 2 ≤ 4 * m := by
      have first : (1 : ℚ) ≤ m := by exact_mod_cast canonical.positive
      rw [zpow_one]
      linarith
    have bound := canonical.least
    exact (zpow_le_zpow_right₀ one_le_two (by omega)).trans (rounds.ge_place reached)
  have greatest : q < (2 : ℚ) ^ (1024 : ℤ) := by
    have bound := canonical.greatest
    exact (rounds.lt_place canonical).trans_le (zpow_le_zpow_right₀ one_le_two (by omega))
  have ten : (1 : ℚ) < 10 := by norm_num
  constructor
  · have wide : (10 : ℚ) ^ (-400 : ℤ) < 2 ^ (-1075 : ℤ) := by
      rw [zpow_neg, zpow_neg]
      exact inv_strictAnti₀ (by positivity) (@two_pow_lt 1075 400 (by decide +kernel))
    exact (zpow_lt_zpow_iff_right₀ ten).mp (wide.trans (least.trans_lt high))
  · have wide := @two_pow_lt 1024 400 (by decide +kernel)
    have less := (zpow_lt_zpow_iff_right₀ ten).mp ((low.trans_lt greatest).trans wide)
    omega

/-- Digits near a number are read as the number. -/
theorem nearest_eq {m : ℕ} {e power : ℤ} {digits : List Char} (canonical : Canonical m e)
    (all : ∀ c ∈ digits, c.isDigit = true) (rounds : RoundsTo m e (ofDigits digits * 10 ^ power)) :
    nearest digits power = Float.ofBits (bitsOf m e).toUInt64 := by
  have positive := rounds.pos canonical
  have same := ofDigits_dropZeros digits
  cases significant : digits.dropWhile (· == '0') with
  | nil =>
    rw [significant] at same
    rw [← same] at positive
    simp [ofDigits] at positive
  | cons c rest =>
    rw [significant] at same
    have sub := List.dropWhile_sublist (· == '0') (l := digits)
    rw [significant] at sub
    have all' : ∀ d ∈ c :: rest, d.isDigit = true := fun d member => all d (sub.subset member)
    have first : c ≠ '0' := by
      have stop := List.head?_dropWhile_not (· == '0') digits
      rw [significant] at stop
      simpa using stop
    have low : (10 : ℚ) ^ (((c :: rest).length + power : ℤ) - 1) ≤ ofDigits digits * 10 ^ power := by
      have bound : ((10 ^ rest.length : ℕ) : ℚ) ≤ (ofDigits digits : ℕ) := by
        rw [← same]
        exact_mod_cast le_ofDigits (all' c List.mem_cons_self) first
      have shift : ((c :: rest).length + power : ℤ) - 1 = rest.length + power := by
        rw [List.length_cons]
        push_cast
        ring
      rw [shift, zpow_add₀ (by norm_num), zpow_natCast]
      push_cast at bound
      gcongr
    have high : (ofDigits digits * 10 ^ power : ℚ) < 10 ^ ((c :: rest).length + power : ℤ) := by
      have bound : ((ofDigits digits : ℕ) : ℚ) < (10 ^ (c :: rest).length : ℕ) := by
        rw [← same]
        exact_mod_cast ofDigits_lt all'
      rw [zpow_add₀ (by norm_num), zpow_natCast]
      push_cast at bound
      gcongr
    obtain ⟨atLeast, atMost⟩ := size_bounds canonical rounds low high
    have value := @inUnits_value (ofDigits digits) 1 (-power)
    rw [Nat.cast_one, div_one, zpow_neg, div_inv_eq_mul] at value
    unfold nearest
    rw [significant]
    dsimp only
    rw [same, if_neg (by simp only [List.isEmpty_cons, Bool.false_or, decide_eq_true_eq]; omega),
      if_neg (by omega),
      ofQuotient?_eq canonical (inUnits_pos _ Nat.one_pos _) (value ▸ rounds)]
    rfl

theorem shortest_zero {x : Float} (zero : (magnitude x).1 = 0) : shortest x = ⟨0, 0⟩ := by
  unfold shortest
  dsimp only
  rw [if_pos zero]

theorem magnitudeBits_zero {x : Float} (zero : (magnitude x).1 = 0) : magnitudeBits x = 0 := by
  rw [magnitude_eq] at zero
  split at zero
  · dsimp only at zero
    omega
  · dsimp only at zero
    omega

theorem shortest_size {x : Float} (finite : x.isFinite = true) :
    ((shortest x).exponent + (Nat.toDigits 10 (shortest x).value).length).natAbs ≤ 400 := by
  by_cases zero : (magnitude x).1 = 0
  · rw [shortest_zero zero]
    decide
  · have canonical := canonical_magnitude finite zero
    have rounds := roundsTo_shortest finite zero
    have positive : 0 < (shortest x).value := by
      refine Nat.pos_of_ne_zero fun none => ?_
      have value := rounds.pos canonical
      rw [none] at value
      simp at value
    obtain ⟨low, high⟩ := digitCount_bounds positive
    have bounds := @size_bounds _ _ ((shortest x).exponent + digitCount (shortest x).value) _ canonical rounds
      (by
        rw [add_comm, add_sub_right_comm, zpow_add₀ (by norm_num)]
        gcongr)
      (by
        rw [add_comm, zpow_add₀ (by norm_num)]
        gcongr)
    unfold digitCount at bounds
    omega

theorem wellFormed_shortest {x : Float} (finite : x.isFinite = true) :
    (shortest x).spelling.WellFormed :=
  Digits.wellFormed_spelling _ (shortest_size finite)

/-- The written digits of a number are read as its magnitude. -/
theorem nearest_shortest {x : Float} (finite : x.isFinite = true) :
    nearest (shortest x).spelling.digits (shortest x).spelling.unit =
      Float.ofBits (magnitudeBits x).toUInt64 := by
  by_cases zero : (magnitude x).1 = 0
  · rw [shortest_zero zero, magnitudeBits_zero zero]
    rfl
  · rw [← bitsOf_magnitude]
    have rounds := roundsTo_shortest finite zero
    rw [← Digits.value_spelling] at rounds
    exact nearest_eq (canonical_magnitude finite zero) (wellFormed_shortest finite).digits rounds

/-- A finite number is read back from its digits and its sign. -/
theorem signed_shortest {x : Float} (finite : x.isFinite = true) :
    (if isNegative x then -(nearest (shortest x).spelling.digits (shortest x).spelling.unit)
      else nearest (shortest x).spelling.digits (shortest x).spelling.unit) = x := by
  rw [nearest_shortest finite]
  exact eq_of_magnitudeBits finite

end CodeGraph.Decimal
