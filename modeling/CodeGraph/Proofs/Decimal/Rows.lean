import CodeGraph.Decimal.Reading
import Mathlib.Algebra.Order.Ring.Nat
import Mathlib.Data.List.Induction
import Mathlib.Data.List.TakeWhile
import Mathlib.Tactic.Linarith

namespace CodeGraph.Decimal

theorem ofDigits_eq (digits : List Char) : ofDigits digits = Nat.ofDigitChars 10 digits 0 :=
  Nat.ofDigitChars_eq_foldl.symm

theorem ofDigits_toDigits (n : ℕ) : ofDigits (Nat.toDigits 10 n) = n := by
  rw [ofDigits_eq, Nat.ofDigitChars_ten_toDigits]

theorem ofDigits_append (digits more : List Char) :
    ofDigits (digits ++ more) = 10 ^ more.length * ofDigits digits + ofDigits more := by
  simp only [ofDigits_eq]
  rw [Nat.ofDigitChars_append, Nat.ofDigitChars_eq_ofDigitChars_zero]

theorem ofDigits_zeros (n : ℕ) : ofDigits (List.replicate n '0') = 0 := by
  rw [ofDigits_eq, Nat.ofDigitChars_replicate_zero, Nat.mul_zero]

theorem takeWhile_zero (digits : List Char) :
    digits.takeWhile (· == '0') = List.replicate (digits.takeWhile (· == '0')).length '0' :=
  List.eq_replicate_of_mem fun _ member =>
    beq_iff_eq.mp (List.mem_takeWhile_imp (p := (· == '0')) member)

theorem ofDigits_dropZeros (digits : List Char) :
    ofDigits (digits.dropWhile (· == '0')) = ofDigits digits := by
  conv_rhs => rw [← List.takeWhile_append_dropWhile (p := (· == '0')) (l := digits), takeWhile_zero,
    ofDigits_append, ofDigits_zeros, Nat.mul_zero, Nat.zero_add]

theorem digit_bounds {c : Char} (digit : c.isDigit = true) :
    ofDigits [c] < 10 ∧ (c ≠ '0' → 1 ≤ ofDigits [c]) := by
  have bounds : 48 ≤ c.toNat ∧ c.toNat ≤ 57 := by
    simpa [Char.isDigit, UInt32.le_iff_toNat_le] using digit
  have one : ofDigits [c] = c.toNat - 48 := by simp [ofDigits]
  rw [one]
  refine ⟨by omega, fun other => ?_⟩
  have code : c.toNat ≠ 48 := fun same => other (Char.toNat_inj.mp same)
  omega

theorem ofDigits_lt {digits : List Char} (all : ∀ c ∈ digits, c.isDigit = true) :
    ofDigits digits < 10 ^ digits.length := by
  induction digits using List.reverseRecOn with
  | nil => decide
  | append_singleton rest c ih =>
    have last := (digit_bounds (all c (by simp))).1
    have before := ih fun d member => all d (List.mem_append_left _ member)
    rw [ofDigits_append, List.length_append, List.length_singleton, pow_succ]
    omega

/-- Digits that do not start with a zero stand for a number of that many digits. -/
theorem le_ofDigits {c : Char} {digits : List Char} (digit : c.isDigit = true) (nonzero : c ≠ '0') :
    10 ^ digits.length ≤ ofDigits (c :: digits) := by
  have first := (digit_bounds digit).2 nonzero
  calc 10 ^ digits.length ≤ 10 ^ digits.length * ofDigits [c] := Nat.le_mul_of_pos_right _ first
    _ ≤ 10 ^ digits.length * ofDigits [c] + ofDigits digits := Nat.le_add_right _ _
    _ = ofDigits (c :: digits) := (ofDigits_append [c] digits).symm

theorem isDigit_toDigits (n : ℕ) : ∀ c ∈ Nat.toDigits 10 n, c.isDigit = true :=
  fun _ member => Nat.isDigit_of_mem_toDigits (by decide) (by decide) member

/-- The written form of a number that is not zero does not start with a zero. -/
theorem toDigits_eq_cons {n : ℕ} (nonzero : n ≠ 0) : ∃ c rest, Nat.toDigits 10 n = c :: rest ∧ c ≠ '0' := by
  induction n using Nat.strongRecOn with
  | _ n ih =>
    rw [Nat.toDigits_eq_if (by decide)]
    split
    · rename_i small
      refine ⟨_, _, rfl, fun zero => nonzero ?_⟩
      have code := congrArg Char.toNat zero
      rw [Nat.toNat_digitChar_of_lt_ten small] at code
      have offset : '0'.toNat = 48 := rfl
      omega
    · obtain ⟨c, rest, split, other⟩ := ih (n / 10) (by omega) (by omega)
      exact ⟨c, rest ++ [(n % 10).digitChar], by rw [split]; rfl, other⟩

theorem takeWhile_isDigit {digits : List Char} (all : ∀ c ∈ digits, c.isDigit = true) {rest : List Char}
    (ends : ∀ c ∈ rest.head?, c.isDigit = false) :
    (digits ++ rest).takeWhile Char.isDigit = digits ∧ (digits ++ rest).dropWhile Char.isDigit = rest := by
  rw [List.takeWhile_append_of_pos all, List.dropWhile_append_of_pos all]
  cases rest with
  | nil => simp
  | cons c rest =>
    have stop := ends c rfl
    simp [stop]

end CodeGraph.Decimal
