import CodeGraph.Decimal.Notation
import CodeGraph.Proofs.Decimal.Rows
import Mathlib.Data.Nat.Cast.Basic
import Mathlib.Data.Rat.Cast.Order
import Mathlib.Algebra.Order.Field.Power
import Mathlib.Tactic.Ring

namespace CodeGraph.Decimal

/-- The parts of a written unsigned number: the digits before and after the point, and the exponent. -/
structure Spelling where
  whole : List Char
  fraction : List Char
  power : Option ℤ

namespace Spelling

/-- A fraction that is not empty stands after a point. -/
def pointed : List Char → List Char
  | [] => []
  | digits => '.' :: digits

theorem pointed_of_ne_nil {digits : List Char} (some : digits ≠ []) : pointed digits = '.' :: digits := by
  cases digits with
  | nil => exact absurd rfl some
  | cons => rfl

/-- An exponent has a sign and at least two digits. -/
def scaled : Option ℤ → List Char
  | none => []
  | some power => 'e' :: (if power < 0 then '-' else '+') :: (padded 2 power.natAbs).toList

/-- The characters of the number. -/
def chars (s : Spelling) : List Char :=
  s.whole ++ (pointed s.fraction ++ scaled s.power)

/-- The digits of the number. -/
def digits (s : Spelling) : List Char :=
  s.whole ++ s.fraction

/-- The power of ten of the last digit. -/
def unit (s : Spelling) : ℤ :=
  s.power.getD 0 - s.fraction.length

/-- The value of the number. -/
def value (s : Spelling) : ℚ :=
  ofDigits s.digits * 10 ^ s.unit

/-- A number with a fraction or an exponent, and with a leading zero only alone before the point. -/
structure WellFormed (s : Spelling) : Prop where
  digits : ∀ c ∈ s.digits, c.isDigit = true
  leading : s.whole = ['0'] ∨ ∃ c rest, s.whole = c :: rest ∧ c ≠ '0'
  marked : s.fraction ≠ [] ∨ s.power ≠ none
  short : ∀ power ∈ s.power, power.natAbs < 10 ^ 9

theorem WellFormed.whole {s : Spelling} (wellFormed : s.WellFormed) :
    ∃ c rest, s.whole = c :: rest ∧ c.isDigit = true := by
  have digits := wellFormed.digits
  rcases wellFormed.leading with zero | ⟨c, rest, split, -⟩
  · exact ⟨'0', [], zero, rfl⟩
  · exact ⟨c, rest, split, digits c (by simp [Spelling.digits, split])⟩

end Spelling

/-- The parts of the written form of digits. -/
def Digits.spelling (digits : Digits) : Spelling :=
  let chars := Nat.toDigits 10 digits.value
  let point : ℤ := digits.exponent + chars.length
  if digits.value = 0 then ⟨['0'], ['0'], none⟩
  else if -4 < point ∧ point ≤ 16 then
    if point ≤ 0 then ⟨['0'], List.replicate (-point).toNat '0' ++ chars, none⟩
    else if chars.length ≤ point.toNat then ⟨chars ++ List.replicate (point.toNat - chars.length) '0', ['0'], none⟩
    else ⟨chars.take point.toNat, chars.drop point.toNat, none⟩
  else ⟨chars.take 1, chars.drop 1, some (point - 1)⟩

namespace Digits

variable (digits : Digits)

theorem toList_text : digits.text.toList = digits.spelling.chars := by
  unfold text spelling
  dsimp only
  split
  · rfl
  split
  · split
    · simp [Spelling.chars, Spelling.scaled, Spelling.pointed_of_ne_nil, Nat.toDigits_ne_nil]
    split
    · simp [Spelling.chars, Spelling.scaled, Spelling.pointed]
    · rename_i more
      simp [Spelling.chars, Spelling.scaled, Spelling.pointed_of_ne_nil (List.drop_eq_nil_iff.not.mpr more)]
  · cases (Nat.toDigits 10 digits.value).drop 1 with
    | nil =>
      simp [Spelling.chars, Spelling.scaled, Spelling.pointed]
      split <;> rfl
    | cons c rest =>
      simp [Spelling.chars, Spelling.scaled, Spelling.pointed]
      split <;> rfl

theorem wellFormed_spelling
    (small : (digits.exponent + (Nat.toDigits 10 digits.value).length).natAbs ≤ 400) :
    digits.spelling.WellFormed := by
  have all := isDigit_toDigits digits.value
  have zeros (n : ℕ) : ∀ c ∈ List.replicate n '0', c.isDigit = true := fun c member => by
    rw [List.eq_of_mem_replicate member]
    rfl
  unfold spelling
  dsimp only
  generalize digits.exponent + ((Nat.toDigits 10 digits.value).length : ℤ) = point at small ⊢
  split
  · exact ⟨by simp [Spelling.digits], .inl rfl, .inl (by simp), by simp⟩
  rename_i nonzero
  obtain ⟨c, rest, chars, first⟩ := toDigits_eq_cons nonzero
  split
  · split
    · refine ⟨?_, .inl rfl, .inl (by simp [chars]), by simp⟩
      simp only [Spelling.digits, List.forall_mem_append]
      exact ⟨by simp, zeros _, all⟩
    split
    · refine ⟨?_, .inr ⟨c, _, by rw [chars]; rfl, first⟩, .inl (by simp), by simp⟩
      simp only [Spelling.digits, List.forall_mem_append]
      exact ⟨⟨all, zeros _⟩, by simp⟩
    · rename_i positive more
      obtain ⟨before, size⟩ : ∃ before, point.toNat = before + 1 := ⟨point.toNat - 1, by omega⟩
      refine ⟨?_, .inr ⟨c, rest.take before, by rw [size, chars]; rfl, first⟩,
        .inl (List.drop_eq_nil_iff.not.mpr more), by simp⟩
      rw [Spelling.digits, List.take_append_drop]
      exact all
  · refine ⟨?_, .inr ⟨c, [], by rw [chars]; rfl, first⟩, .inr (by simp), ?_⟩
    · rw [Spelling.digits, List.take_append_drop]
      exact all
    · simp
      omega

theorem value_spelling : digits.spelling.value = digits.value * 10 ^ digits.exponent := by
  have number := ofDigits_toDigits digits.value
  have zero : ofDigits ['0'] = 0 := rfl
  unfold spelling
  dsimp only
  split
  · rename_i none
    simp [Spelling.value, Spelling.digits, none, ofDigits]
  split
  · split
    · have value : ofDigits (['0'] ++ (List.replicate
          (-(digits.exponent + (Nat.toDigits 10 digits.value).length)).toNat '0' ++
            Nat.toDigits 10 digits.value)) = digits.value := by
        rw [← List.append_assoc, ofDigits_append, ofDigits_append, zero, ofDigits_zeros, number]
        simp
      rw [Spelling.value, Spelling.digits, value, Spelling.unit]
      congr 2
      simp
      omega
    split
    · rename_i within
      obtain ⟨n, exponent⟩ := Int.eq_ofNat_of_zero_le (show 0 ≤ digits.exponent by omega)
      have more : (digits.exponent + (Nat.toDigits 10 digits.value).length).toNat -
          (Nat.toDigits 10 digits.value).length = n := by omega
      rw [Spelling.value, Spelling.digits, Spelling.unit, ofDigits_append, ofDigits_append, number, zero,
        ofDigits_zeros, more, exponent]
      simp
      ring
    · rw [Spelling.value, Spelling.digits, List.take_append_drop, number, Spelling.unit]
      congr 2
      simp
      omega
  · rw [Spelling.value, Spelling.digits, List.take_append_drop, number, Spelling.unit]
    have some : 0 < (Nat.toDigits 10 digits.value).length := Nat.length_toDigits_pos
    congr 2
    simp
    omega

end Digits

section Padded

variable (width n : ℕ)

theorem toList_padded : (padded width n).toList =
    List.replicate (width - (Nat.toDigits 10 n).length) '0' ++ Nat.toDigits 10 n := by
  rw [padded, String.toList_ofList]

theorem isDigit_padded : ∀ c ∈ (padded width n).toList, c.isDigit = true := by
  rw [toList_padded]
  simp only [List.forall_mem_append]
  refine ⟨fun c member => ?_, isDigit_toDigits n⟩
  rw [List.eq_of_mem_replicate member]
  rfl

theorem padded_ne_nil : (padded width n).toList ≠ [] := by
  rw [toList_padded]
  exact List.append_ne_nil_of_right_ne_nil _ Nat.toDigits_ne_nil

theorem ofDigits_padded : ofDigits (padded width n).toList = n := by
  rw [toList_padded, ofDigits_append, ofDigits_zeros, ofDigits_toDigits, Nat.mul_zero, Nat.zero_add]

theorem length_padded_le {width n most : ℕ} (wide : width ≤ most) (some : 0 < most) (small : n < 10 ^ most) :
    (padded width n).toList.length ≤ most := by
  have digits := (Nat.length_toDigits_le_iff (by decide : 1 < 10) some).mpr small
  rw [toList_padded, List.length_append, List.length_replicate]
  omega

end Padded

namespace Spelling

variable {s : Spelling}

/-- No digit stands after the digits before the point. -/
theorem pointed_scaled_ends (fraction : List Char) (power : Option ℤ) :
    ∀ c ∈ (pointed fraction ++ scaled power).head?, c.isDigit = false := by
  cases fraction <;> cases power <;> simp [pointed, scaled, Char.isDigit]

theorem scaled_ends (power : Option ℤ) : ∀ c ∈ (scaled power).head?, c.isDigit = false :=
  pointed_scaled_ends [] power

/-- An exponent of a few digits is read as its power. -/
theorem exponent?_eq {digits : List Char} (present : digits ≠ []) (all : ∀ c ∈ digits, c.isDigit = true)
    (few : digits.length ≤ 9) (negative : Prop) [Decidable negative] :
    exponent? ('e' :: (if negative then '-' else '+') :: digits) =
      some (if negative then -(ofDigits digits : ℤ) else ofDigits digits) := by
  have sign : splitSign ((if negative then '-' else '+') :: digits) = (decide negative, digits) := by
    by_cases minus : negative <;> simp [splitSign, minus]
  have fewer := (List.dropWhile_sublist (· == '0') (l := digits)).length_le
  have small : ¬ (digits.dropWhile (· == '0')).length > 9 := by omega
  unfold exponent?
  dsimp only
  rw [sign]
  dsimp only
  rw [List.isEmpty_eq_false_iff.mpr present, List.all_eq_true.mpr all, if_neg small, ofDigits_dropZeros]
  simp

theorem exponent?_scaled {power : Option ℤ} (short : ∀ p ∈ power, p.natAbs < 10 ^ 9) :
    exponent? (scaled power) = some (power.getD 0) := by
  cases power with
  | none => rfl
  | some power =>
    have few := length_padded_le (by decide : 2 ≤ 9) (by decide) (short power rfl)
    rw [scaled, exponent?_eq (padded_ne_nil 2 _) (isDigit_padded 2 _) few, ofDigits_padded, Option.getD_some]
    congr 1
    omega

theorem splitFraction_pointed {fraction : List Char} (digits : ∀ c ∈ fraction, c.isDigit = true)
    (power : Option ℤ) : splitFraction (pointed fraction ++ scaled power) = (fraction, scaled power) := by
  obtain ⟨taken, dropped⟩ := takeWhile_isDigit digits (scaled_ends power)
  cases fraction with
  | nil => cases power <;> rfl
  | cons c rest =>
    simp only [pointed, List.cons_append] at taken dropped ⊢
    rw [splitFraction, taken, dropped]

/-- A written number is read as the number nearest to its value. -/
theorem unsignedFraction?_chars (wellFormed : s.WellFormed) :
    unsignedFraction? s.chars = some (nearest s.digits s.unit) := by
  have digits := wellFormed.digits
  rw [Spelling.digits, List.forall_mem_append] at digits
  obtain ⟨taken, dropped⟩ := takeWhile_isDigit digits.1 (pointed_scaled_ends s.fraction s.power)
  have some : s.digits.isEmpty = false := by
    obtain ⟨c, rest, whole, -⟩ := wellFormed.whole
    simp [Spelling.digits, whole]
  unfold unsignedFraction? chars
  rw [taken, dropped, splitFraction_pointed digits.2]
  dsimp only
  rw [← Spelling.digits, some, exponent?_scaled wellFormed.short]
  rfl

end Spelling

end CodeGraph.Decimal
