import CodeGraph.Proofs.Decimal.Spelling

namespace CodeGraph.Decimal

/-- Numbers of a leading part and a smaller rest compare by the leading part first. -/
theorem scaled_compare {unit d e m n : ℕ} (smallM : m < unit) (smallN : n < unit) :
    (unit * d + m < unit * e + n ↔ d < e ∨ d = e ∧ m < n) ∧
      (unit * d + m = unit * e + n ↔ d = e ∧ m = n) := by
  have carry {d e : ℕ} (less : d < e) : unit * d + unit ≤ unit * e := by
    rw [← Nat.mul_succ]
    exact Nat.mul_le_mul_left unit less
  rcases lt_trichotomy d e with less | rfl | more
  · have := carry less
    omega
  · omega
  · have := carry more
    omega

theorem digit_compare {c d : Char} (digitC : c.isDigit = true) (digitD : d.isDigit = true) :
    (c < d ↔ ofDigits [c] < ofDigits [d]) ∧ (c = d ↔ ofDigits [c] = ofDigits [d]) := by
  have bounds {c : Char} (digit : c.isDigit = true) : 48 ≤ c.toNat := by
    simp only [Char.isDigit, Bool.and_eq_true, decide_eq_true_eq, UInt32.le_iff_toNat_le] at digit
    exact digit.1
  have one (c : Char) : ofDigits [c] = c.toNat - 48 := by simp [ofDigits]
  have lowC := bounds digitC
  have lowD := bounds digitD
  have order : c < d ↔ c.toNat < d.toNat := Iff.rfl
  have same : c = d ↔ c.toNat = d.toNat := Char.toNat_inj.symm
  rw [one, one, order, same]
  omega

/-- Texts that start with digits, as many in one as in the other. -/
theorem digits_append_lt {xs ys : List Char} (digitsX : ∀ c ∈ xs, c.isDigit = true)
    (digitsY : ∀ c ∈ ys, c.isDigit = true) (length : xs.length = ys.length) (as bs : List Char) :
    xs ++ as < ys ++ bs ↔ ofDigits xs < ofDigits ys ∨ ofDigits xs = ofDigits ys ∧ as < bs := by
  induction xs generalizing ys with
  | nil =>
    obtain rfl := List.length_eq_zero_iff.mp length.symm
    simp
  | cons x xs ih =>
    obtain ⟨y, ys, rfl⟩ := List.exists_cons_of_length_eq_add_one length.symm
    obtain ⟨digitX, digitsX⟩ := List.forall_mem_cons.mp digitsX
    obtain ⟨digitY, digitsY⟩ := List.forall_mem_cons.mp digitsY
    have length : xs.length = ys.length := Nat.succ.inj length
    have smallX := ofDigits_lt digitsX
    have smallY := ofDigits_lt digitsY
    rw [← length] at smallY
    have splitX := ofDigits_append [x] xs
    have splitY := ofDigits_append [y] ys
    rw [← length] at splitY
    obtain ⟨less, same⟩ := digit_compare digitX digitY
    obtain ⟨lessAll, sameAll⟩ := @scaled_compare _ (ofDigits [x]) (ofDigits [y]) _ _ smallX smallY
    rw [List.singleton_append] at splitX splitY
    rw [List.cons_append, List.cons_append, List.cons_lt_cons_iff, ih digitsX digitsY length, splitX, splitY, lessAll,
      sameAll, less, same, and_or_left, or_assoc, and_assoc]

section Padded

variable {width m n : ℕ}

theorem length_padded (some : 0 < width) (small : n < 10 ^ width) : (padded width n).toList.length = width := by
  have digits := (Nat.length_toDigits_le_iff (by decide : 1 < 10) some).mpr small
  rw [toList_padded, List.length_append, List.length_replicate]
  omega

/-- Numbers that are padded to one width are in the order of their texts. -/
theorem padded_append_lt (some : 0 < width) (smallM : m < 10 ^ width) (smallN : n < 10 ^ width) (as bs : List Char) :
    (padded width m).toList ++ as < (padded width n).toList ++ bs ↔ m < n ∨ m = n ∧ as < bs := by
  have lengths := (length_padded some smallM).trans (length_padded some smallN).symm
  rw [digits_append_lt (isDigit_padded width m) (isDigit_padded width n) lengths, ofDigits_padded, ofDigits_padded]

end Padded

end CodeGraph.Decimal
