import CodeGraph.Proofs.Text.Trimming
import CodeGraph.Text.Case

namespace CodeGraph.Text

/-- A character that lowering leaves as it is, wherever it stands. -/
def IsSmall (c : Char) : Prop :=
  c.toNat ≠ 0x3A3 ∧ lowerChar c = [c]

instance (c : Char) : Decidable (IsSmall c) :=
  inferInstanceAs (Decidable (_ ∧ _))

/-- Whether no character that a run leads to lies in a range. -/
def leadsOutside (run : Nat × Nat × Nat × Int) (range : Nat × Nat) : Bool :=
  Nat.blt (run.2.1 + run.2.2.2).toNat range.1 || Nat.blt range.2 (run.1 + run.2.2.2).toNat

/-- Whether no character that a run leads to belongs to another run: they lie apart, or fall between its
characters. -/
def leadsPast (run other : Nat × Nat × Nat × Int) : Bool :=
  leadsOutside run (other.1, other.2.1) ||
    (run.1 == run.2.1 || run.2.2.1 % 2 == 0) && other.2.2.1 % 2 == 0 &&
      ((run.1 + run.2.2.2).toNat + other.1) % 2 == 1

/-- The basic capitals, the dotted capital I, and the blanks. -/
def unreached : RangeTable :=
  [(0x09, 0x0D), (0x1C, 0x20), (0x41, 0x5A), (0x85, 0x85), (0xA0, 0xA0), (0x130, 0x130), (0x3A3, 0x3A3),
    (0x1680, 0x1680), (0x2000, 0x200A), (0x2028, 0x2029), (0x202F, 0x202F), (0x205F, 0x205F), (0x3000, 0x3000)]

theorem lowerShifts_leadPast :
    (lowerShifts.all fun run => lowerShifts.all fun other => leadsPast run other) = true := by
  decide +kernel

theorem lowerShifts_leadOutside :
    (lowerShifts.all fun run => decide (0 ≤ run.1 + run.2.2.2) &&
      unreached.all fun range => leadsOutside run range) = true := by
  decide +kernel

theorem exists_run {table : ShiftTable} {c d : Char} (shifted : table.shift? c = some d) :
    ∃ run ∈ table, run.1 ≤ c.toNat ∧ c.toNat ≤ run.2.1 ∧ (c.toNat - run.1) % run.2.2.1 = 0 ∧
      d = Char.ofNat ((c.toNat : Int) + run.2.2.2).toNat := by
  obtain ⟨run, found, rfl⟩ := Option.map_eq_some_iff.mp shifted
  have holds := List.find?_some found
  simp only [Bool.and_eq_true, decide_eq_true_eq, beq_iff_eq] at holds
  exact ⟨run, List.mem_of_find?_eq_some found, holds.1.1, holds.1.2, holds.2, rfl⟩

theorem toNat_ofNat (n : Nat) : (Char.ofNat n).toNat = n ∨ Char.ofNat n = Char.ofNat 0 := by
  by_cases valid : n.isValidChar
  · left
    rw [Char.ofNat, dif_pos valid]
    rfl
  · right
    rw [Char.ofNat, dif_neg valid]
    rfl

theorem leadsOutside_ends {run : Nat × Nat × Nat × Int} {range : Nat × Nat} (outside : leadsOutside run range = true)
    {n : Nat} (low : (run.1 + run.2.2.2).toNat ≤ n) (high : n ≤ (run.2.1 + run.2.2.2).toNat) :
    n < range.1 ∨ range.2 < n := by
  simp only [leadsOutside, Bool.or_eq_true, Nat.blt_eq] at outside
  omega

theorem toLower_eq_self {c : Char} (other : c.toNat < 0x41 ∨ 0x5A < c.toNat) : c.toLower = c := by
  refine dif_neg fun capital => ?_
  have low : 0x41 ≤ c.toNat := UInt32.le_iff_toNat_le.mp capital.1
  have high : c.toNat ≤ 0x5A := UInt32.le_iff_toNat_le.mp capital.2
  omega

theorem isSmall_of_unlisted {c : Char} (outside : ∀ range ∈ unreached, c.toNat < range.1 ∨ range.2 < c.toNat)
    (unlisted : lowerShifts.shift? c = none) : IsSmall c ∧ isBlank c = false := by
  simp only [unreached, List.forall_mem_cons, List.not_mem_nil, false_imp_iff, implies_true, and_true] at outside
  refine ⟨⟨by omega, ?_⟩, ?_⟩
  · unfold lowerChar
    split
    · rw [toLower_eq_self (by omega)]
    · rw [if_neg (by omega), unlisted, Option.getD_none]
  · simp only [isBlank, isWhiteSpace, Bool.or_eq_false_iff, Bool.and_eq_false_iff, decide_eq_false_iff_not,
      beq_eq_false_iff_ne]
    omega

/-- Small letters of the table are small, and no blanks. -/
theorem isSmall_of_shift? {c d : Char} (shifted : lowerShifts.shift? c = some d) :
    IsSmall d ∧ isBlank d = false := by
  obtain ⟨run, listed, low, high, steps, rfl⟩ := exists_run shifted
  rcases toNat_ofNat ((c.toNat : Int) + run.2.2.2).toNat with code | null
  · generalize Char.ofNat ((c.toNat : Int) + run.2.2.2).toNat = d at code
    have apart := List.all_eq_true.mp lowerShifts_leadOutside run listed
    rw [Bool.and_eq_true, decide_eq_true_eq] at apart
    obtain ⟨positive, apart⟩ := apart
    have above : (run.1 + run.2.2.2).toNat ≤ d.toNat := by omega
    have below : d.toNat ≤ (run.2.1 + run.2.2.2).toNat := by omega
    refine isSmall_of_unlisted (fun range among =>
      leadsOutside_ends (List.all_eq_true.mp apart range among) above below) ?_
    refine Option.map_eq_none_iff.mpr (List.find?_eq_none.mpr fun other among holds => ?_)
    simp only [Bool.and_eq_true, decide_eq_true_eq, beq_iff_eq] at holds
    obtain ⟨⟨first, last⟩, even⟩ := holds
    have past := List.all_eq_true.mp (List.all_eq_true.mp lowerShifts_leadPast run listed) other among
    simp only [leadsPast, Bool.or_eq_true, Bool.and_eq_true, beq_iff_eq] at past
    rcases past with outside | ⟨⟨own, two⟩, odd⟩
    · have ends := leadsOutside_ends outside above below
      dsimp only at ends
      omega
    · -- the run keeps to one parity, and the other run to the other one
      have its : 2 ∣ d.toNat - other.1 := Nat.dvd_trans (Nat.dvd_of_mod_eq_zero two) (Nat.dvd_of_mod_eq_zero even)
      have ours : 2 ∣ c.toNat - run.1 := by
        rcases own with single | step
        · rw [show c.toNat - run.1 = 0 by omega]
          exact Nat.dvd_zero 2
        · exact Nat.dvd_trans (Nat.dvd_of_mod_eq_zero step) (Nat.dvd_of_mod_eq_zero steps)
      omega
  · rw [null]
    decide

/-- A piece that lowering may make of one character. -/
structure LowersTo (c : Char) (piece : List Char) : Prop where
  some : piece ≠ []
  small : ∀ d ∈ piece, IsSmall d
  blank : isBlank c = false → ∀ d ∈ piece, isBlank d = false

theorem LowersTo.of_isSmall {c d : Char} (small : IsSmall d) (blank : isBlank c = false → isBlank d = false) :
    LowersTo c [d] where
  some := List.cons_ne_nil _ _
  small := List.forall_mem_singleton.mpr small
  blank := fun bare => List.forall_mem_singleton.mpr (blank bare)

theorem basic_small : ∀ n < 0x80, IsSmall (Char.ofNat n).toLower ∧
    (isBlank (Char.ofNat n) = false → isBlank (Char.ofNat n).toLower = false) := by
  decide +kernel

theorem lowersTo_lowerChar {c : Char} (other : c.toNat ≠ 0x3A3) : LowersTo c (lowerChar c) := by
  unfold lowerChar
  split
  · rename_i basic
    have small := basic_small c.toNat basic
    rw [Char.ofNat_toNat] at small
    exact .of_isSmall small.1 small.2
  split
  · exact ⟨List.cons_ne_nil _ _, List.forall_mem_cons.mpr ⟨by decide, List.forall_mem_singleton.mpr (by decide)⟩,
      fun _ => List.forall_mem_cons.mpr ⟨by decide, List.forall_mem_singleton.mpr (by decide)⟩⟩
  · rename_i extended dotted
    cases shifted : lowerShifts.shift? c with
    | some d => exact .of_isSmall (isSmall_of_shift? shifted).1 fun _ => (isSmall_of_shift? shifted).2
    | none =>
      have same : lowerChar c = [c] := by rw [lowerChar, if_neg extended, if_neg dotted, shifted, Option.getD_none]
      exact .of_isSmall ⟨other, same⟩ id

/-- Lowering makes a piece of each character. -/
theorem exists_lowersTo (before : List Char) (c : Char) (rest : List Char) :
    ∃ piece, LowersTo c piece ∧ lowerFrom before (c :: rest) = piece ++ lowerFrom (c :: before) rest := by
  rw [lowerFrom]
  by_cases sigma : c.toNat = 0x3A3
  · rw [if_pos sigma]
    refine ⟨_, .of_isSmall ?_ fun _ => ?_, rfl⟩ <;> split <;> decide
  · rw [if_neg sigma]
    exact ⟨_, lowersTo_lowerChar sigma, rfl⟩

theorem isSmall_lowerFrom (before chars : List Char) : ∀ c ∈ lowerFrom before chars, IsSmall c := by
  induction chars generalizing before with
  | nil => nofun
  | cons c rest ih =>
    obtain ⟨piece, lowers, same⟩ := exists_lowersTo before c rest
    rw [same, List.forall_mem_append]
    exact ⟨lowers.small, ih (c :: before)⟩

theorem lowerFrom_of_isSmall {chars : List Char} (small : ∀ c ∈ chars, IsSmall c) (before : List Char) :
    lowerFrom before chars = chars := by
  induction chars generalizing before with
  | nil => rfl
  | cons c rest ih =>
    obtain ⟨⟨other, same⟩, later⟩ := List.forall_mem_cons.mp small
    rw [lowerFrom, if_neg other, same, ih later]
    rfl

theorem lowerChars_lowerChars (chars : List Char) : lowerChars (lowerChars chars) = lowerChars chars :=
  lowerFrom_of_isSmall (isSmall_lowerFrom [] chars) []

/-- Lowering keeps the characters that it leaves as they are. -/
theorem mem_lowerFrom {before chars : List Char} {c : Char} (member : c ∈ chars) (small : IsSmall c) :
    c ∈ lowerFrom before chars := by
  induction chars generalizing before with
  | nil => nomatch member
  | cons d rest ih =>
    rw [lowerFrom]
    rcases List.mem_cons.mp member with rfl | later
    · rw [if_neg small.1, small.2]
      exact List.mem_cons_self
    · exact List.mem_append_right _ (ih later)

theorem lowerFrom_ne_nil (before : List Char) (c : Char) (rest : List Char) : lowerFrom before (c :: rest) ≠ [] := by
  obtain ⟨piece, lowers, same⟩ := exists_lowersTo before c rest
  rw [same]
  exact List.append_ne_nil_of_left_ne_nil lowers.some _

theorem lowerFrom_head? {before chars : List Char} (bare : ∀ c ∈ chars.head?, isBlank c = false) :
    ∀ c ∈ (lowerFrom before chars).head?, isBlank c = false := by
  cases chars with
  | nil => nofun
  | cons c rest =>
    obtain ⟨piece, lowers, same⟩ := exists_lowersTo before c rest
    intro d first
    rw [same, List.head?_append_of_ne_nil _ lowers.some] at first
    exact lowers.blank (bare c rfl) d (List.mem_of_head? first)

theorem lowerFrom_getLast? {before chars : List Char} (bare : ∀ c ∈ chars.getLast?, isBlank c = false) :
    ∀ c ∈ (lowerFrom before chars).getLast?, isBlank c = false := by
  induction chars generalizing before with
  | nil => nofun
  | cons c rest ih =>
    obtain ⟨piece, lowers, same⟩ := exists_lowersTo before c rest
    intro d last
    rw [same] at last
    cases rest with
    | nil =>
      rw [lowerFrom, List.append_nil] at last
      exact lowers.blank (bare c rfl) d (List.mem_of_getLast? last)
    | cons next more =>
      rw [List.getLast?_append_of_ne_nil _ (lowerFrom_ne_nil _ next more)] at last
      exact ih (by rwa [List.getLast?_cons_cons] at bare) d last

/-- Lowering brings no blanks to the ends of a text. -/
theorem trimChars_lowerChars {chars : List Char} (trimmed : trimChars isBlank chars = chars) :
    trimChars isBlank (lowerChars chars) = lowerChars chars := by
  obtain ⟨first, last⟩ := trimChars_eq_self_iff.mp trimmed
  exact trimChars_eq_self_iff.mpr ⟨lowerFrom_head? first, lowerFrom_getLast? last⟩

end CodeGraph.Text
