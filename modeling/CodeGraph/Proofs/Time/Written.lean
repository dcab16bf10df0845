import CodeGraph.Proofs.Decimal.Comparing
import CodeGraph.Time.Reading

namespace CodeGraph.DateTime

open Decimal

/-- What is counted on the calendar and the clock, from the year down to the microsecond. -/
def units (t : DateTime) : List Nat :=
  [t.year, t.month, t.day, t.hour, t.minute, t.second, t.microsecond]

/-- A point comes before another. Neither has an offset. -/
def Before (t u : DateTime) : Prop :=
  t.units < u.units

instance (t u : DateTime) : Decidable (t.Before u) :=
  inferInstanceAs (Decidable (t.units < u.units))

/-- A point on the calendar without an offset. -/
structure IsNaive (t : DateTime) : Prop where
  valid : t.isValid = true
  plain : t.offset = none

theorem daysInMonth_bounds {year month day : Nat} (some : 0 < day) (within : day ≤ daysInMonth year month) :
    month < 10 ^ 2 ∧ day < 10 ^ 2 := by
  unfold daysInMonth at within
  split at within <;> (try split at within) <;> omega

/-- Each unit has a place of a fixed width. -/
structure Fits (t : DateTime) : Prop where
  year : t.year < 10 ^ 4
  month : t.month < 10 ^ 2
  day : t.day < 10 ^ 2
  hour : t.hour < 10 ^ 2
  minute : t.minute < 10 ^ 2
  second : t.second < 10 ^ 2
  microsecond : t.microsecond < 10 ^ 6

theorem IsNaive.fits {t : DateTime} (naive : t.IsNaive) : t.Fits := by
  have valid := naive.valid
  simp only [isValid, Bool.and_eq_true, decide_eq_true_eq] at valid
  obtain ⟨⟨⟨⟨⟨⟨⟨year, day⟩, within⟩, hour⟩, minute⟩, second⟩, microsecond⟩, -⟩ := valid
  obtain ⟨month, day⟩ := daysInMonth_bounds day within
  exact ⟨by omega, month, day, by omega, by omega, by omega, microsecond⟩

/-- A fraction of a second, if there is one. -/
def fraction (microsecond : Nat) : List Char :=
  if microsecond = 0 then [] else '.' :: (padded 6 microsecond).toList

/-- The written form, unit by unit. -/
theorem toList_text {t : DateTime} (plain : t.offset = none) :
    t.text.toList = (padded 4 t.year).toList ++ '-' :: ((padded 2 t.month).toList ++ '-' ::
      ((padded 2 t.day).toList ++ 'T' :: ((padded 2 t.hour).toList ++ ':' :: ((padded 2 t.minute).toList ++ ':' ::
        ((padded 2 t.second).toList ++ fraction t.microsecond))))) := by
  have rest : (if t.microsecond = 0 then "" else "." ++ padded 6 t.microsecond).toList = fraction t.microsecond := by
    unfold fraction
    split <;> simp
  rw [text, plain, dateText, clockText]
  simp [rest]

theorem fraction_lt {m n : Nat} (smallM : m < 10 ^ 6) (smallN : n < 10 ^ 6) :
    fraction m < fraction n ↔ m < n := by
  unfold fraction
  split <;> split
  · simp [*]
  · simp
    omega
  · simp
    omega
  · have compared := padded_append_lt (by decide) smallM smallN [] []
    simp only [List.append_nil] at compared
    simp [compared]

/-- Texts are in the order of the points that they denote. -/
theorem text_lt_iff {t u : DateTime} (naiveT : t.IsNaive) (naiveU : u.IsNaive) : t.text < u.text ↔ t.Before u := by
  have fitsT := naiveT.fits
  have fitsU := naiveU.fits
  rw [String.lt_iff, toList_text naiveT.plain, toList_text naiveU.plain,
    padded_append_lt (by decide) fitsT.year fitsU.year]
  simp only [List.cons_lt_cons_iff, Char.lt_irrefl, true_and, false_or,
    padded_append_lt (by decide) fitsT.month fitsU.month, padded_append_lt (by decide) fitsT.day fitsU.day,
    padded_append_lt (by decide) fitsT.hour fitsU.hour, padded_append_lt (by decide) fitsT.minute fitsU.minute,
    padded_append_lt (by decide) fitsT.second fitsU.second, fraction_lt fitsT.microsecond fitsU.microsecond]
  simp [Before, units, List.cons_lt_cons_iff]

theorem digits?_padded {width n : Nat} (some : 0 < width) (small : n < 10 ^ width) (rest : List Char) :
    digits? width ((padded width n).toList ++ rest) = .some (n, rest) := by
  have length := length_padded some small
  have digits := List.all_eq_true.mpr (isDigit_padded width n)
  unfold digits?
  dsimp only
  rw [List.take_left' length, List.drop_left' length, if_pos ⟨length, digits⟩, ofDigits_padded]

theorem seconds?_fraction {second microsecond : Nat} (smallS : second < 10 ^ 2) (smallM : microsecond < 10 ^ 6) :
    seconds? (':' :: ((padded 2 second).toList ++ fraction microsecond)) = .some ((second, microsecond), []) := by
  rw [seconds?, digits?_padded (by decide) smallS]
  dsimp only [bind, Option.bind]
  by_cases zero : microsecond = 0
  · rw [fraction, if_pos zero, zero]
  · obtain ⟨taken, dropped⟩ := @takeWhile_isDigit _ (isDigit_padded 6 microsecond) [] (by simp)
    rw [List.append_nil] at taken dropped
    have some : (padded 6 microsecond).toList.isEmpty = false := List.isEmpty_eq_false_iff.mpr (padded_ne_nil 6 _)
    have length := length_padded (by decide) smallM
    have kept : (padded 6 microsecond).toList.take 6 = (padded 6 microsecond).toList :=
      List.take_of_length_le (Nat.le_of_eq length)
    rw [fraction, if_neg zero]
    simp [taken, dropped, some, kept, length, ofDigits_padded]

/-- A written point is read back. -/
theorem full?_text {t : DateTime} (naive : t.IsNaive) : full? t.text.toList = some t := by
  have fits := naive.fits
  have shown : ({ t with offset := none } : DateTime) = t := by rw [← naive.plain]
  rw [toList_text naive.plain, full?, date?]
  simp only [digits?_padded (by decide : 0 < 4) fits.year, digits?_padded (by decide : 0 < 2) fits.month,
    digits?_padded (by decide : 0 < 2) fits.day, digits?_padded (by decide : 0 < 2) fits.hour,
    digits?_padded (by decide : 0 < 2) fits.minute, seconds?_fraction fits.second fits.microsecond, after?, offset?,
    bind, Option.bind, beq_self_eq_true, if_true, Bool.true_or]
  rw [if_pos (shown ▸ naive.valid)]
  exact congrArg some shown

theorem text_injective {t u : DateTime} (naiveT : t.IsNaive) (naiveU : u.IsNaive) (same : t.text = u.text) :
    t = u := by
  have read := full?_text naiveT
  rw [same, full?_text naiveU] at read
  exact (Option.some.inj read).symm

end CodeGraph.DateTime
