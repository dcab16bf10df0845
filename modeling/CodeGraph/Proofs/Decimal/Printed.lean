import CodeGraph.Decimal.Notation
import CodeGraph.Text.Blank

namespace CodeGraph

namespace Text

theorem isWhiteSpace_eq_false_of_isDigit {c : Char} (digit : c.isDigit = true) :
    isWhiteSpace c = false := by
  have bounds : 48 ≤ c.toNat ∧ c.toNat ≤ 57 := by
    simpa [Char.isDigit, UInt32.le_iff_toNat_le] using digit
  simp [isWhiteSpace]
  omega

/-- A text without white space. -/
def Unspaced (chars : List Char) : Prop :=
  ∀ c ∈ chars, isWhiteSpace c = false

instance (chars : List Char) : Decidable (Unspaced chars) :=
  List.decidableBAll (fun c => isWhiteSpace c = false) chars

theorem Unspaced.append {chars more : List Char} (first : Unspaced chars) (second : Unspaced more) :
    Unspaced (chars ++ more) :=
  fun c member => (List.mem_append.mp member).elim (first c) (second c)

theorem Unspaced.toDigits (n : Nat) : Unspaced (Nat.toDigits 10 n) :=
  fun _ member => isWhiteSpace_eq_false_of_isDigit
    (Nat.isDigit_of_mem_toDigits (by decide) (by decide) member)

theorem Unspaced.zeros (n : Nat) : Unspaced (List.replicate n '0') := by
  intro c member
  rw [List.eq_of_mem_replicate member]
  decide

theorem Unspaced.sublist {chars more : List Char} (unspaced : Unspaced more)
    (sub : chars.Sublist more) : Unspaced chars :=
  fun c member => unspaced c (sub.subset member)

theorem Unspaced.repr (n : Nat) : Unspaced (Nat.repr n).toList := by
  rw [Nat.toList_repr]
  exact .toDigits n

theorem Unspaced.toString (i : Int) : Unspaced (ToString.toString i).toList := by
  cases i with
  | ofNat n => exact .repr n
  | negSucc n =>
    change Unspaced ("-" ++ Nat.repr (n + 1)).toList
    rw [String.toList_append]
    exact .append (by decide) (.repr _)

end Text

namespace Decimal

open Text

theorem padded_unspaced (width n : Nat) : Unspaced (padded width n).toList := by
  rw [padded, String.toList_ofList]
  exact (Unspaced.zeros _).append (.toDigits n)

theorem Digits.text_unspaced (digits : Digits) : Unspaced digits.text.toList := by
  have chars := Unspaced.toDigits digits.value
  have first (n : Nat) := chars.sublist (List.take_sublist n _)
  have later (n : Nat) := chars.sublist (List.drop_sublist n _)
  have fraction : Unspaced (if ((Nat.toDigits 10 digits.value).drop 1).isEmpty then ("" : String)
      else "." ++ String.ofList ((Nat.toDigits 10 digits.value).drop 1)).toList := by
    split
    · decide
    · simp only [String.toList_append, String.toList_ofList]
      exact .append (by decide) (later 1)
  have sign (power : Int) : Unspaced (if power < 0 then ("-" : String) else "+").toList := by
    split <;> decide
  unfold Digits.text
  dsimp only
  split
  · decide
  split
  · split
    · simp only [String.toList_append, String.toList_ofList]
      exact .append (by decide) ((Unspaced.zeros _).append chars)
    split
    · simp only [String.toList_append, String.toList_ofList]
      exact (chars.append (.zeros _)).append (by decide)
    · simp only [String.toList_append, String.toList_ofList]
      exact ((first _).append (by decide)).append (later _)
  · simp only [String.toList_append, String.toList_ofList]
    exact ((((first 1).append fraction).append (by decide)).append (sign _)).append
      (padded_unspaced 2 _)

theorem text_unspaced (x : Float) : Unspaced (text x).toList := by
  have sign : Unspaced (if isNegative x then ("-" : String) else "").toList := by
    split <;> decide
  unfold text
  split
  · decide
  · rw [String.toList_append]
    refine sign.append ?_
    split
    · decide
    · exact Digits.text_unspaced _

end Decimal

end CodeGraph
