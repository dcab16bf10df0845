import CodeGraph.TypeExpr.Normalize
import CodeGraph.Proofs.Text.Searching
import CodeGraph.Proofs.Text.Trimming

namespace CodeGraph.TypeTable

open Text TypeExpr

section

variable {table : TypeTable} {levels : Nat} {written text : List Char}

/-- The members of a union. -/
def members (table : TypeTable) (text : List Char) : List (List Char) :=
  splitTopLevel (table.unionSeparators.map String.toList) text

/-- The members of an intersection. -/
def parts (table : TypeTable) (text : List Char) : List (List Char) :=
  splitTopLevel (table.intersectionSeparators.map String.toList) text

def unmarked (table : TypeTable) (text : List Char) : List Char :=
  withoutMarks table.optionalSuffix.toList table.arraySuffix.toList (text.length + 1) text

/-- What a name stands for: itself, unless it is a primitive or null name. -/
def nameOf? (table : TypeTable) (word : List Char) : Option (List Char) :=
  if table.isNull word || table.isPrimitive word then none else some word

/-- Blanks around an annotation make no difference. -/
theorem nameWithin_congr {first second : List Char} (same : trimChars isBlank first = trimChars isBlank second) :
    table.nameWithin levels first = table.nameWithin levels second := by
  cases levels with
  | zero => rfl
  | succ levels => rw [nameWithin, nameWithin, same]

theorem nameWithin_union (unquoted : table.unquoted? (trimChars isBlank written) = some text)
    (named : isNameless text = false) (several : 1 < (table.members text).length) :
    table.nameWithin (levels + 1) written =
      ((table.members text).find? (!table.isNull ·)).bind (table.nameWithin levels) := by
  rw [nameWithin, unquoted]
  show (if isNameless text then none else _) = _
  rw [named]
  exact if_pos several

theorem nameWithin_intersection (unquoted : table.unquoted? (trimChars isBlank written) = some text)
    (named : isNameless text = false) (single : ¬ 1 < (table.members text).length)
    (several : 1 < (table.parts text).length) :
    table.nameWithin (levels + 1) written = (table.parts text).head?.bind (table.nameWithin levels) := by
  rw [nameWithin, unquoted]
  show (if isNameless text then none else _) = _
  rw [named]
  exact (if_neg single).trans (if_pos several)

/-- What is left without separators outside brackets is a name, a generic, or one of them with marks. -/
theorem nameWithin_part (unquoted : table.unquoted? (trimChars isBlank written) = some text)
    (named : isNameless text = false) (single : ¬ 1 < (table.members text).length)
    (single' : ¬ 1 < (table.parts text).length) (remains : table.unmarked text ≠ []) :
    table.nameWithin (levels + 1) written =
      match table.generic? (table.unmarked text) with
      | some (outer, arguments) =>
        if table.isUnionWrapper outer then (arguments.find? (!table.isNull ·)).bind (table.nameWithin levels)
        else if table.isTransparent outer then arguments.head?.bind (table.nameWithin levels)
        else table.nameOf? outer
      | none => table.nameOf? (table.unmarked text) := by
  have bare : (table.unmarked text).isEmpty = false := by
    rwa [Bool.eq_false_iff, ne_eq, List.isEmpty_iff]
  rw [nameWithin, unquoted]
  show (if isNameless text then none else _) = _
  rw [named]
  refine (if_neg single).trans ((if_neg single').trans ?_)
  show (if (table.unmarked text).isEmpty then none else _) = _
  rw [bare]
  rfl

end

section

variable {mark optional array front text gap rest : List Char} {fuel : Nat}

theorem withoutSuffix?_append (nonempty : mark ≠ []) (trimmed : trimChars isBlank text = text)
    (blanks : ∀ c ∈ gap, isBlank c = true) : withoutSuffix? mark (text ++ (gap ++ mark)) = some text := by
  have holds : (!mark.isEmpty && mark.isSuffixOf (text ++ (gap ++ mark))) = true := by
    simp [nonempty, ← List.append_assoc]
  have front : (text ++ (gap ++ mark)).take ((text ++ (gap ++ mark)).length - mark.length) = text ++ gap := by
    rw [← List.append_assoc, List.length_append, Nat.add_sub_cancel, List.take_left]
  rw [withoutSuffix?, if_pos holds, front, trimChars_append trimmed blanks]

theorem suffix_of_withoutSuffix? (found : withoutSuffix? mark text = some rest) :
    mark ≠ [] ∧ mark <:+ text ∧ rest = trimChars isBlank (text.take (text.length - mark.length)) := by
  rw [withoutSuffix?] at found
  split at found
  · rename_i holds
    simp only [Bool.and_eq_true, Bool.not_eq_true', List.isEmpty_eq_false_iff, List.isSuffixOf_iff_suffix] at holds
    exact ⟨holds.1, holds.2, (Option.some.inj found).symm⟩
  · nomatch found

/-- A text that has lost a mark ended in the last character of the mark. -/
theorem getLast?_of_withoutSuffix? (found : withoutSuffix? mark text = some rest) : text.getLast? = mark.getLast? := by
  obtain ⟨nonempty, ⟨front, rfl⟩, -⟩ := suffix_of_withoutSuffix? found
  exact List.getLast?_append_of_ne_nil _ nonempty

theorem withoutSuffix?_eq_none (other : ∀ c ∈ mark.getLast?, c ∉ text.getLast?) : withoutSuffix? mark text = none := by
  by_contra some
  obtain ⟨rest, found⟩ := Option.ne_none_iff_exists'.mp some
  have last := List.getLast?_eq_some_getLast (suffix_of_withoutSuffix? found).1
  exact other _ last ((getLast?_of_withoutSuffix? found).trans last)

theorem length_withoutSuffix? (found : withoutSuffix? mark text = some rest) : rest.length < text.length := by
  obtain ⟨nonempty, suffix, rfl⟩ := suffix_of_withoutSuffix? found
  have some := List.length_pos_of_ne_nil nonempty
  have long := suffix.length_le
  have short := (trimChars_sublist isBlank (text.take (text.length - mark.length))).length_le
  rw [List.length_take] at short
  omega

/-- A round leaves the text as it is, or goes on with a shorter one. -/
theorem withoutMarks_succ (optional array text : List Char) :
    (∀ fuel, withoutMarks optional array (fuel + 1) text = text) ∨
      ∃ rest, rest.length < text.length ∧
        ∀ fuel, withoutMarks optional array (fuel + 1) text = withoutMarks optional array fuel rest := by
  cases first : withoutSuffix? optional text with
  | none =>
    cases second : withoutSuffix? array text with
    | none => exact .inl fun fuel => by rw [withoutMarks, first, Option.getD_none, second]; rfl
    | some rest =>
      refine .inr ⟨rest, length_withoutSuffix? second, fun fuel => ?_⟩
      rw [withoutMarks, first, Option.getD_none, second]
      rfl
  | some once =>
    have short := length_withoutSuffix? first
    cases second : withoutSuffix? array once with
    | none =>
      refine .inr ⟨once, short, fun fuel => ?_⟩
      rw [withoutMarks, first, Option.getD_some, second]
      rfl
    | some rest =>
      refine .inr ⟨rest, Nat.lt_trans (length_withoutSuffix? second) short, fun fuel => ?_⟩
      rw [withoutMarks, first, Option.getD_some, second]
      rfl

theorem withoutMarks_add_one (enough : text.length ≤ fuel) :
    withoutMarks optional array (fuel + 1) text = withoutMarks optional array fuel text := by
  induction fuel generalizing text with
  | zero =>
    rcases withoutMarks_succ optional array text with same | ⟨rest, shorter, -⟩
    · exact same 0
    · omega
  | succ fuel ih =>
    rcases withoutMarks_succ optional array text with same | ⟨rest, shorter, next⟩
    · rw [same, same]
    · rw [next, next, ih (by omega)]

theorem withoutMarks_of_le (enough : text.length ≤ fuel) :
    withoutMarks optional array fuel text = withoutMarks optional array text.length text := by
  induction fuel, enough using Nat.le_induction with
  | base => rfl
  | succ fuel enough ih => rw [withoutMarks_add_one enough, ih]

/-- Removing an optional mark first makes no difference, also when an array mark is removed in the same round. -/
theorem withoutMarks_optional (nonempty : optional ≠ []) (apart : ∀ c ∈ optional.getLast?, c ∉ array.getLast?)
    (trimmed : trimChars isBlank text = text) (blanks : ∀ c ∈ gap, isBlank c = true) (enough : text.length < fuel) :
    withoutMarks optional array (fuel + 1) (text ++ (gap ++ optional)) = withoutMarks optional array fuel text := by
  rw [withoutMarks, withoutSuffix?_append nonempty trimmed blanks, Option.getD_some]
  cases second : withoutSuffix? array text with
  | none => rfl
  | some rest =>
    -- both marks go in one round; without the first, the round that removes the second leads to the same text
    obtain ⟨fuel, rfl⟩ := Nat.exists_eq_succ_of_ne_zero (Nat.ne_zero_of_lt enough)
    have shorter := length_withoutSuffix? second
    have first : withoutSuffix? optional text = none :=
      withoutSuffix?_eq_none fun c last => getLast?_of_withoutSuffix? second ▸ apart c last
    show withoutMarks optional array (fuel + 1) rest = _
    rw [withoutMarks_add_one (by omega), withoutMarks, first, Option.getD_none, second]
    rfl

theorem withoutMarks_array (nonempty : array ≠ []) (apart : ∀ c ∈ optional.getLast?, c ∉ array.getLast?)
    (trimmed : trimChars isBlank text = text) (blanks : ∀ c ∈ gap, isBlank c = true) :
    withoutMarks optional array (fuel + 1) (text ++ (gap ++ array)) = withoutMarks optional array fuel text := by
  have first : withoutSuffix? optional (text ++ (gap ++ array)) = none := by
    refine withoutSuffix?_eq_none fun c last => ?_
    rw [← List.append_assoc, List.getLast?_append_of_ne_nil _ nonempty]
    exact apart c last
  rw [withoutMarks, first, Option.getD_none, withoutSuffix?_append nonempty trimmed blanks]
  rfl

end

section

variable {table : TypeTable} {opening closing : Char} {text : List Char}

theorem unmarked_append {mark gap : List Char}
    (among : mark = table.optionalSuffix.toList ∨ mark = table.arraySuffix.toList) (nonempty : mark ≠ [])
    (apart : ∀ c ∈ table.optionalSuffix.toList.getLast?, c ∉ table.arraySuffix.toList.getLast?)
    (trimmed : trimChars isBlank text = text) (blanks : ∀ c ∈ gap, isBlank c = true) :
    table.unmarked (text ++ (gap ++ mark)) = table.unmarked text := by
  have longer : text.length < (text ++ (gap ++ mark)).length := by
    have some := List.length_pos_of_ne_nil nonempty
    rw [List.length_append, List.length_append]
    omega
  have same : table.unmarked (text ++ (gap ++ mark)) = withoutMarks table.optionalSuffix.toList
      table.arraySuffix.toList (text ++ (gap ++ mark)).length text := by
    rcases among with rfl | rfl
    · exact withoutMarks_optional nonempty apart trimmed blanks longer
    · exact withoutMarks_array nonempty apart trimmed blanks
  rw [same, withoutMarks_of_le longer.le, unmarked, withoutMarks_add_one (Nat.le_refl _)]

theorem unmarked_eq_self {c : Char} (last : text.getLast? = some c)
    (optional : c ∉ table.optionalSuffix.toList.getLast?) (array : c ∉ table.arraySuffix.toList.getLast?) :
    table.unmarked text = text := by
  have none : ∀ mark : List Char, c ∉ mark.getLast? → withoutSuffix? mark text = none := fun mark other =>
    withoutSuffix?_eq_none fun d final last' => other (Option.some.inj (last.symm.trans last') ▸ final)
  rw [unmarked, withoutMarks, none _ optional, Option.getD_none, none _ array]
  rfl

/-- The last closing bracket encloses the arguments of what stands before the first opening one. -/
theorem generic?_enclosed {front inside behind : List Char} (opens : table.genericOpen.toList = [opening])
    (closes : table.genericClose.toList = [closing]) (nonempty : front ≠ []) (absent : opening ∉ front)
    (absent' : closing ∉ behind) :
    table.generic? (front ++ opening :: (inside ++ closing :: behind)) =
      some (trimChars isBlank front, splitTopLevel [[',']] inside) := by
  obtain ⟨n, long⟩ := Nat.exists_eq_succ_of_ne_zero (List.length_pos_of_ne_nil nonempty).ne'
  have last : findLast? [closing] (front ++ opening :: (inside ++ closing :: behind)) =
      some (front ++ opening :: inside).length := by
    rw [← List.cons_append, ← List.append_assoc]
    exact findLast?_last absent'
  have taken : (front ++ opening :: inside).length = n + 2 + inside.length := by
    rw [List.length_append, List.length_cons, long]
    omega
  rw [generic?, opens, closes, find?_first absent, last, taken, long]
  dsimp only
  have ahead : (front ++ [opening]).length = n + 2 := by rw [List.length_append, long, List.length_singleton]
  have regrouped : front ++ opening :: (inside ++ closing :: behind) =
      front ++ [opening] ++ (inside ++ closing :: behind) := by simp
  have outer : (front ++ opening :: (inside ++ closing :: behind)).take (n + 1) = front :=
    List.take_left' long
  have inner : ((front ++ opening :: (inside ++ closing :: behind)).take (n + 2 + inside.length)).drop (n + 2) =
      inside := by
    rw [regrouped, ← ahead, List.drop_take, List.drop_left, Nat.add_sub_cancel_left, List.take_left]
  rw [if_neg (by omega), outer, inner]

theorem generic?_eq_none (opens : table.genericOpen.toList = [opening]) (absent : opening ∉ text) :
    table.generic? text = none := by
  rw [generic?, opens, find?_eq_none absent]

end

end CodeGraph.TypeTable
