import CodeGraph.Text.Lines
import Mathlib.Data.List.Basic

namespace CodeGraph.Text

variable {current front rest text line : List Char} {after : Bool} {c : Char}

/-- Whether a line feed starts a text decides if it matters that a carriage return came before. -/
theorem linesFrom_after (apart : text.head? ≠ some '\n') : linesFrom [] after text = linesFrom [] false text := by
  cases text with
  | nil => rfl
  | cons d text =>
    have other : (d == '\n') = false := beq_eq_false_iff_ne.mpr fun same => apart (congrArg some same)
    rw [linesFrom, linesFrom, other, Bool.and_false, Bool.and_false]

/-- A text breaks at a line end, unless that is a carriage return with a line feed after it. -/
theorem linesFrom_break (ends : isLineEnd c = true) (apart : c = '\x0d' → rest.head? ≠ some '\n') :
    linesFrom current after (front ++ c :: rest) =
      linesFrom current after (front ++ [c]) ++ linesFrom [] false rest := by
  induction front generalizing current after with
  | nil =>
    have fresh : linesFrom [] (c == '\x0d') rest = linesFrom [] false rest := by
      by_cases back : c = '\x0d'
      · exact linesFrom_after (apart back)
      · rw [beq_eq_false_iff_ne.mpr back]
    rw [List.nil_append, List.nil_append, linesFrom, linesFrom]
    split
    · rfl
    · rw [fresh]
      rfl
  | cons d front ih =>
    rw [List.cons_append, List.cons_append, linesFrom, linesFrom]
    split
    · exact ih
    · split
      · rw [ih, List.cons_append]
      · exact ih

/-- A line feed at the end of a text ends its last line, or is an empty line of its own. -/
theorem linesFrom_concat_feed (fresh : after = true → current = []) :
    linesFrom current after (front ++ ['\n']) = linesFrom current after front ∨
      linesFrom current after (front ++ ['\n']) = linesFrom current after front ++ [[]] := by
  induction front generalizing current after with
  | nil =>
    cases current with
    | nil => cases after <;> decide
    | cons d current =>
      cases after with
      | false => exact .inl rfl
      | true => nomatch fresh rfl
  | cons d front ih =>
    rw [List.cons_append, linesFrom, linesFrom]
    split
    · exact ih nofun
    · split
      · exact (ih fun _ => rfl).imp (congrArg _) (congrArg _)
      · exact ih nofun

/-- What holds no line end goes on with the current line. -/
theorem linesFrom_append (whole : ∀ d ∈ text, isLineEnd d = false) (some : text ≠ []) :
    linesFrom current after (text ++ rest) = linesFrom (text.reverse ++ current) false rest := by
  induction text generalizing current after with
  | nil => exact absurd rfl some
  | cons d text ih =>
    obtain ⟨inner, later⟩ := List.forall_mem_cons.mp whole
    have other : d ≠ '\n' := by rintro rfl; nomatch inner
    have next : linesFrom current after (d :: (text ++ rest)) = linesFrom (d :: current) false (text ++ rest) := by
      rw [linesFrom, if_neg (by simp [other]), if_neg (by simp [inner])]
    rw [List.cons_append, next]
    cases text with
    | nil => rfl
    | cons e text => rw [ih later (List.cons_ne_nil e text), List.reverse_cons (a := d), List.append_assoc,
        List.singleton_append]

theorem linesFrom_whole (whole : ∀ d ∈ text, isLineEnd d = false) (some : text ≠ []) :
    linesFrom [] after text = [text] := by
  have all := @linesFrom_append [] [] text after whole some
  rw [List.append_nil, List.append_nil] at all
  rw [all, linesFrom, if_neg (by simpa using some), List.reverse_reverse]

/-- There is no line end in a line. -/
theorem whole_of_mem_linesFrom (whole : ∀ d ∈ current, isLineEnd d = false)
    (member : line ∈ linesFrom current after text) : ∀ d ∈ line, isLineEnd d = false := by
  induction text generalizing current after with
  | nil =>
    rw [linesFrom] at member
    split at member
    · nomatch member
    · rw [List.mem_singleton.mp member]
      exact fun d among => whole d (List.mem_reverse.mp among)
  | cons e text ih =>
    rw [linesFrom] at member
    split at member
    · exact ih (List.forall_mem_nil _) member
    · split at member
      · rcases List.mem_cons.mp member with rfl | later
        · exact fun d among => whole d (List.mem_reverse.mp among)
        · exact ih (List.forall_mem_nil _) later
      · rename_i inner
        exact ih (List.forall_mem_cons.mpr ⟨Bool.eq_false_iff.mpr inner, whole⟩) member

/-- The characters of a line come from the text. The first line also has those that it began with. -/
theorem subset_of_mem_linesFrom (member : line ∈ linesFrom current after text) :
    (∃ more ⊆ text, line = current.reverse ++ more) ∨ line ⊆ text := by
  induction text generalizing current after with
  | nil =>
    rw [linesFrom] at member
    split at member
    · nomatch member
    · exact .inl ⟨[], List.Subset.refl _, by rw [List.mem_singleton.mp member, List.append_nil]⟩
  | cons e text ih =>
    have later : ∀ {after}, line ∈ linesFrom [] after text → line ⊆ e :: text := by
      intro after among
      rcases ih among with ⟨more, within, rfl⟩ | within
      · exact List.subset_cons_of_subset e within
      · exact List.subset_cons_of_subset e within
    rw [linesFrom] at member
    split at member
    · exact .inr (later member)
    · split at member
      · rcases List.mem_cons.mp member with rfl | among
        · exact .inl ⟨[], List.nil_subset _, (List.append_nil _).symm⟩
        · exact .inr (later among)
      · rcases ih member with ⟨more, within, rfl⟩ | within
        · refine .inl ⟨e :: more, List.cons_subset_cons e within, ?_⟩
          rw [List.reverse_cons, List.append_assoc, List.singleton_append]
        · exact .inr (List.subset_cons_of_subset e within)

/-- Line ends without a carriage return are left as they are. -/
theorem unifyLineEnds_of_notMem (absent : '\x0d' ∉ text) : unifyLineEnds text = text := by
  fun_induction unifyLineEnds text with
  | case1 | case2 => simp at absent
  | case3 c rest _ _ ih => rw [ih fun among => absent (List.mem_cons_of_mem c among)]
  | case4 => rfl

end CodeGraph.Text
