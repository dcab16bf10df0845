import CodeGraph.Text.Search
import CodeGraph.Proofs.Text.Trimming
import Mathlib.Data.List.TakeWhile

namespace CodeGraph.Text

variable {c : Char} {front rest piece text : List Char}

theorem find?_eq_none (absent : c ∉ text) : find? (c :: piece) text = none := by
  induction text with
  | nil => rfl
  | cons d text ih =>
    rw [List.mem_cons, not_or] at absent
    rw [find?, if_neg (by simp [absent.1]), ih absent.2]
    rfl

theorem find?_first (absent : c ∉ front) : find? [c] (front ++ c :: rest) = some front.length := by
  induction front with
  | nil => simp [find?]
  | cons d front ih =>
    rw [List.mem_cons, not_or] at absent
    rw [List.cons_append, find?, if_neg (by simp [absent.1]), ih absent.2]
    rfl

theorem isSome_find?_iff : (find? piece text).isSome = true ↔ piece <:+: text := by
  induction text with
  | nil => cases piece <;> simp [find?]
  | cons c text ih =>
    rw [find?, List.infix_cons_iff, ← ih]
    split
    · rename_i start
      exact iff_of_true rfl (.inl (List.isPrefixOf_iff_prefix.mp start))
    · rename_i start
      rw [Option.isSome_map]
      exact ⟨.inr, fun found => found.resolve_left fun starts => start (List.isPrefixOf_iff_prefix.mpr starts)⟩

theorem infix_of_infix_append {α : Type} {front rest piece : List α} (some : piece ≠ [])
    (absent : ∀ c ∈ front, c ∉ piece) (among : piece <:+: front ++ rest) : piece <:+: rest := by
  induction front with
  | nil => exact among
  | cons d front ih =>
    obtain ⟨here, later⟩ := List.forall_mem_cons.mp absent
    rcases List.infix_cons_iff.mp among with start | within
    · obtain ⟨c, more, rfl⟩ := List.exists_cons_of_ne_nil some
      exact absurd ((List.cons_prefix_cons.mp start).1 ▸ List.mem_cons_self) here
    · exact ih later within

/-- What holds none of a separator stands on one side of it. -/
theorem infix_separated_iff {α : Type} {front separator rest piece : List α} (some : piece ≠ [])
    (parted : separator ≠ []) (absent : ∀ c ∈ separator, c ∉ piece) :
    piece <:+: front ++ (separator ++ rest) ↔ piece <:+: front ∨ piece <:+: rest := by
  rw [List.infix_append_iff_ne_nil]
  constructor
  · rintro (before | after | ⟨start, stop, -, someStop, rfl, -, ahead⟩)
    · exact .inl before
    · exact .inr (infix_of_infix_append some absent after)
    · obtain ⟨c, more, rfl⟩ := List.exists_cons_of_ne_nil parted
      obtain ⟨d, others, rfl⟩ := List.exists_cons_of_ne_nil someStop
      obtain ⟨rfl, -⟩ := List.cons_prefix_cons.mp ahead
      exact absurd (List.mem_append_right start List.mem_cons_self) (absent d List.mem_cons_self)
  · rintro (before | after)
    · exact .inl before
    · exact .inr (.inl (List.infix_append_of_infix_right after))

/-- Trimming does not take away what holds none of the dropped characters. -/
theorem infix_trimChars_iff {p : Char → Bool} (some : piece ≠ []) (kept : ∀ c ∈ piece, p c = false) :
    piece <:+: trimChars p text ↔ piece <:+: text := by
  have apart : ∀ pad : List Char, (∀ c ∈ pad, p c = true) → ∀ c ∈ pad, c ∉ piece := fun pad dropped c member among =>
    Bool.false_ne_true ((kept c among).symm.trans (dropped c member))
  refine ⟨fun among => among.trans (isInfix_trimChars p text), fun among => ?_⟩
  obtain ⟨ahead, behind, dropped, dropped', same⟩ := exists_padding p text
  rw [same] at among
  have start := infix_of_infix_append some (apart ahead dropped) among
  -- the end is the start of the reversed text
  rw [← List.reverse_infix, List.reverse_append] at start
  have absent : ∀ c ∈ behind.reverse, c ∉ piece.reverse := fun c member other =>
    apart behind dropped' c (List.mem_reverse.mp member) (List.mem_reverse.mp other)
  exact List.reverse_infix.mp (infix_of_infix_append (List.reverse_ne_nil_iff.mpr some) absent start)

theorem findLast?_eq_none (absent : c ∉ text) : findLast? (c :: piece) text = none := by
  induction text with
  | nil => rfl
  | cons d text ih =>
    rw [List.mem_cons, not_or] at absent
    rw [findLast?, ih absent.2, if_neg (by simp [absent.1])]

theorem findLast?_last (absent : c ∉ rest) : findLast? [c] (front ++ c :: rest) = some front.length := by
  induction front with
  | nil =>
    rw [List.nil_append, findLast?, findLast?_eq_none absent]
    simp
  | cons d front ih => rw [List.cons_append, findLast?, ih, List.length_cons]

/-- What stands at the end of a text without the character also follows its last occurrence. -/
theorem suffix_afterLast (absent : c ∉ rest) : rest <:+ afterLast c (front ++ rest) := by
  have kept : ∀ d ∈ rest.reverse, (d != c) = true := fun d member =>
    bne_iff_ne.mpr fun same => absent (same ▸ List.mem_reverse.mp member)
  rw [afterLast, List.reverse_append, List.takeWhile_append_of_pos kept, List.reverse_append, List.reverse_reverse]
  exact List.suffix_append _ _

theorem afterLast_append (member : c ∈ rest) : afterLast c (front ++ rest) = afterLast c rest := by
  rw [afterLast, afterLast, List.reverse_append, List.takeWhile_append, if_neg]
  intro whole
  have kept := List.takeWhile_eq_self_iff.mp ((List.takeWhile_prefix _).eq_of_length whole)
  simpa using kept c (List.mem_reverse.mpr member)

end CodeGraph.Text
