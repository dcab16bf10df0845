import CodeGraph.Text.Blank
import Mathlib.Data.List.DropRight

namespace CodeGraph.Text

theorem dropRightWhile_eq (p : Char → Bool) (chars : List Char) :
    dropRightWhile p chars = chars.rdropWhile p :=
  rfl

/-- Dropping characters at the end does not bring a droppable one to the start. -/
theorem dropWhile_dropRightWhile {p q : Char → Bool} (implies : ∀ c, p c = true → q c = true)
    (chars : List Char) :
    (dropRightWhile q (chars.dropWhile q)).dropWhile p = dropRightWhile q (chars.dropWhile q) := by
  obtain ⟨dropped, whole⟩ := List.rdropWhile_prefix q (chars.dropWhile q)
  rw [← dropRightWhile_eq] at whole
  cases kept : dropRightWhile q (chars.dropWhile q) with
  | nil => rfl
  | cons c rest =>
    have first := List.head?_dropWhile_not q chars
    rw [← whole, kept, List.cons_append, List.head?_cons] at first
    exact List.dropWhile_cons_of_neg fun drop => by simp [implies c drop] at first

theorem trimChars_trimChars_of_imp {p q : Char → Bool} (implies : ∀ c, p c = true → q c = true)
    (chars : List Char) : trimChars p (trimChars q chars) = trimChars q chars := by
  unfold trimChars
  rw [dropWhile_dropRightWhile implies, dropRightWhile_eq, dropRightWhile_eq,
    List.rdropWhile_eq_self_iff]
  exact fun some drop => List.rdropWhile_last_not q _ some (implies _ drop)

theorem trimChars_trimChars (p : Char → Bool) (chars : List Char) :
    trimChars p (trimChars p chars) = trimChars p chars :=
  trimChars_trimChars_of_imp (fun _ drop => drop) chars

theorem trimWhiteSpace_trimWhiteSpace (s : String) :
    trimWhiteSpace (trimWhiteSpace s) = trimWhiteSpace s := by
  simp only [trimWhiteSpace, String.toList_ofList, trimChars_trimChars]

theorem trim_trim (s : String) : trim (trim s) = trim s := by
  simp only [trim, String.toList_ofList, trimChars_trimChars]

theorem trimWhiteSpace_trim (s : String) : trimWhiteSpace (trim s) = trim s := by
  simp only [trim, trimWhiteSpace, String.toList_ofList,
    trimChars_trimChars_of_imp fun _ => isBlank_of_isWhiteSpace]

theorem dropWhile_eq_self {p : Char → Bool} {chars : List Char} (first : ∀ c ∈ chars.head?, p c = false) :
    chars.dropWhile p = chars := by
  cases chars with
  | nil => rfl
  | cons c rest => exact List.dropWhile_cons_of_neg (by simp [first c rfl])

theorem trimChars_eq_self {p : Char → Bool} {chars : List Char} (none : ∀ c ∈ chars, p c = false) :
    trimChars p chars = chars := by
  have start : chars.dropWhile p = chars := dropWhile_eq_self fun c first => none c (List.mem_of_head? first)
  unfold trimChars
  rw [start, dropRightWhile_eq, List.rdropWhile_eq_self_iff]
  exact fun some => by simp [none _ (List.getLast_mem some)]

/-- A text stays the same when it is trimmed if and only if nothing is to be dropped at its ends. -/
theorem trimChars_eq_self_iff {p : Char → Bool} {chars : List Char} :
    trimChars p chars = chars ↔
      (∀ c ∈ chars.head?, p c = false) ∧ ∀ c ∈ chars.getLast?, p c = false := by
  constructor
  · intro same
    have start : chars.dropWhile p = chars := by
      refine (List.dropWhile_sublist p).eq_of_length_le ?_
      have short := (List.rdropWhile_prefix p (chars.dropWhile p)).length_le
      rw [← dropRightWhile_eq] at short
      exact (congrArg List.length same).symm.le.trans short
    have stop : chars.rdropWhile p = chars := by
      rwa [trimChars, start, dropRightWhile_eq] at same
    constructor
    · intro c first
      have kept := List.head?_dropWhile_not p chars
      rw [start, Option.mem_def.mp first] at kept
      simpa using kept
    · intro c last
      obtain ⟨some, rfl⟩ := List.mem_getLast?_eq_getLast last
      simpa using List.rdropWhile_eq_self_iff.mp stop some
  · rintro ⟨first, last⟩
    rw [trimChars, dropWhile_eq_self first, dropRightWhile_eq, List.rdropWhile_eq_self_iff]
    exact fun some => by simp [last _ (List.getLast?_eq_some_getLast some)]

theorem trimChars_cons {p : Char → Bool} {c : Char} {chars : List Char} (kept : p c = false)
    (trimmed : trimChars p chars = chars) : trimChars p (c :: chars) = c :: chars := by
  rw [trimChars_eq_self_iff] at trimmed ⊢
  refine ⟨fun d first => Option.some.inj first ▸ kept, fun d last => ?_⟩
  rw [List.getLast?_cons, Option.mem_some] at last
  cases final : chars.getLast? with
  | none => rwa [← last, final]
  | some e => exact trimmed.2 d (by rw [← last, final]; rfl)

theorem trimChars_concat {p : Char → Bool} {c : Char} {chars : List Char} (kept : p c = false)
    (trimmed : trimChars p chars = chars) : trimChars p (chars ++ [c]) = chars ++ [c] := by
  rw [trimChars_eq_self_iff] at trimmed ⊢
  refine ⟨fun d first => ?_, fun d last => ?_⟩
  · cases chars with
    | nil => exact Option.some.inj first ▸ kept
    | cons e rest => exact trimmed.1 d first
  · rw [List.getLast?_concat] at last
    exact Option.some.inj last ▸ kept

/-- What is to be dropped around a trimmed text is all that trimming takes away. -/
theorem trimChars_padded {p : Char → Bool} {ahead text behind : List Char} (trimmed : trimChars p text = text)
    (before : ∀ c ∈ ahead, p c = true) (after : ∀ c ∈ behind, p c = true) :
    trimChars p (ahead ++ (text ++ behind)) = text := by
  rw [trimChars, List.dropWhile_append_of_pos before, List.dropWhile_append]
  split
  · rename_i gone
    have empty : text.dropWhile p = [] := List.isEmpty_iff.mp gone
    rw [List.dropWhile_eq_nil_iff.mpr after]
    rwa [trimChars, empty] at trimmed
  · have reversed : ∀ c ∈ behind.reverse, p c = true := fun c member => after c (List.mem_reverse.mp member)
    rw [dropRightWhile, List.reverse_append, List.dropWhile_append_of_pos reversed]
    exact trimmed

theorem trimChars_append {p : Char → Bool} {text behind : List Char} (trimmed : trimChars p text = text)
    (after : ∀ c ∈ behind, p c = true) : trimChars p (text ++ behind) = text :=
  @trimChars_padded p [] text behind trimmed nofun after

/-- A text is what trimming leaves of it, between what is dropped. -/
theorem exists_padding (p : Char → Bool) (chars : List Char) :
    ∃ ahead behind, (∀ c ∈ ahead, p c = true) ∧ (∀ c ∈ behind, p c = true) ∧
      chars = ahead ++ (trimChars p chars ++ behind) := by
  refine ⟨chars.takeWhile p, ((chars.dropWhile p).reverse.takeWhile p).reverse, ?_, ?_, ?_⟩
  · exact fun c member => List.mem_takeWhile_imp member
  · exact fun c member => List.mem_takeWhile_imp (List.mem_reverse.mp member)
  · rw [trimChars, dropRightWhile, ← List.reverse_append, List.takeWhile_append_dropWhile, List.reverse_reverse,
      List.takeWhile_append_dropWhile]

theorem trimChars_surrounded {p : Char → Bool} {ahead text behind : List Char} (before : ∀ c ∈ ahead, p c = true)
    (after : ∀ c ∈ behind, p c = true) : trimChars p (ahead ++ (text ++ behind)) = trimChars p text := by
  obtain ⟨first, last, dropped, dropped', same⟩ := exists_padding p text
  have regrouped : ahead ++ (text ++ behind) = ahead ++ first ++ (trimChars p text ++ (last ++ behind)) := by
    rw [List.append_assoc, ← List.append_assoc (trimChars p text), ← List.append_assoc first, ← same]
  rw [regrouped]
  refine trimChars_padded (trimChars_trimChars p text) (fun c member => ?_) fun c member => ?_
  · exact (List.mem_append.mp member).elim (before c) (dropped c)
  · exact (List.mem_append.mp member).elim (dropped' c) (after c)

theorem trimChars_sublist (p : Char → Bool) (chars : List Char) :
    (trimChars p chars).Sublist chars :=
  (List.rdropWhile_prefix p _).sublist.trans (List.dropWhile_sublist p)

theorem isInfix_trimChars (p : Char → Bool) (chars : List Char) : trimChars p chars <:+: chars :=
  (List.rdropWhile_prefix p _).isInfix.trans (List.dropWhile_suffix p).isInfix

theorem mem_dropWhile {p : Char → Bool} {chars : List Char} {c : Char} (member : c ∈ chars)
    (kept : p c = false) : c ∈ chars.dropWhile p := by
  rw [← List.takeWhile_append_dropWhile (p := p) (l := chars), List.mem_append] at member
  refine member.resolve_left fun dropped => ?_
  simp [List.all_eq_true.mp List.all_takeWhile c dropped] at kept

/-- Trimming keeps the characters that are not to be dropped. -/
theorem mem_trimChars {p : Char → Bool} {chars : List Char} {c : Char} (member : c ∈ chars)
    (kept : p c = false) : c ∈ trimChars p chars :=
  have start := List.mem_reverse.mpr (mem_dropWhile member kept)
  List.mem_reverse.mpr (mem_dropWhile start kept)

/-- Of a text that starts with a character to be kept, trimming leaves a start. -/
theorem isPrefix_trimChars {p : Char → Bool} {chars : List Char} (first : ∀ c ∈ chars.head?, p c = false) :
    trimChars p chars <+: chars := by
  rw [trimChars, dropWhile_eq_self first]
  exact List.rdropWhile_prefix p chars

/-- Trimming leaves a first character that is not to be dropped. -/
theorem exists_trimChars_cons {p : Char → Bool} {c : Char} (kept : p c = false) (chars : List Char) :
    ∃ more, trimChars p (c :: chars) = c :: more := by
  have first : c ∈ trimChars p (c :: chars) := mem_trimChars List.mem_cons_self kept
  obtain ⟨d, more, cons⟩ := List.exists_cons_of_ne_nil (List.ne_nil_of_mem first)
  have shorter : d :: more <+: c :: chars := cons ▸ isPrefix_trimChars fun e same => Option.some.inj same ▸ kept
  exact ⟨more, by rw [cons, (List.cons_prefix_cons.mp shorter).1]⟩

theorem trimWhiteSpace_eq_self {s : String} (none : ∀ c ∈ s.toList, isWhiteSpace c = false) :
    trimWhiteSpace s = s := by
  rw [trimWhiteSpace, trimChars_eq_self none, String.ofList_toList]

/-- Trimming makes a text shorter or leaves it as it is. -/
theorem trimWhiteSpace_eq_of_length {s : String}
    (long : s.toList.length ≤ (trimWhiteSpace s).toList.length) : trimWhiteSpace s = s := by
  rw [trimWhiteSpace, String.toList_ofList] at long
  rw [trimWhiteSpace, (trimChars_sublist _ _).eq_of_length_le long, String.ofList_toList]

end CodeGraph.Text
