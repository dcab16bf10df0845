import CodeGraph.Proofs.TypeExpr.Meaning

namespace CodeGraph.TypeTable

open Text TypeExpr

section

variable {table : TypeTable} {levels more : Nat} {written text : List Char}

/-- The texts that the name of an annotation may be read from: the members of a union or an intersection, or the
arguments of a generic. -/
def pieces (table : TypeTable) (written : List Char) : List (List Char) :=
  match table.unquoted? (trimChars isBlank written) with
  | none => []
  | some text =>
    if isNameless text then []
    else if 1 < (table.members text).length then table.members text
    else if 1 < (table.parts text).length then table.parts text
    else (table.generic? (table.unmarked text)).elim [] Prod.snd

/-- Whether unions, intersections and generics stand in each other at most so many levels deep, in any text. -/
def nestsWithin (table : TypeTable) : Nat → List Char → Bool
  | 0, written => (table.pieces written).isEmpty
  | levels + 1, written => (table.pieces written).all (table.nestsWithin levels)

theorem nameWithin_literal (literal : table.unquoted? (trimChars isBlank written) = none) :
    table.nameWithin levels written = none := by
  cases levels with
  | zero => rfl
  | succ levels => rw [nameWithin, literal]; rfl

theorem nameWithin_nameless (unquoted : table.unquoted? (trimChars isBlank written) = some text)
    (nameless : isNameless text = true) : table.nameWithin levels written = none := by
  cases levels with
  | zero => rfl
  | succ levels =>
    rw [nameWithin, unquoted]
    exact if_pos nameless

theorem nameWithin_marks (unquoted : table.unquoted? (trimChars isBlank written) = some text)
    (named : isNameless text = false) (single : ¬ 1 < (table.members text).length)
    (single' : ¬ 1 < (table.parts text).length) (bare : table.unmarked text = []) :
    table.nameWithin (levels + 1) written = none := by
  rw [nameWithin, unquoted]
  show (if isNameless text then none else _) = _
  rw [named]
  refine (if_neg single).trans ((if_neg single').trans ?_)
  show (if (table.unmarked text).isEmpty then none else _) = _
  rw [bare]
  rfl

/-- A name is read alike at two levels if it is read alike from all the pieces. -/
theorem nameWithin_succ_congr
    (same : ∀ piece ∈ table.pieces written, table.nameWithin levels piece = table.nameWithin more piece) :
    table.nameWithin (levels + 1) written = table.nameWithin (more + 1) written := by
  have found : ∀ keep : List Char → Bool, ((table.pieces written).find? keep).bind (table.nameWithin levels) =
      ((table.pieces written).find? keep).bind (table.nameWithin more) :=
    fun keep => Option.bind_congr fun text first => same text (List.mem_of_find?_eq_some first)
  have first : (table.pieces written).head?.bind (table.nameWithin levels) =
      (table.pieces written).head?.bind (table.nameWithin more) :=
    Option.bind_congr fun text first => same text (List.mem_of_head? first)
  cases unquoted : table.unquoted? (trimChars isBlank written) with
  | none => rw [nameWithin_literal unquoted, nameWithin_literal unquoted]
  | some text =>
    simp only [pieces, unquoted] at found first
    cases named : isNameless text with
    | true => rw [nameWithin_nameless unquoted named, nameWithin_nameless unquoted named]
    | false =>
      rw [named, if_neg Bool.false_ne_true] at found first
      by_cases several : 1 < (table.members text).length
      · rw [nameWithin_union unquoted named several, nameWithin_union unquoted named several]
        rw [if_pos several] at found
        exact found _
      rw [if_neg several] at found first
      by_cases several' : 1 < (table.parts text).length
      · rw [nameWithin_intersection unquoted named several several',
          nameWithin_intersection unquoted named several several']
        rwa [if_pos several'] at first
      rw [if_neg several'] at found first
      by_cases bare : table.unmarked text = []
      · have none : ∀ levels, table.nameWithin (levels + 1) written = none :=
          fun _ => nameWithin_marks unquoted named several several' bare
        rw [none, none]
      rw [nameWithin_part unquoted named several several' bare, nameWithin_part unquoted named several several' bare]
      cases generic : table.generic? (table.unmarked text) with
      | none => rfl
      | some taken =>
        rw [generic] at found first
        exact ite_congr rfl (fun _ => found _) fun _ => ite_congr rfl (fun _ => first) fun _ => rfl

/-- With more levels than there are to read, the name is the same. -/
theorem nameWithin_of_nestsWithin (nests : table.nestsWithin levels written = true) (enough : levels ≤ more) :
    table.nameWithin (more + 1) written = table.nameWithin (levels + 1) written := by
  induction levels generalizing written more with
  | zero =>
    have none : table.pieces written = [] := List.isEmpty_iff.mp nests
    exact nameWithin_succ_congr (by rw [none]; nofun)
  | succ levels ih =>
    obtain ⟨more, rfl⟩ := Nat.exists_eq_add_of_le' (Nat.le_trans (Nat.le_add_left 1 _) enough)
    exact nameWithin_succ_congr fun piece among =>
      ih (List.all_eq_true.mp nests piece among) (Nat.le_of_succ_le_succ enough)

theorem nestsWithin_succ (each : ∀ piece ∈ table.pieces written, table.nestsWithin levels piece = true) :
    table.nestsWithin (levels + 1) written = true :=
  List.all_eq_true.mpr each

theorem nestsWithin_of_pieces_eq_nil (none : table.pieces written = []) : table.nestsWithin levels written = true := by
  cases levels with
  | zero => exact List.isEmpty_iff.mpr none
  | succ levels => exact nestsWithin_succ (by rw [none]; nofun)

theorem nestsWithin_congr {other : List Char} (same : table.pieces written = table.pieces other) :
    table.nestsWithin levels written = table.nestsWithin levels other := by
  cases levels <;> rw [nestsWithin, nestsWithin, same]

section

variable {opening closing : Char} {grade : Grade} {e : Expr} (punctuated : table.Punctuated opening closing)
include punctuated

theorem Spells.pieces_eq (spells : table.Spells grade e text) :
    table.pieces text = if 1 < (table.members text).length then table.members text
      else if 1 < (table.parts text).length then table.parts text
      else (table.generic? (table.unmarked text)).elim [] Prod.snd := by
  rw [pieces, spells.trimmed punctuated, spells.unquoted]
  dsimp only
  rw [spells.isNameless punctuated, if_neg Bool.false_ne_true]

theorem Spells.pieces_member (spells : table.Spells grade e text) (foreign : '|' ∉ grade.joints) :
    table.pieces text = if 1 < (table.parts text).length then table.parts text
      else (table.generic? (table.unmarked text)).elim [] Prod.snd := by
  rw [spells.pieces_eq punctuated, spells.members_eq_self punctuated foreign]
  exact if_neg (Nat.lt_irrefl 1)

theorem Spells.pieces_part (spells : table.Spells .part e text) :
    table.pieces text = (table.generic? (table.unmarked text)).elim [] Prod.snd := by
  rw [spells.pieces_member punctuated (by decide), spells.parts_eq_self punctuated]
  exact if_neg (Nat.lt_irrefl 1)

/-- The text of an expression has no more levels than the expression. -/
theorem Spells.nestsWithin (spells : table.Spells grade e text) (enough : e.levels ≤ levels) :
    table.nestsWithin levels text = true := by
  induction spells generalizing levels with
  | @name grade word name =>
    have spells : table.Spells .part (.name word) word := .name name
    have whole : table.generic? word = none :=
      generic?_eq_none punctuated.opens fun member =>
        IsPlain.not_special (.inl (name.chars _ member)) punctuated.opening_special
    refine nestsWithin_of_pieces_eq_nil ?_
    rw [spells.pieces_part punctuated, punctuated.unmarked_name name, whole]
    rfl
  | @generic grade outer gap before inside after entries name bare bare' bare'' each links ih =>
    obtain ⟨levels, rfl⟩ := Nat.exists_eq_add_of_le' (Nat.le_trans (Nat.le_add_left 1 _) enough)
    have spells : table.Spells .part _ _ := .generic name bare bare' bare'' each links
    refine nestsWithin_succ fun piece among => ?_
    rw [spells.pieces_part punctuated, punctuated.generic_eq name bare bare' bare'' each links] at among
    obtain ⟨entry, member, rfl⟩ := List.mem_map.mp among
    exact ih entry member (levels_le_of_entry member (Nat.le_of_succ_le_succ enough))
  | @suffixed grade base text gap mark base' bare among ih =>
    have spells : table.Spells .part _ _ := .suffixed base' bare among
    have same : table.pieces (text ++ (gap ++ mark)) = table.pieces text := by
      rw [spells.pieces_part punctuated, base'.pieces_part punctuated,
        punctuated.unmarked_mark among (base'.trimmed punctuated) bare]
    rw [nestsWithin_congr same]
    exact ih enough
  | @intersection grade text entries loose among several each links ih =>
    obtain ⟨levels, rfl⟩ := Nat.exists_eq_add_of_le' (Nat.le_trans (Nat.le_add_left 1 _) enough)
    have spells : table.Spells .member _ _ := .intersection nofun among several each links
    have parts : table.parts text = entries.map Prod.snd := punctuated.parts_links among each links
    refine nestsWithin_succ fun piece listed => ?_
    rw [spells.pieces_member punctuated (by decide), parts, if_pos (by rwa [List.length_map])] at listed
    obtain ⟨entry, member, rfl⟩ := List.mem_map.mp listed
    exact ih entry member (levels_le_of_entry member (Nat.le_of_succ_le_succ enough))
  | @union text entries several each links ih =>
    obtain ⟨levels, rfl⟩ := Nat.exists_eq_add_of_le' (Nat.le_trans (Nat.le_add_left 1 _) enough)
    have spells : table.Spells .whole _ _ := .union several each links
    have members : table.members text = entries.map Prod.snd :=
      punctuated.members_eq.trans (splitTopLevel_links punctuated (by decide) each (by decide) links)
    refine nestsWithin_succ fun piece listed => ?_
    rw [spells.pieces_eq punctuated, members, if_pos (by rwa [List.length_map])] at listed
    obtain ⟨entry, member, rfl⟩ := List.mem_map.mp listed
    exact ih entry member (levels_le_of_entry member (Nat.le_of_succ_le_succ enough))

end

end

section

variable {c : Char} {levels : Nat} {text rest : List Char}

theorem starters_special : ['\'', '"', '(', '\x7b'] ⊆ specials := by
  decide

/-- What starts with a quote, a parenthesis or a brace has no name. -/
theorem nameWithin_typescript_cons (start : c ∈ ['\'', '"', '(', '\x7b']) :
    typescript.nameWithin levels (c :: rest) = none := by
  have bare : isBlank c = false := (of_special c (starters_special start)).2.1
  obtain ⟨more, trimmed⟩ := exists_trimChars_cons bare rest
  by_cases quote : isQuote c = true
  · refine nameWithin_literal ?_
    rw [trimmed]
    exact if_pos (by rwa [List.head?_cons, Option.any_some])
  · have unquoted : typescript.unquoted? (trimChars isBlank (c :: rest)) = some (c :: more) := by
      rw [trimmed]
      exact if_neg (by rwa [List.head?_cons, Option.any_some])
    refine nameWithin_nameless unquoted ?_
    simp only [isQuote, Bool.or_eq_true, beq_iff_eq, not_or] at quote
    simp only [List.mem_cons, quote, List.not_mem_nil, false_or, or_false] at start
    rcases start with rfl | rfl <;> simp [isNameless]

/-- With any other start, only an arrow takes the name away before members are looked for. -/
theorem typescript_cons (rest : List Char) (start : c ∉ ['\'', '"', '(', '\x7b']) :
    typescript.unquoted? (c :: rest) = some (c :: rest) ∧
      isNameless (c :: rest) = (find? ['=', '>'] (c :: rest)).isSome := by
  simp only [List.mem_cons, List.not_mem_nil, or_false, not_or] at start
  obtain ⟨single, double, parenthesis, brace⟩ := start
  constructor
  · exact if_neg (by simp [isQuote, single, double])
  · simp [isNameless, parenthesis, brace]

theorem contains_arrow (written : String) :
    contains written "=>" = (find? ['=', '>'] (trimChars isBlank written.toList)).isSome := by
  have kept : ∀ c ∈ ['=', '>'], isBlank c = false := List.forall_mem_cons.mpr ⟨rfl, List.forall_mem_singleton.mpr rfl⟩
  rw [Bool.eq_iff_iff, contains, isSome_find?_iff, isSome_find?_iff]
  exact (infix_trimChars_iff (List.cons_ne_nil _ _) kept).symm

/-- The first member that is not null starts as the annotation does, where that start is not one of a name. -/
theorem nameWithin_first_member {first : List Char} (start : c ∈ ['\'', '"', '(', '\x7b'])
    (found : (splitTopLevel [['|']] (c :: rest)).find? (!typescript.isNull ·) = some first) :
    typescript.nameWithin levels first = none := by
  have special : c ∈ specials := starters_special start
  have bare : isBlank c = false := (of_special c special).2.1
  have other : c ≠ '|' := by rintro rfl; exact absurd start (by decide)
  obtain ⟨more, pieces, cut⟩ := splitTopLevel_cons bare other rest
  have null : typescript.isNull (c :: more) = false := by
    obtain ⟨kept, trimmed⟩ := exists_trimChars_cons bare more
    refine punctuated_typescript.isNull_eq_false special ?_
    rw [trimmed]
    exact List.mem_cons_self
  rw [cut, List.find?_cons, null] at found
  obtain rfl : c :: more = first := Option.some.inj found
  exact nameWithin_typescript_cons start

/-- A union stands for its first member that is not null, whatever the members are, if there is no arrow in any of them.
With an arrow anywhere it has no name, as if it was a function type. -/
theorem normalize_union {written : String} {first : List Char}
    (several : 2 ≤ (splitTopLevel [['|']] written.toList).length)
    (found : (splitTopLevel [['|']] written.toList).find? (!typescript.isNull ·) = some first)
    (shallow : typescript.nestsWithin 15 first = true) :
    typescript.normalize? written =
        (if contains written "=>" then none else typescript.normalize? (String.ofList first)) ∧
      (typescript.normalize? written = typescript.normalize? (String.ofList first) ↔
        (contains written "=>" = true → typescript.normalize? (String.ofList first) = none)) := by
  have same : typescript.normalize? written =
      if contains written "=>" then none else typescript.normalize? (String.ofList first) := by
    rw [← splitTopLevel_trimChars fun _ => stays_blank (by decide)] at several found
    rw [contains_arrow, normalize?, normalize?, String.toList_ofList,
      nameWithin_of_nestsWithin shallow (by decide : 15 ≤ nestingLimit),
      nameWithin_congr (trimChars_trimChars isBlank written.toList).symm]
    have trimmed := trimChars_trimChars isBlank written.toList
    generalize trimChars isBlank written.toList = text at several found trimmed
    cases text with
    | nil => exact absurd several (by decide)
    | cons c rest =>
      by_cases start : c ∈ ['\'', '"', '(', '\x7b']
      · rw [nameWithin_first_member start found, nameWithin_typescript_cons start]
        exact (ite_self none).symm
      · obtain ⟨whole, named⟩ := typescript_cons rest start
        have unquoted : typescript.unquoted? (trimChars isBlank (c :: rest)) = some (c :: rest) := by rwa [trimmed]
        cases arrow : (find? ['=', '>'] (c :: rest)).isSome with
        | true =>
          rw [nameWithin_nameless unquoted (named.trans arrow)]
          rfl
        | false =>
          rw [nameWithin_union unquoted (named.trans arrow) several]
          show Option.map _ ((List.find? _ (splitTopLevel [['|']] (c :: rest))).bind _) = _
          rw [found]
          rfl
  refine ⟨same, ?_⟩
  rw [same]
  split
  · rename_i arrow
    exact ⟨fun none _ => none.symm, fun none => (none arrow).symm⟩
  · rename_i arrow
    exact iff_of_true rfl fun found => absurd found arrow

/-- An arrow in a later member takes the name away. -/
theorem arrow_member_nameless :
    splitTopLevel [['|']] "Foo | (() => void)".toList = ["Foo".toList, "(() => void)".toList] ∧
      typescript.isNull "Foo".toList = false ∧ typescript.nestsWithin 15 "Foo".toList = true ∧
      typescript.normalize? "Foo" = some "Foo" ∧ typescript.normalize? "Foo | (() => void)" = none := by
  decide +kernel

theorem normalize_union_literals :
    let written := "undefined | Promise<Foo | Bar> | 'a' | \x7b b: C[] \x7d"
    let first := "Promise<Foo | Bar>"
    2 ≤ (splitTopLevel [['|']] written.toList).length ∧
      (splitTopLevel [['|']] written.toList).find? (!typescript.isNull ·) = some first.toList ∧
      typescript.nestsWithin 15 first.toList = true ∧ contains written "=>" = false ∧
      typescript.normalize? first = some "Foo" ∧ typescript.normalize? written = some "Foo" := by
  intro written first
  have several : 2 ≤ (splitTopLevel [['|']] written.toList).length := by decide +kernel
  have found : (splitTopLevel [['|']] written.toList).find? (!typescript.isNull ·) = some first.toList := by
    decide +kernel
  have shallow : typescript.nestsWithin 15 first.toList = true := by decide +kernel
  have arrowless : contains written "=>" = false := by decide +kernel
  have named : typescript.normalize? first = some "Foo" := by decide +kernel
  obtain ⟨law, -⟩ := normalize_union several found shallow
  rw [arrowless, if_neg Bool.false_ne_true, String.ofList_toList] at law
  exact ⟨several, found, shallow, arrowless, named, law.trans named⟩

end

end CodeGraph.TypeTable
