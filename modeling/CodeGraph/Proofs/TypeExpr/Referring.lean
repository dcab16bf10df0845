import CodeGraph.Proofs.Structure.Walking
import CodeGraph.Proofs.TypeExpr.Unions

namespace CodeGraph.TypeTable

open Text TypeExpr

section

variable {table : TypeTable} {levels fuel : Nat} {written text base piece name mark optional array outer : List Char}
  {arguments : List (List Char)}

/-- Where a name stands in an annotation, and what it cannot be. -/
structure Refers (table : TypeTable) (written name : List Char) : Prop where
  nonempty : name ≠ []
  within : name <:+: written
  trimmed : trimChars isBlank name = name
  notNull : table.isNull name = false
  notPrimitive : table.isPrimitive name = false
  arrowless : ¬ ['=', '>'] <:+: name
  start : ∀ c ∈ name.head?, c ≠ '(' ∧ c ≠ '\x7b'

/-- A start of a text that has no blanks at its ends. -/
structure Starts (text name : List Char) : Prop where
  isPrefix : name <+: text
  trimmed : trimChars isBlank name = name

theorem Starts.refl (trimmed : trimChars isBlank text = text) : Starts text text :=
  ⟨List.prefix_rfl, trimmed⟩

theorem Starts.trans (first : Starts text base) (second : Starts base name) : Starts text name :=
  ⟨second.isPrefix.trans first.isPrefix, second.trimmed⟩

theorem Starts.take (trimmed : trimChars isBlank text = text) (n : Nat) :
    Starts text (trimChars isBlank (text.take n)) where
  isPrefix := by
    refine (isPrefix_trimChars fun c first => ?_).trans (List.take_prefix n text)
    refine (trimChars_eq_self_iff.mp trimmed).1 c ?_
    cases n with
    | zero => nomatch first
    | succ n => rwa [List.head?_take, if_neg (Nat.succ_ne_zero n)] at first
  trimmed := trimChars_trimChars isBlank _

theorem Starts.withoutSuffix? (trimmed : trimChars isBlank text = text) (mark : List Char) :
    Starts text ((TypeTable.withoutSuffix? mark text).getD text) := by
  cases found : TypeTable.withoutSuffix? mark text with
  | none => exact .refl trimmed
  | some rest =>
    rw [Option.getD_some, (suffix_of_withoutSuffix? found).2.2]
    exact .take trimmed _

theorem Starts.withoutMarks (trimmed : trimChars isBlank text = text) :
    Starts text (TypeTable.withoutMarks optional array fuel text) := by
  induction fuel generalizing text with
  | zero => exact .refl trimmed
  | succ fuel ih =>
    rw [TypeTable.withoutMarks]
    split
    · have first := Starts.withoutSuffix? trimmed optional
      have second := Starts.withoutSuffix? first.trimmed array
      exact first.trans (second.trans (ih second.trimmed))
    · exact .refl trimmed

theorem Starts.unmarked (trimmed : trimChars isBlank text = text) : Starts text (table.unmarked text) :=
  .withoutMarks trimmed

/-- The name of a generic is a start of it, and its arguments stand in it. -/
theorem generic?_parts (found : table.generic? base = some (outer, arguments)) :
    (∃ n, outer = trimChars isBlank (base.take (n + 1))) ∧ ∀ argument ∈ arguments, argument <:+: base := by
  rw [generic?] at found
  split at found
  · rename_i start _
    obtain ⟨rfl, rfl⟩ := Prod.mk.inj (Option.some.inj found)
    refine ⟨⟨start, rfl⟩, fun argument among => (infix_of_mem_splitTopLevel among).trans ?_⟩
    exact (List.drop_suffix _ _).isInfix.trans (List.take_prefix _ _).isInfix
  · cases found

theorem isInfix_of_unquoted? (unquoted : table.unquoted? (trimChars isBlank written) = some text) :
    text <:+: written ∧ trimChars isBlank text = text := by
  have inside := isInfix_trimChars isBlank written
  rw [unquoted?] at unquoted
  split at unquoted
  · split at unquoted
    · cases unquoted
      refine ⟨(isInfix_trimChars isBlank _).trans ((isInfix_trimChars isQuote _).trans inside), ?_⟩
      exact trimChars_trimChars isBlank _
    · nomatch unquoted
  · cases unquoted
    exact ⟨inside, trimChars_trimChars isBlank written⟩

theorem infix_of_mem_pieces (member : piece ∈ table.pieces written) : piece <:+: written := by
  rw [pieces] at member
  split at member
  · cases member
  rename_i text unquoted
  obtain ⟨inside, trimmed⟩ := isInfix_of_unquoted? unquoted
  refine List.IsInfix.trans ?_ inside
  split at member
  · cases member
  split at member
  · exact infix_of_mem_splitTopLevel member
  split at member
  · exact infix_of_mem_splitTopLevel member
  cases generic : table.generic? (table.unmarked text) with
  | none => rw [generic] at member; cases member
  | some found =>
    rw [generic] at member
    exact ((generic?_parts generic).2 piece member).trans (Starts.unmarked trimmed).isPrefix.isInfix

theorem nameOf?_eq_some (found : table.nameOf? base = some name) :
    name = base ∧ table.isNull name = false ∧ table.isPrimitive name = false := by
  rw [nameOf?] at found
  split at found
  · nomatch found
  · rename_i other
    obtain rfl := Option.some.inj found
    simpa using other

/-- A name is read from a piece of an annotation, or is the start of the annotation itself. -/
theorem nameWithin_cases (found : table.nameWithin (levels + 1) written = some name) :
    (∃ piece ∈ table.pieces written, table.nameWithin levels piece = some name) ∨
      ∃ text, table.unquoted? (trimChars isBlank written) = some text ∧ isNameless text = false ∧
        Starts text name ∧ name ≠ [] ∧ table.isNull name = false ∧ table.isPrimitive name = false := by
  cases unquoted : table.unquoted? (trimChars isBlank written) with
  | none => rw [nameWithin_literal unquoted] at found; nomatch found
  | some text =>
    have trimmed := (isInfix_of_unquoted? unquoted).2
    have listed : table.pieces written = if isNameless text then []
        else if 1 < (table.members text).length then table.members text
        else if 1 < (table.parts text).length then table.parts text
        else (table.generic? (table.unmarked text)).elim [] Prod.snd := by
      simp only [pieces, unquoted]
    cases named : isNameless text with
    | true => rw [nameWithin_nameless unquoted named] at found; nomatch found
    | false =>
      rw [named, if_neg Bool.false_ne_true] at listed
      by_cases several : 1 < (table.members text).length
      · rw [nameWithin_union unquoted named several] at found
        obtain ⟨piece, first, read⟩ := Option.bind_eq_some_iff.mp found
        rw [listed, if_pos several]
        exact .inl ⟨piece, List.mem_of_find?_eq_some first, read⟩
      rw [if_neg several] at listed
      by_cases several' : 1 < (table.parts text).length
      · rw [nameWithin_intersection unquoted named several several'] at found
        obtain ⟨piece, first, read⟩ := Option.bind_eq_some_iff.mp found
        rw [listed, if_pos several']
        exact .inl ⟨piece, List.mem_of_head? first, read⟩
      rw [if_neg several'] at listed
      by_cases bare : table.unmarked text = []
      · rw [nameWithin_marks unquoted named several several' bare] at found
        nomatch found
      have base : Starts text (table.unmarked text) := .unmarked trimmed
      rw [nameWithin_part unquoted named several several' bare] at found
      cases generic : table.generic? (table.unmarked text) with
      | none =>
        rw [generic] at found
        obtain ⟨rfl, other⟩ := nameOf?_eq_some found
        exact .inr ⟨text, rfl, named, base, bare, other⟩
      | some parts =>
        obtain ⟨outer, arguments⟩ := parts
        rw [generic] at found listed
        dsimp only at found
        split at found
        · obtain ⟨piece, first, read⟩ := Option.bind_eq_some_iff.mp found
          exact .inl ⟨piece, listed ▸ List.mem_of_find?_eq_some first, read⟩
        split at found
        · obtain ⟨piece, first, read⟩ := Option.bind_eq_some_iff.mp found
          exact .inl ⟨piece, listed ▸ List.mem_of_head? first, read⟩
        obtain ⟨rfl, other⟩ := nameOf?_eq_some found
        obtain ⟨⟨n, rfl⟩, -⟩ := generic?_parts generic
        refine .inr ⟨text, rfl, named, base.trans (.take base.trimmed _), ?_, other⟩
        -- what stands before the bracket starts as the text does, with a character that is no blank
        obtain ⟨c, rest, start⟩ := List.exists_cons_of_ne_nil bare
        have kept : isBlank c = false := (trimChars_eq_self_iff.mp base.trimmed).1 c (by rw [start]; rfl)
        obtain ⟨more, cons⟩ := exists_trimChars_cons kept (rest.take n)
        rw [start, List.take_succ_cons, cons]
        exact List.cons_ne_nil c more

theorem of_isNameless_eq_false (named : isNameless text = false) :
    ¬ ['=', '>'] <:+: text ∧ ∀ c ∈ text.head?, c ≠ '(' ∧ c ≠ '\x7b' := by
  simp only [isNameless, Bool.or_eq_false_iff] at named
  obtain ⟨⟨-, arrowless⟩, start⟩ := named
  refine ⟨fun arrow => Bool.false_ne_true (arrowless.symm.trans (isSome_find?_iff.mpr arrow)), fun c first => ?_⟩
  simpa [Option.mem_def.mp first] using start

theorem Refers.of_starts (unquoted : table.unquoted? (trimChars isBlank written) = some text)
    (named : isNameless text = false) (starts : Starts text name) (nonempty : name ≠ [])
    (notNull : table.isNull name = false) (notPrimitive : table.isPrimitive name = false) :
    Refers table written name where
  nonempty := nonempty
  within := starts.isPrefix.isInfix.trans (isInfix_of_unquoted? unquoted).1
  trimmed := starts.trimmed
  notNull := notNull
  notPrimitive := notPrimitive
  arrowless arrow := (of_isNameless_eq_false named).1 (arrow.trans starts.isPrefix.isInfix)
  start c first := by
    refine (of_isNameless_eq_false named).2 c ?_
    obtain ⟨behind, rfl⟩ := starts.isPrefix
    rw [List.head?_append, Option.mem_def.mp first]
    rfl

theorem Refers.mono (refers : Refers table piece name) (inside : piece <:+: written) : Refers table written name :=
  { refers with within := refers.within.trans inside }

/-- However many unions, intersections and generics the name is read through, it keeps what one level gives it. -/
theorem nameWithin_refers (found : table.nameWithin levels written = some name) : Refers table written name := by
  induction levels generalizing written with
  | zero => nomatch found
  | succ levels ih =>
    rcases nameWithin_cases found with ⟨piece, among, read⟩ | ⟨text, unquoted, named, starts, nonempty, other⟩
    · exact (ih read).mono (infix_of_mem_pieces among)
    · exact .of_starts unquoted named starts nonempty other.1 other.2

theorem normalize?_refers {written name : String} (found : table.normalize? written = some name) :
    Refers table written.toList name.toList := by
  obtain ⟨chars, read, rfl⟩ := Option.map_eq_some_iff.mp found
  rw [String.toList_ofList]
  exact nameWithin_refers read

end

end CodeGraph.TypeTable

namespace CodeGraph.Structure

open Text TypeTable

section

variable {table : TypeTable} {edge : ExtractedRelationship} {result : ParseResult}

theorem exists_of_mem_extract {data : Json} (among : edge ∈ extract table data) :
    ∃ result, edge ∈ relationships table result := by
  rw [extract] at among
  split at among
  · exact ⟨_, among⟩
  · nomatch among

theorem exists_refers_of_mem_usedTypes {symbol : Symbol} {target : String} (used : target ∈ usedTypes table symbol) :
    ∃ written, table.Refers written target.toList := by
  rw [usedTypes] at used
  split at used
  · obtain ⟨written?, -, read⟩ := List.mem_filterMap.mp used
    obtain ⟨written, -, read⟩ := Option.bind_eq_some_iff.mp read
    exact ⟨written.toList, normalize?_refers read⟩
  · cases used

/-- An edge to a used type leads to the name that some annotation refers to. -/
theorem exists_refers (among : edge ∈ relationships table result) (used : edge.type = .usesType) :
    ∃ written, table.Refers written edge.target.toList := by
  have kept : edge ∈ ofKinds [.usesType] (relationships table result) :=
    List.mem_filter.mpr ⟨among, decide_eq_true (List.mem_singleton.mpr used)⟩
  rw [ofKinds_usesType, typeUsage_eq] at kept
  split at kept
  · obtain ⟨symbol, -, given⟩ := List.mem_flatMap.mp kept
    obtain ⟨target, named, rfl⟩ := List.mem_map.mp given
    exact exists_refers_of_mem_usedTypes named
  · nomatch kept

theorem allBlank_eq_false {name : String} (nonempty : name.toList ≠ [])
    (trimmed : trimChars isBlank name.toList = name.toList) : allBlank name = false := by
  obtain ⟨c, rest, start⟩ := List.exists_cons_of_ne_nil nonempty
  have bare : isBlank c = false := (trimChars_eq_self_iff.mp trimmed).1 c (by rw [start]; rfl)
  rw [allBlank, start, List.all_cons, bare, Bool.false_and]

end

/-- In every language the name read from an annotation is a piece of it without blanks around it, no primitive or null
name and no part of a function or object type. So no edge to a used type leads to a blank, primitive or null name. -/
theorem used_types_refer (table : TypeTable) :
    (∀ written name : String, table.normalize? written = some name → table.Refers written.toList name.toList) ∧
    ∀ edge : ExtractedRelationship,
      (∃ result, edge ∈ relationships table result) ∨ (∃ data, edge ∈ extract table data) → edge.type = .usesType →
        allBlank edge.target = false ∧ table.isPrimitive edge.target.toList = false ∧
          table.isNull edge.target.toList = false := by
  refine ⟨fun _ _ => normalize?_refers, fun edge among used => ?_⟩
  obtain ⟨result, listed⟩ : ∃ result, edge ∈ relationships table result :=
    among.elim id fun ⟨_, extracted⟩ => exists_of_mem_extract extracted
  obtain ⟨written, refers⟩ := exists_refers listed used
  exact ⟨allBlank_eq_false refers.nonempty refers.trimmed, refers.notPrimitive, refers.notNull⟩

/-- A function with an array of generics in its result. -/
def promising : Symbol := { type := "function", name := "f", returnType := some "Promise< Foo<Bar>[] | null >" }

theorem used_types_refer_promising :
    typescript.normalize? "Promise< Foo<Bar>[] | null >" = some "Foo" ∧
      usage promising "Foo" ∈ relationships typescript { symbols := [promising] } ∧
      typescript.Refers "Promise< Foo<Bar>[] | null >".toList "Foo".toList ∧ allBlank "Foo" = false := by
  have named : typescript.normalize? "Promise< Foo<Bar>[] | null >" = some "Foo" := by decide +kernel
  have listed : usage promising "Foo" ∈ relationships typescript { symbols := [promising] } := by
    rw [relationships_eq, typeUsage_eq]
    refine List.mem_append_right _ (List.mem_flatMap.mpr ⟨promising, List.mem_cons_self, List.mem_map_of_mem ?_⟩)
    rw [usedTypes, if_pos (by decide)]
    exact List.mem_filterMap.mpr ⟨promising.returnType, List.mem_singleton_self _, named⟩
  obtain ⟨refers, targets⟩ := used_types_refer typescript
  exact ⟨named, listed, refers _ _ named, (targets _ (.inl ⟨_, listed⟩) rfl).1⟩

end CodeGraph.Structure
