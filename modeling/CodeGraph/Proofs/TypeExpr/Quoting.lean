import CodeGraph.Proofs.TypeExpr.Fitting

namespace CodeGraph

open Text

namespace TypeExpr

open TypeTable (python punctuated_python isQuote)

variable {grade innerGrade : Grade} {context : Context} {e : Expr} {c mark : Char} {levels : Nat}
variable {text ahead behind outer gap inside : List Char} {texts : List (List Char)}

/-- The first text that is not skipped, among the texts of expressions and another one that is skipped only if the
expression in its place would be. -/
theorem firstMeaning_around {passedOver leftOut : Expr → Bool} {front back : List (Expr × List Char)}
    {skipped : List Char → Bool} {read : List Char → Option (List Char)}
    (same : ∀ entry ∈ front ++ back, skipped entry.2 = leftOut entry.1)
    (reads : ∀ entry ∈ front ++ back, read entry.2 = python.meaning passedOver entry.1)
    (skips : skipped text = true → leftOut e = true) :
    ((front.map Prod.snd ++ text :: back.map Prod.snd).find? (!skipped ·)).bind read =
      if (front.map Prod.fst).all leftOut && !skipped text then read text
      else python.firstMeaning passedOver leftOut (front.map Prod.fst ++ e :: back.map Prod.fst) := by
  induction front with
  | nil =>
    rw [List.map_nil, List.map_nil, List.nil_append, List.nil_append, List.find?_cons, TypeTable.firstMeaning]
    cases skip : skipped text with
    | true =>
      rw [skips skip]
      exact TypeTable.firstMeaning_eq same reads
    | false => rfl
  | cons entry front ih =>
    obtain ⟨first, later⟩ := List.forall_mem_cons.mp same
    obtain ⟨means, rest⟩ := List.forall_mem_cons.mp reads
    rw [List.map_cons, List.map_cons, List.cons_append, List.cons_append, List.find?_cons, TypeTable.firstMeaning,
      List.all_cons, first]
    cases leftOut entry.1 with
    | true => exact ih later rest
    | false => exact means

theorem Surrounds.ends (surrounds : Surrounds grade context innerGrade ahead behind) (quote : isQuote mark = true)
    (tight : ∀ front inner back, context ≠ .member front inner back) :
    ∃ front c, c ∈ specials ∧ ahead ++ (mark :: (text ++ [mark]) ++ behind) = front ++ [c] := by
  cases surrounds with
  | gap => exact ⟨mark :: text, mark, TypeTable.isQuote_special quote, by simp⟩
  | @argument _ _ outer gap before after left right ahead behind =>
    let inside := left ++ (ahead ++ (mark :: (text ++ [mark]) ++ behind) ++ right)
    exact ⟨outer ++ gap ++ '[' :: (before ++ (inside ++ after)), ']', by decide, by rw [argument_text]; simp [inside]⟩
  | member => exact absurd rfl (tight _ _ _)

theorem Surrounds.not_member (surrounds : Surrounds .member context innerGrade ahead behind) :
    ∀ front inner back, context ≠ .member front inner back := by
  rintro front inner back rfl
  cases surrounds

theorem Surrounds.isNull_of_not_member (surrounds : Surrounds grade context innerGrade ahead behind)
    (part : python.Spells innerGrade e text) (quote : isQuote mark = true)
    (tight : ∀ front inner back, context ≠ .member front inner back) :
    python.isNull (ahead ++ (mark :: (text ++ [mark]) ++ behind)) = false := by
  have fits := surrounds.fits (.of_quote part quote)
  obtain ⟨front, c, special, same⟩ := surrounds.ends quote tight
  rw [same] at fits ⊢
  exact punctuated_python.isNull_concat fits.trimmed special

/-- With a quoted expression in the gap, a text passes for a null name if the filled expression does, unless it is
quoted as a whole. -/
theorem Surrounds.isNull_quoted (surrounds : Surrounds grade context innerGrade ahead behind)
    (part : python.Spells innerGrade e text) (quote : isQuote mark = true)
    (named : context ≠ .gap → python.isNullName e = false) :
    python.isNull (ahead ++ (mark :: (text ++ [mark]) ++ behind)) =
      (!context.isGap && python.readsNull (context.fill e)) := by
  have fits := surrounds.fits (.of_quote part quote)
  cases surrounds with
  | gap => exact Surrounds.gap.isNull_of_not_member part quote nofun
  | argument name bare bare' bare'' others leads trails within =>
    have surrounds : Surrounds grade _ innerGrade _ _ := .argument name bare bare' bare'' others leads trails within
    exact surrounds.isNull_of_not_member part quote nofun
  | @member _ left right ahead behind inner front back several others leads trails within =>
    have apart : python.isNullName e = false := named (Context.ne_gap rfl)
    let hole := ahead ++ (mark :: (text ++ [mark]) ++ behind)
    let entries := front ++ (inner.fill e, hole) :: back
    have links : Links '|' (entries.map Prod.snd) (left ++ (hole ++ right)) := by
      rw [List.map_append, List.map_cons]
      exact .around leads trails _
    have each : ∀ entry ∈ entries, python.Spells .member entry.1 entry.2 ∨
        python.isNullName entry.1 = false ∧ ∃ front c, c ∈ specials ∧ entry.2 = front ++ [c] :=
      forall_mem_around (fun entry among => .inl (others entry among))
        (.inr ⟨Context.isNullName_fill apart, within.ends quote within.not_member⟩)
    rw [member_text] at fits ⊢
    have null := punctuated_python.isNull_joined (two_le_length_around several _) each links fits.trimmed
    rw [List.map_append, List.map_cons] at null
    exact null

theorem isQuote_of_spells (spells : python.Spells grade e text) : ∀ c ∈ text, isQuote c = false := by
  refine fun c member => Bool.eq_false_iff.mpr fun quote => ?_
  exact spells.not_mem punctuated_python (of_quote quote).1 member

theorem Trails.no_quote (trails : Trails '|' texts text) (each : ∀ text ∈ texts, ∀ c ∈ text, isQuote c = false) :
    ∀ c ∈ text, isQuote c = false := by
  refine fun c member => Bool.eq_false_iff.mpr fun quote => ?_
  obtain ⟨foreign, blank, other, -⟩ := of_quote quote
  simp only [List.mem_cons, List.not_mem_nil, or_false, not_or] at other
  cases trails with
  | nil => nomatch member
  | cons before after bare bare' links =>
    have joined : c ∉ _ := links.not_mem (TypeTable.isQuote_special quote) other.2.1 fun text among member =>
      Bool.false_ne_true ((each text among c member).symm.trans quote)
    simp only [List.mem_append, List.mem_cons] at member
    rcases member with pad | same | pad | within
    · exact Bool.false_ne_true (blank.symm.trans (bare c pad))
    · exact other.2.1 same
    · exact Bool.false_ne_true (blank.symm.trans (bare' c pad))
    · exact joined within

/-- Quotes are taken from both ends of a text that starts with one. -/
theorem unquoted?_quote {closing : List Char} (quote : isQuote mark = true) (quotes : ∀ c ∈ closing, isQuote c = true)
    (bare : trimChars isQuote text = text) (trimmed : trimChars isBlank text = text) :
    python.unquoted? (mark :: (text ++ closing)) = some text := by
  have starts : (mark :: (text ++ closing)).head?.any isQuote = true := by rwa [List.head?_cons, Option.any_some]
  have inner : trimChars isQuote ([mark] ++ (text ++ closing)) = text :=
    trimChars_padded bare (List.forall_mem_singleton.mpr quote) quotes
  rw [List.singleton_append] at inner
  rw [TypeTable.unquoted?, if_pos starts, inner, trimmed]
  rfl

/-- A quoted annotation is read like the annotation. -/
theorem nameWithin_quote (spells : python.Spells grade e text) (quote : isQuote mark = true) :
    python.nameWithin levels (mark :: (text ++ [mark])) = python.nameWithin levels text := by
  have quoted : Fits grade (mark :: (text ++ [mark])) := .of_quote spells quote
  have trimmed := spells.trimmed punctuated_python
  have bare : trimChars isQuote text = text := trimChars_eq_self (isQuote_of_spells spells)
  have same : python.unquoted? (trimChars isBlank (mark :: (text ++ [mark]))) =
      python.unquoted? (trimChars isBlank text) := by
    rw [quoted.trimmed, trimmed, spells.unquoted,
      unquoted?_quote quote (List.forall_mem_singleton.mpr quote) bare trimmed]
  cases levels with
  | zero => rfl
  | succ levels => rw [TypeTable.nameWithin, TypeTable.nameWithin, same]

theorem python_letters : (python.primitives.all fun name =>
    (if python.caseSensitive then name.toList else lowerChars name.toList).all isNameChar) = true := by
  decide +kernel

/-- With a quote behind it, a name is taken for another name. -/
theorem nameWithin_name_concat {word : List Char} (name : IsName word) (quote : isQuote mark = true) :
    python.nameWithin (levels + 1) (word ++ [mark]) = some (word ++ [mark]) := by
  have spells : python.Spells .member (.name word) word := .name name
  have fits : Fits .member (word ++ [mark]) := (Fits.of_spells spells).concat quote
  have special := TypeTable.isQuote_special quote
  have whole : python.generic? (word ++ [mark]) = none := by
    refine TypeTable.generic?_eq_none punctuated_python.opens fun member => ?_
    rcases List.mem_append.mp member with letter | last
    · exact IsPlain.not_special (.inl (name.chars _ letter)) (by decide)
    · exact absurd (List.mem_singleton.mp last ▸ quote) (by decide)
  have undotted : '.' ∉ [mark] := fun member => (of_quote quote).2.2.2.2 (List.mem_singleton.mp member).symm
  have primitive : python.isPrimitive (word ++ [mark]) = false :=
    TypeTable.lists_eq_false python_letters special
      (TypeTable.mem_segment_of_suffix fits.trimmed (List.mem_singleton_self mark) undotted)
  rw [fits.nameWithin (TypeTable.starts_append (TypeTable.starts_name name) [mark]), whole]
  show (if python.isNull (word ++ [mark]) || python.isPrimitive (word ++ [mark]) then none else _) = _
  rw [punctuated_python.isNull_concat fits.trimmed special, primitive]
  rfl

/-- With a quote behind it, a generic is read as without it. -/
theorem nameWithin_generic_concat (spells : python.Spells .member e text) (unnamed : e.isName = false)
    (quote : isQuote mark = true) (enough : e.levels ≤ levels) :
    python.nameWithin (levels + 1) (text ++ [mark]) = python.meaning python.readsNull e := by
  have fits : Fits .member (text ++ [mark]) := (Fits.of_spells spells).concat quote
  have plain : Fits .member text := .of_spells spells
  rw [← spells.nameWithin_eq punctuated_python enough]
  cases spells with
  | name => nomatch unnamed
  | @generic _ outer gap before inside after entries name bare bare' bare'' each links =>
    have fit : ∀ text ∈ entries.map Prod.snd, Fits .whole text := fits_of_spells each
    have absent : ']' ∉ [mark] := fun member => absurd (List.mem_singleton.mp member ▸ quote) (by decide)
    have regrouped : outer ++ gap ++ '[' :: (before ++ (inside ++ after) ++ [']']) ++ [mark] =
        outer ++ gap ++ '[' :: (before ++ (inside ++ after) ++ ']' :: [mark]) := by simp
    rw [punctuated_python.generic_text] at fits plain ⊢
    rw [regrouped] at fits ⊢
    rw [fits.nameWithin_enclosed name bare absent links bare' bare'' fit,
      plain.nameWithin_enclosed name bare nofun links bare' bare'' fit]
  | suffixed _ _ among => nomatch among
  | intersection _ among => nomatch among

theorem nameWithin_concat (spells : python.Spells .member e text) (quote : isQuote mark = true)
    (enough : e.levels ≤ levels) :
    python.nameWithin (levels + 1) (text ++ [mark]) =
      if e.isName then some (text ++ [mark]) else python.meaning python.readsNull e := by
  cases unnamed : e.isName with
  | false => exact nameWithin_generic_concat spells unnamed quote enough
  | true =>
    cases spells with
    | name word => exact nameWithin_name_concat word quote
    | generic | suffixed | intersection => nomatch unnamed

/-- A union that starts with a quoted member loses the quote before it and keeps the one behind it. -/
theorem nameWithin_quoted_first {right : List Char} {back : List (Expr × List Char)}
    (part : python.Spells .member e text) (quote : isQuote mark = true) (several : back ≠ [])
    (others : ∀ entry ∈ back, python.Spells .member entry.1 entry.2) (trails : Trails '|' (back.map Prod.snd) right) :
    python.nameWithin (levels + 1) (mark :: (text ++ [mark]) ++ right) = python.nameWithin levels (text ++ [mark]) := by
  have concat : Fits .member (text ++ [mark]) := (Fits.of_spells part).concat quote
  have links : Links '|' ((text ++ [mark]) :: back.map Prod.snd) (text ++ [mark] ++ right) := .around .nil trails _
  have each : ∀ piece ∈ (text ++ [mark]) :: back.map Prod.snd, Fits .member piece :=
    List.forall_mem_cons.mpr ⟨concat, fits_of_spells others⟩
  have union : Fits .whole (text ++ [mark] ++ right) := links.fits each
  have starts := TypeTable.starts_append (TypeTable.starts_append part.starts [mark]) right
  have bare : trimChars isQuote (text ++ [mark] ++ right) = text ++ [mark] ++ right := by
    have behind : ∀ c ∈ right, isQuote c = false :=
      trails.no_quote (List.forall_mem_map.mpr fun entry among => isQuote_of_spells (others entry among))
    have some : right ≠ [] := trails.ne_nil (List.map_eq_nil_iff.not.mpr several)
    refine trimChars_eq_self_iff.mpr ⟨fun c first => ?_, fun c last => ?_⟩
    · obtain ⟨d, rest, same, letter⟩ := starts
      rw [same] at first
      refine Bool.eq_false_iff.mpr fun quote => IsPlain.not_special (.inl letter) ?_
      exact Option.some.inj first ▸ TypeTable.isQuote_special quote
    · rw [List.getLast?_append_of_ne_nil _ some] at last
      exact behind c (List.mem_of_getLast? last)
  have unquoted : python.unquoted? (trimChars isBlank (mark :: (text ++ [mark] ++ right))) =
      some (text ++ [mark] ++ right) := by
    have inner : python.unquoted? (mark :: (text ++ [mark] ++ right ++ [])) = some (text ++ [mark] ++ right) :=
      unquoted?_quote quote nofun bare union.trimmed
    rw [List.append_nil] at inner
    rw [(union.cons quote).trimmed, inner]
  have many : 2 ≤ ((text ++ [mark]) :: back.map Prod.snd).length := by
    have some := List.length_pos_of_ne_nil several
    rw [List.length_cons, List.length_map]
    omega
  rw [List.cons_append, links.nameWithin each many unquoted (TypeTable.isNameless_eq_false starts union.arrowless),
    List.find?_cons, punctuated_python.isNull_concat concat.trimmed (TypeTable.isQuote_special quote)]
  rfl

theorem nameWithin_others {front back : List (Expr × List Char)}
    (others : ∀ entry ∈ front ++ back, python.Spells grade entry.1 entry.2)
    (enough : mostLevels (front.map Prod.fst ++ e :: back.map Prod.fst) ≤ levels) :
    ∀ entry ∈ front ++ back, python.nameWithin (levels + 1) entry.2 = python.meaning python.readsNull entry.1 := by
  intro entry among
  have listed : entry.1 ∈ front.map Prod.fst ++ e :: back.map Prod.fst := by
    refine mem_around_of_mem ?_
    rw [← List.map_append]
    exact List.mem_map_of_mem among
  exact (others entry among).nameWithin_eq punctuated_python (Nat.le_trans (levels_le listed) enough)

/-- Unless its first member is quoted, a union starts with a name. -/
theorem Surrounds.starts_union {left : List Char} {front : List (Expr × List Char)}
    (surrounds : Surrounds .member context innerGrade ahead behind) (later : ¬ (context = .gap ∧ front = []))
    (others : ∀ entry ∈ front, python.Spells .member entry.1 entry.2) (leads : Leads '|' (front.map Prod.snd) left)
    (text right : List Char) :
    ∃ c rest, left ++ (ahead ++ (text ++ behind) ++ right) = c :: rest ∧ isNameChar c = true := by
  cases front with
  | cons entry front =>
    cases leads
    exact TypeTable.starts_append (TypeTable.starts_append (others entry List.mem_cons_self).starts _) _
  | nil =>
    cases leads
    cases surrounds with
    | gap => exact absurd ⟨rfl, rfl⟩ later
    | argument name =>
      have starts := TypeTable.starts_append (TypeTable.starts_name name)
      exact TypeTable.starts_append (TypeTable.starts_append (starts _) _) _

section

variable {inner : Context} {front back : List (Expr × List Char)} {left right : List Char} {answer : Option (List Char)}

/-- One level around an argument: its name is read on if it is the first argument that is not passed over, or the first
of all in another wrapper. -/
theorem nameWithin_argument {before after : List Char} (name : IsName outer) (bare : Blanks gap) (bare' : Blanks before)
    (bare'' : Blanks after) (others : ∀ entry ∈ front ++ back, python.Spells .whole entry.1 entry.2)
    (links : Links ',' (front.map Prod.snd ++ text :: back.map Prod.snd) inside) (fits : Fits .whole text)
    (enough : mostLevels (front.map Prod.fst ++ inner.fill e :: back.map Prod.fst) ≤ levels)
    (null : python.isNull text = (!inner.isGap && python.readsNull (inner.fill e)))
    (hole : python.nameWithin (levels + 1) text =
      if inner.reads e then answer else python.meaning python.readsNull (inner.fill e)) :
    python.nameWithin (levels + 1 + 1) (outer ++ gap ++ '[' :: (before ++ (inside ++ after) ++ [']'])) =
      if (Context.argument outer (front.map Prod.fst) inner (back.map Prod.fst)).reads e then answer
      else python.meaning python.readsNull
        (.generic outer (front.map Prod.fst ++ inner.fill e :: back.map Prod.fst)) := by
  have each := fits_around others fits
  obtain ⟨stays, arrowless⟩ := links.fits_inside bare' bare'' each
  have enclosed : Fits .member (outer ++ gap ++ '[' :: (before ++ (inside ++ after) ++ [']'])) :=
    .enclosed name bare stays arrowless
  have reads := nameWithin_others others enough
  have nulls : ∀ entry ∈ front ++ back, python.isNull entry.2 = python.readsNull entry.1 :=
    fun entry among => (others entry among).isNull punctuated_python
  rw [enclosed.nameWithin_enclosed name bare nofun links bare' bare'' each, Context.reads, TypeTable.meaning]
  by_cases wrapper : python.isUnionWrapper outer = true
  · have skips : python.isNull text = true → python.readsNull (inner.fill e) = true := fun skip => by
      rw [null, Bool.and_eq_true] at skip
      exact skip.2
    rw [if_pos wrapper, if_pos wrapper, if_pos wrapper, firstMeaning_around nulls reads skips, hole, null, Bool.not_and,
      Bool.not_not]
    cases chosen : (front.map Prod.fst).all python.readsNull && (inner.isGap || !python.readsNull (inner.fill e)) with
    | false => rw [Bool.and_false, if_neg Bool.false_ne_true, if_neg Bool.false_ne_true]
    | true =>
      rw [Bool.and_true, if_pos rfl]
      cases read : inner.reads e with
      | true => rfl
      | false =>
        rw [Bool.and_eq_true, Context.isGap_eq_false read, Bool.false_or, Bool.not_eq_true'] at chosen
        exact (TypeTable.firstMeaning_append chosen.1 chosen.2).symm
  rw [if_neg wrapper, if_neg wrapper, if_neg wrapper]
  by_cases transparent : python.isTransparent outer = true
  · rw [if_pos transparent, if_pos transparent, transparent, Bool.true_and]
    cases front with
    | nil =>
      refine hole.trans ?_
      rw [List.map_nil, List.isEmpty_nil, Bool.and_true, List.nil_append, TypeTable.firstMeaning,
        if_neg Bool.false_ne_true]
    | cons entry front =>
      refine (reads entry List.mem_cons_self).trans ?_
      rw [List.map_cons, List.isEmpty_cons, Bool.and_false, List.cons_append, TypeTable.firstMeaning,
        if_neg Bool.false_ne_true, if_neg Bool.false_ne_true]
  · rw [if_neg transparent, if_neg transparent, Bool.eq_false_iff.mpr transparent, Bool.false_and, Bool.and_false,
      if_neg Bool.false_ne_true]

/-- One level around a member: its name is read on if only null names stand before it. -/
theorem nameWithin_member (several : front ++ back ≠ [])
    (others : ∀ entry ∈ front ++ back, python.Spells .member entry.1 entry.2)
    (links : Links '|' (front.map Prod.snd ++ text :: back.map Prod.snd) inside) (fits : Fits .member text)
    (starts : ∃ c rest, inside = c :: rest ∧ isNameChar c = true)
    (enough : mostLevels (front.map Prod.fst ++ inner.fill e :: back.map Prod.fst) ≤ levels)
    (named : python.isNullName e = false) (null : python.isNull text = false)
    (hole : python.nameWithin (levels + 1) text =
      if inner.reads e then answer else python.meaning python.readsNull (inner.fill e)) :
    python.nameWithin (levels + 1 + 1) inside =
      if (Context.member (front.map Prod.fst) inner (back.map Prod.fst)).reads e then answer
      else python.meaning python.readsNull (.union (front.map Prod.fst ++ inner.fill e :: back.map Prod.fst)) := by
  have each := fits_around others fits
  have union := links.fits each
  have reads := nameWithin_others others enough
  have nulls : ∀ entry ∈ front ++ back, python.isNull entry.2 = python.isNullName entry.1 := fun entry among => by
    have member := others entry among
    refine member.isNull_of_ne_whole punctuated_python fun members same => ?_
    rw [same] at member
    nomatch member
  have some : front.map Prod.snd ++ back.map Prod.snd ≠ [] := by
    rw [← List.map_append]
    exact mt List.map_eq_nil_iff.mp several
  have skips : python.isNull text = true → python.isNullName (inner.fill e) = true := fun skip =>
    absurd (skip.symm.trans null) nofun
  have unquoted : python.unquoted? (trimChars isBlank inside) = Option.some inside := by
    rw [union.trimmed]
    exact TypeTable.unquoted?_eq_some starts
  rw [links.nameWithin each (two_le_length_around some _) unquoted
    (TypeTable.isNameless_eq_false starts union.arrowless), firstMeaning_around nulls reads skips, hole, null,
    Bool.not_false, Bool.and_true, Context.reads, TypeTable.meaning]
  cases skipped : (front.map Prod.fst).all python.isNullName with
  | false => rw [Bool.and_false, if_neg Bool.false_ne_true, if_neg Bool.false_ne_true]
  | true =>
    rw [Bool.and_true, if_pos rfl]
    cases read : inner.reads e with
    | true => rfl
    | false => exact (TypeTable.firstMeaning_append skipped (Context.isNullName_fill named)).symm

end

/-- What is read of a text with a quoted expression in it: if the expression is read, its own name, but with a quote
behind it if it is a name that stands first in a union; or else the name of the whole expression. -/
theorem Surrounds.nameWithin_quoted (surrounds : Surrounds grade context innerGrade ahead behind)
    (part : python.Spells innerGrade e text) (quote : isQuote mark = true)
    (named : context ≠ .gap → python.isNullName e = false) (enough : (context.fill e).levels ≤ levels) :
    python.nameWithin (levels + 1) (ahead ++ (mark :: (text ++ [mark]) ++ behind)) =
      if context.reads e then
        if context.startsUnion e then some (text ++ [mark]) else python.meaning python.readsNull e
      else python.meaning python.readsNull (context.fill e) := by
  have quoted : Fits innerGrade (mark :: (text ++ [mark])) := .of_quote part quote
  induction surrounds generalizing levels with
  | gap =>
    rw [List.nil_append, List.append_nil, nameWithin_quote part quote]
    exact part.nameWithin_eq punctuated_python enough
  | @argument grade innerGrade outer gap before after left right ahead behind inner front back name bare bare' bare''
      others leads trails within ih =>
    obtain ⟨levels, rfl⟩ := Nat.exists_eq_add_of_le' (Nat.le_trans (Nat.le_add_left 1 _) enough)
    have apart : python.isNullName e = false := named (Context.ne_gap rfl)
    have deep : mostLevels (front.map Prod.fst ++ inner.fill e :: back.map Prod.fst) ≤ levels :=
      Nat.le_of_succ_le_succ enough
    have hole := ih part (fun _ => apart) (Nat.le_trans (levels_le (List.mem_append_right _ List.mem_cons_self)) deep)
      quoted
    rw [argument_text]
    exact nameWithin_argument name bare bare' bare'' others (.around leads trails _) (within.fits quoted) deep
      (within.isNull_quoted part quote fun _ => apart) hole
  | @member innerGrade left right ahead behind inner front back several others leads trails within ih =>
    obtain ⟨levels, rfl⟩ := Nat.exists_eq_add_of_le' (Nat.le_trans (Nat.le_add_left 1 _) enough)
    have apart : python.isNullName e = false := named (Context.ne_gap rfl)
    have deep : mostLevels (front.map Prod.fst ++ inner.fill e :: back.map Prod.fst) ≤ levels :=
      Nat.le_of_succ_le_succ enough
    have shallow := Nat.le_trans (levels_le (List.mem_append_right _ List.mem_cons_self)) deep
    by_cases first : inner = .gap ∧ front = []
    · obtain ⟨rfl, rfl⟩ := first
      cases leads
      cases within
      have read : python.nameWithin (levels + 1 + 1) (mark :: (text ++ [mark]) ++ right) = _ :=
        nameWithin_quoted_first part quote several others trails
      rw [nameWithin_concat part quote shallow] at read
      rw [Context.startsUnion, Context.startsUnion, Bool.or_false]
      exact read
    · have starts := within.starts_union first (fun entry among => others entry (List.mem_append_left back among)) leads
        (mark :: (text ++ [mark])) right
      have later : (inner.isGap && (front.map Prod.fst).isEmpty && e.isName) = false := by
        cases inner with
        | gap =>
          have some : front ≠ [] := fun none => first ⟨rfl, none⟩
          simp [some]
        | argument | member => rfl
      rw [member_text, Context.startsUnion, later, Bool.false_or]
      exact nameWithin_member several others (.around leads trails _) (within.fits quoted) starts deep apart
        (within.isNull_of_not_member part quote within.not_member) (ih part (fun _ => apart) shallow quoted)

/-- An expression in quotes within an annotation. The name is the same as without the quotes, unless the quoted
expression is read and is either a name that stands first in a union or an argument of a union wrapper that passes for a
null name without its quotes. The first keeps the quote behind it, the second is read where it would be passed over. -/
theorem Surrounds.normalize_quoted (surrounds : Surrounds .whole context grade ahead behind)
    (part : python.Spells grade e text) (quote : isQuote mark = true)
    (named : context ≠ .gap → python.isNullName e = false)
    (shallow : (context.fill e).levels ≤ TypeTable.nestingLimit) :
    python.normalize? (String.ofList (ahead ++ (mark :: (text ++ [mark]) ++ behind))) =
        (if context.reads e then
          if context.startsUnion e then some (String.ofList (text ++ [mark]))
          else python.normalize? (String.ofList text)
        else python.normalize? (String.ofList (ahead ++ (text ++ behind)))) ∧
      ((context.reads e = true → context.startsUnion e = false ∧ context.passesForNull e = false) →
        python.normalize? (String.ofList (ahead ++ (mark :: (text ++ [mark]) ++ behind))) =
          python.normalize? (String.ofList (ahead ++ (text ++ behind)))) := by
  have whole : python.normalize? (String.ofList (ahead ++ (text ++ behind))) =
      (python.meaning python.readsNull (context.fill e)).map String.ofList := by
    rw [TypeTable.normalize?, String.toList_ofList, (surrounds.spells part).nameWithin_eq punctuated_python shallow]
  have alone : python.normalize? (String.ofList text) = (python.meaning python.readsNull e).map String.ofList := by
    rw [TypeTable.normalize?, String.toList_ofList,
      part.nameWithin_eq punctuated_python (Nat.le_trans (context.levels_le_fill e) shallow)]
  have read : python.normalize? (String.ofList (ahead ++ (mark :: (text ++ [mark]) ++ behind))) =
      if context.reads e then
        if context.startsUnion e then some (String.ofList (text ++ [mark]))
        else python.normalize? (String.ofList text)
      else python.normalize? (String.ofList (ahead ++ (text ++ behind))) := by
    rw [TypeTable.normalize?, String.toList_ofList, surrounds.nameWithin_quoted part quote named shallow, whole, alone]
    split
    · split <;> rfl
    · rfl
  refine ⟨read, fun kept => ?_⟩
  rw [read]
  split
  · rename_i reads
    obtain ⟨later, visible⟩ := kept reads
    rw [later, if_neg Bool.false_ne_true, alone, whole, Context.meaning_fill reads visible named]
  · rfl

/-- Quotes hide the null name at the end of a union from a union wrapper. -/
example : python.normalize? "Optional[Foo | types.NoneType]" = none ∧
    python.normalize? "Optional['Foo | types.NoneType']" = some "Foo" := by
  decide +kernel

theorem surrounds_or_none {inner : Context} (within : Surrounds .member inner innerGrade ahead behind) :
    Surrounds .whole (.member [] inner [.name "None".toList]) innerGrade ahead (behind ++ " | None".toList) := by
  have none : IsName "None".toList := by decide
  have blank : Blanks [' '] := List.forall_mem_singleton.mpr rfl
  let back : List (Expr × List Char) := [(.name "None".toList, "None".toList)]
  have others : ∀ entry ∈ [] ++ back, python.Spells .member entry.1 entry.2 :=
    List.forall_mem_singleton.mpr (.name none)
  exact @Surrounds.member innerGrade [] " | None".toList ahead behind inner [] back (List.cons_ne_nil _ _) others .nil
    (.cons [' '] [' '] blank blank (.single "None".toList)) within

theorem surrounds_only_argument {outer : List Char} {inner : Context} (name : IsName outer)
    (within : Surrounds .whole inner innerGrade ahead behind) :
    Surrounds grade (.argument outer [] inner []) innerGrade (outer ++ '[' :: ahead) (behind ++ [']']) :=
  @Surrounds.argument grade innerGrade outer [] [] [] [] [] ahead behind inner [] [] name nofun nofun nofun nofun .nil
    .nil within

/-- A quoted name at the start of a union keeps one of its quotes. -/
theorem quoted_first_member :
    ∃ context, Surrounds .whole context .member [] " | None".toList ∧
      python.Spells .member (.name "Foo".toList) "Foo".toList ∧ python.isNullName (.name "Foo".toList) = false ∧
      (context.fill (.name "Foo".toList)).levels ≤ TypeTable.nestingLimit ∧
      python.normalize? "Foo | None" = some "Foo" ∧ python.normalize? "'Foo' | None" = some "Foo'" := by
  have foo : IsName "Foo".toList := by decide
  exact ⟨_, surrounds_or_none .gap, .name foo, by decide +kernel, by decide +kernel, by decide +kernel,
    by decide +kernel⟩

/-- Quotes within the arguments of a union's first member make no difference. -/
theorem normalize_quoted_argument :
    ∃ context, Surrounds .whole context .whole "Optional[List[".toList "] | None]".toList ∧
      python.Spells .whole (.name "a.User".toList) "a.User".toList ∧
      python.isNullName (.name "a.User".toList) = false ∧
      (context.fill (.name "a.User".toList)).levels ≤ TypeTable.nestingLimit ∧
      context.reads (.name "a.User".toList) = true ∧ context.startsUnion (.name "a.User".toList) = false ∧
      context.passesForNull (.name "a.User".toList) = false ∧
      python.normalize? "Optional[List[a.User] | None]" = some "a.User" ∧
      python.normalize? "Optional[List['a.User'] | None]" = some "a.User" := by
  have optional : IsName "Optional".toList := by decide
  have list : IsName "List".toList := by decide
  have user : IsName "a.User".toList := by decide
  have surrounds : Surrounds .whole _ .whole "Optional[List[".toList "] | None]".toList :=
    surrounds_only_argument optional (surrounds_or_none (surrounds_only_argument list .gap))
  have named : python.isNullName (.name "a.User".toList) = false := by decide +kernel
  have plain : python.normalize? "Optional[List[a.User] | None]" = some "a.User" := by decide +kernel
  have quote : isQuote '\'' = true := by decide
  obtain ⟨-, law⟩ := surrounds.normalize_quoted (.name user) quote (fun _ => named) (by decide +kernel)
  exact ⟨_, surrounds, .name user, named, by decide +kernel, by decide +kernel, by decide +kernel, by decide +kernel,
    plain, (law fun _ => by decide +kernel).trans plain⟩

end TypeExpr

end CodeGraph
