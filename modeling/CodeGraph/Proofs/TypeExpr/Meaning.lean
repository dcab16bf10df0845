import CodeGraph.Proofs.TypeExpr.Reading
import CodeGraph.Proofs.TypeExpr.Spelling

namespace CodeGraph.TypeTable

open Text TypeExpr

variable {table : TypeTable} {opening closing : Char} {grade : Grade} {e : Expr} {text : List Char}

/-- What is passed over among the arguments of a union wrapper. -/
def readsNull (table : TypeTable) (e : Expr) : Bool :=
  table.isNullName e || table.endsInNull e

theorem isQuote_special {c : Char} (quote : isQuote c = true) : c ∈ specials := by
  simp only [isQuote, Bool.or_eq_true, beq_iff_eq] at quote
  rcases quote with rfl | rfl <;> decide

theorem unquoted?_eq_some (starts : ∃ c rest, text = c :: rest ∧ isNameChar c = true) :
    table.unquoted? text = some text := by
  obtain ⟨c, rest, rfl, letter⟩ := starts
  refine if_neg fun quote => ?_
  rw [List.head?_cons, Option.any_some] at quote
  exact IsPlain.not_special (.inl letter) (isQuote_special quote)

theorem isNameless_eq_false (starts : ∃ c rest, text = c :: rest ∧ isNameChar c = true) (arrowless : '=' ∉ text) :
    isNameless text = false := by
  obtain ⟨c, rest, rfl, letter⟩ := starts
  have apart : ∀ d ∈ specials, c ≠ d := fun d special => IsPlain.ne (.inl letter) special
  simp [isNameless, find?_eq_none arrowless, apart '(' (by decide), apart '\x7b' (by decide)]

/-- A spelled expression is not quoted. -/
theorem Spells.unquoted (spells : table.Spells grade e text) : table.unquoted? text = some text :=
  unquoted?_eq_some spells.starts

theorem Spells.isNameless (punctuated : table.Punctuated opening closing) (spells : table.Spells grade e text) :
    isNameless text = false :=
  isNameless_eq_false spells.starts (spells.not_mem punctuated (by decide))

theorem Punctuated.members_eq (punctuated : table.Punctuated opening closing) :
    table.members text = splitTopLevel [['|']] text := by
  rw [members, punctuated.unions]
  rfl

theorem splitTopLevel_spelled (punctuated : table.Punctuated opening closing) {separator : Char}
    (among : separator ∈ [',', '|', '&']) {entries : List (Expr × List Char)}
    (each : ∀ entry ∈ entries, table.Spells grade entry.1 entry.2) (foreign : separator ∉ grade.joints)
    (links : Links separator (entries.map Prod.snd) text) (ahead behind : List Char) (blank : Blanks ahead)
    (blank' : Blanks behind) :
    splitTopLevel [[separator]] (ahead ++ (text ++ behind)) = entries.map Prod.snd := by
  obtain ⟨-, opener, closer⟩ := of_separator separator among
  refine links.splitTopLevel opener closer (fun _ => stays_blank among) (fun text member => ?_) blank blank'
  obtain ⟨entry, listed, rfl⟩ := List.mem_map.mp member
  have spells := each entry listed
  exact ⟨spells.uncut punctuated among foreign, spells.trimmed punctuated, spells.ne_nil⟩

theorem splitTopLevel_links (punctuated : table.Punctuated opening closing) {separator : Char}
    (among : separator ∈ [',', '|', '&']) {entries : List (Expr × List Char)}
    (each : ∀ entry ∈ entries, table.Spells grade entry.1 entry.2) (foreign : separator ∉ grade.joints)
    (links : Links separator (entries.map Prod.snd) text) :
    splitTopLevel [[separator]] text = entries.map Prod.snd := by
  have cut := splitTopLevel_spelled punctuated among each foreign links [] [] nofun nofun
  rwa [List.nil_append, List.append_nil] at cut

/-- Without a separator of that kind outside its brackets, an expression is cut into itself. -/
theorem Spells.split_eq (punctuated : table.Punctuated opening closing) (spells : table.Spells grade e text)
    {separator : Char} (among : separator ∈ [',', '|', '&']) (foreign : separator ∉ grade.joints) :
    splitTopLevel [[separator]] text = [text] :=
  have each : ∀ entry ∈ [(e, text)], table.Spells grade entry.1 entry.2 := List.forall_mem_singleton.mpr spells
  splitTopLevel_links punctuated among each foreign (.single text)

theorem Punctuated.parts_eq (punctuated : table.Punctuated opening closing) {text : List Char}
    (cut : TypeExpr.splitTopLevel [['&']] text = [text]) (trimmed : trimChars isBlank text = text)
    (nonempty : text ≠ []) :
    table.parts text = [text] := by
  rcases punctuated.intersections with same | same
  · rw [parts, same]
    exact cut
  · rw [parts, same, List.map_nil, splitTopLevel_nil (trimmed.symm ▸ nonempty), trimmed]

theorem Spells.members_eq_self (punctuated : table.Punctuated opening closing) (spells : table.Spells grade e text)
    (foreign : '|' ∉ grade.joints) : table.members text = [text] :=
  punctuated.members_eq.trans (spells.split_eq punctuated (by decide) foreign)

theorem Spells.parts_eq_self (punctuated : table.Punctuated opening closing) (spells : table.Spells .part e text) :
    table.parts text = [text] :=
  punctuated.parts_eq (spells.split_eq punctuated (by decide) (by decide)) (spells.trimmed punctuated) spells.ne_nil

theorem Punctuated.parts_links (punctuated : table.Punctuated opening closing) {entries : List (Expr × List Char)}
    (among : "&" ∈ table.intersectionSeparators) (each : ∀ entry ∈ entries, table.Spells .part entry.1 entry.2)
    (links : Links '&' (entries.map Prod.snd) text) : table.parts text = entries.map Prod.snd := by
  rw [parts, punctuated.intersections.resolve_right fun none => by rw [none] at among; nomatch among]
  exact splitTopLevel_links punctuated (by decide) each (by decide) links

/-- The first text that is not passed over is read as the first expression that is not left out. -/
theorem firstMeaning_eq {passedOver leftOut : Expr → Bool} {entries : List (Expr × List Char)}
    {skipped : List Char → Bool} {read : List Char → Option (List Char)}
    (same : ∀ entry ∈ entries, skipped entry.2 = leftOut entry.1)
    (reads : ∀ entry ∈ entries, read entry.2 = table.meaning passedOver entry.1) :
    ((entries.map Prod.snd).find? (!skipped ·)).bind read =
      table.firstMeaning passedOver leftOut (entries.map Prod.fst) := by
  induction entries with
  | nil => rfl
  | cons entry entries ih =>
    obtain ⟨same, later⟩ := List.forall_mem_cons.mp same
    obtain ⟨reads, rest⟩ := List.forall_mem_cons.mp reads
    rw [List.map_cons, List.map_cons, firstMeaning, List.find?_cons, same]
    cases leftOut entry.1 with
    | true => exact ih later rest
    | false => exact reads

theorem firstMeaning_append {passedOver leftOut : Expr → Bool} {front back : List Expr}
    (skipped : front.all leftOut = true) (kept : leftOut e = false) :
    table.firstMeaning passedOver leftOut (front ++ e :: back) = table.meaning passedOver e := by
  induction front with
  | nil => rw [List.nil_append, firstMeaning, kept, if_neg Bool.false_ne_true]
  | cons first front ih =>
    rw [List.all_cons, Bool.and_eq_true] at skipped
    rw [List.cons_append, firstMeaning, skipped.1, if_pos rfl]
    exact ih skipped.2

theorem head?_meaning_eq {passedOver : Expr → Bool} {entries : List (Expr × List Char)}
    {read : List Char → Option (List Char)}
    (reads : ∀ entry ∈ entries, read entry.2 = table.meaning passedOver entry.1) :
    (entries.map Prod.snd).head?.bind read = table.firstMeaning passedOver (fun _ => false) (entries.map Prod.fst) := by
  cases entries with
  | nil => rfl
  | cons entry entries => exact reads entry List.mem_cons_self

section

variable (punctuated : table.Punctuated opening closing)
include punctuated

theorem Punctuated.marks_apart : ∀ c ∈ table.optionalSuffix.toList.getLast?, c ∉ table.arraySuffix.toList.getLast? := by
  rcases punctuated.optional with optional | optional <;> rcases punctuated.array with ⟨-, array⟩ | array <;>
    rw [optional, array] <;> simp

theorem Punctuated.unmarked_mark {mark gap : List Char} (among : mark ∈ table.marks)
    (trimmed : trimChars isBlank text = text) (blanks : Blanks gap) :
    table.unmarked (text ++ (gap ++ mark)) = table.unmarked text := by
  simp only [marks, List.mem_filter, List.mem_cons, List.not_mem_nil, or_false, Bool.not_eq_true',
    List.isEmpty_eq_false_iff] at among
  exact unmarked_append among.1 among.2 punctuated.marks_apart trimmed blanks

theorem Punctuated.unmarked_last {c : Char} (last : text.getLast? = some c)
    (other : isNameChar c = true ∨ c = closing) : table.unmarked text = text := by
  have apart : c ≠ '?' ∧ (table.arraySuffix = "[]" → c ≠ ']') := by
    rcases other with letter | rfl
    · exact ⟨IsPlain.ne (.inl letter) (by decide), fun _ => IsPlain.ne (.inl letter) (by decide)⟩
    · refine ⟨fun same => absurd (same ▸ punctuated.closer) (by decide), fun array => ?_⟩
      rcases punctuated.array with ⟨other, -⟩ | none
      · exact other
      · rw [array] at none
        nomatch none
  refine unmarked_eq_self last ?_ ?_
  · rcases punctuated.optional with optional | optional <;> rw [optional]
    · exact fun same => apart.1 (Option.some.inj same).symm
    · nofun
  · rcases punctuated.array with ⟨-, array⟩ | array <;> rw [array]
    · exact fun same => apart.2 array (Option.some.inj same).symm
    · nofun

theorem Punctuated.unmarked_name {word : List Char} (name : IsName word) : table.unmarked word = word :=
  punctuated.unmarked_last (List.getLast?_eq_some_getLast name.some) (.inl (name.chars _ (List.getLast_mem name.some)))

theorem Punctuated.unmarked_enclosed (front inside : List Char) :
    table.unmarked (front ++ opening :: (inside ++ [closing])) = front ++ opening :: (inside ++ [closing]) := by
  refine punctuated.unmarked_last (c := closing) ?_ (.inr rfl)
  rw [← List.cons_append, ← List.append_assoc, List.getLast?_concat]

theorem Spells.unmarked_ne_nil (spells : table.Spells .part e text) : table.unmarked text ≠ [] := by
  generalize bound : Grade.part = grade at spells
  induction spells with
  | name name =>
    rw [punctuated.unmarked_name name]
    exact name.some
  | generic =>
    rw [punctuated.generic_text, punctuated.unmarked_enclosed]
    exact List.append_ne_nil_of_right_ne_nil _ (List.cons_ne_nil _ _)
  | suffixed spells bare among ih =>
    rw [punctuated.unmarked_mark among (spells.trimmed punctuated) bare]
    exact ih rfl
  | intersection loose => exact absurd bound.symm loose
  | union => nomatch bound

theorem Punctuated.trimmed_name {word : List Char} (name : IsName word) : trimChars isBlank word = word :=
  have spells : table.Spells .part (.name word) word := .name name
  spells.trimmed punctuated

/-- A part is read from what stands before its marks. -/
theorem Spells.nameWithin_part (spells : table.Spells .part e text) (levels : Nat) :
    table.nameWithin (levels + 1) text =
      match table.generic? (table.unmarked text) with
      | some (outer, arguments) =>
        if table.isUnionWrapper outer then (arguments.find? (!table.isNull ·)).bind (table.nameWithin levels)
        else if table.isTransparent outer then arguments.head?.bind (table.nameWithin levels)
        else table.nameOf? outer
      | none => table.nameOf? (table.unmarked text) := by
  have trimmed := spells.trimmed punctuated
  have members := spells.members_eq_self punctuated (by decide)
  have parts := spells.parts_eq_self punctuated
  refine TypeTable.nameWithin_part (trimmed.symm ▸ spells.unquoted) (spells.isNameless punctuated) ?_ ?_
    (spells.unmarked_ne_nil punctuated)
  · rw [members, List.length_singleton]; exact Nat.lt_irrefl 1
  · rw [parts, List.length_singleton]; exact Nat.lt_irrefl 1

theorem Punctuated.opening_special : opening ∈ specials := by
  have opener := punctuated.opener
  simp only [isOpener, Bool.or_eq_true, beq_iff_eq] at opener
  rcases opener with ((rfl | rfl) | rfl) | rfl <;> decide

theorem Punctuated.opening_not_mem {word gap : List Char} (name : IsName word) (blanks : Blanks gap) :
    opening ∉ word ++ gap := by
  have special := punctuated.opening_special
  rw [List.mem_append, not_or]
  exact ⟨fun member => IsPlain.not_special (.inl (name.chars _ member)) special,
    fun member => IsPlain.not_special (.inr (blanks _ member)) special⟩

/-- A generic is taken apart into its outer name and the texts of its arguments. -/
theorem Punctuated.generic_eq {outer gap before inside after : List Char} {entries : List (Expr × List Char)}
    (name : IsName outer) (bare : Blanks gap) (bare' : Blanks before) (bare'' : Blanks after)
    (each : ∀ entry ∈ entries, table.Spells .whole entry.1 entry.2)
    (links : Links ',' (entries.map Prod.snd) inside) :
    table.generic? (table.unmarked
      (outer ++ (gap ++ (table.genericOpen.toList ++ (before ++ (inside ++ (after ++ table.genericClose.toList))))))) =
        some (outer, entries.map Prod.snd) := by
  have outer_eq : trimChars isBlank (outer ++ gap) = outer := trimChars_append (punctuated.trimmed_name name) bare
  have arguments : splitTopLevel [[',']] (before ++ (inside ++ after)) = entries.map Prod.snd :=
    splitTopLevel_spelled punctuated (by decide) each (by decide) links before after bare' bare''
  have taken : table.generic? (outer ++ gap ++ opening :: (before ++ (inside ++ after) ++ [closing])) =
      some (trimChars isBlank (outer ++ gap), splitTopLevel [[',']] (before ++ (inside ++ after))) :=
    generic?_enclosed punctuated.opens punctuated.closes (List.append_ne_nil_of_left_ne_nil name.some gap)
      (punctuated.opening_not_mem name bare) nofun
  rw [punctuated.generic_text, punctuated.unmarked_enclosed, taken, outer_eq, arguments]

/-- Within enough levels, the name read off a text is the one that the expression stands for, where what passes for a
null name is passed over among the arguments of a union wrapper. -/
theorem Spells.nameWithin_eq (spells : table.Spells grade e text) {levels : Nat} (enough : e.levels ≤ levels) :
    table.nameWithin (levels + 1) text = table.meaning table.readsNull e := by
  -- a union, an intersection or a generic takes a level for its members; a mark goes within the level it stands at
  induction spells generalizing levels with
  | @name grade word name =>
    have spells : table.Spells .part (.name word) word := .name name
    have whole : table.generic? word = none :=
      generic?_eq_none punctuated.opens fun member =>
        IsPlain.not_special (.inl (name.chars _ member)) punctuated.opening_special
    rw [spells.nameWithin_part punctuated, punctuated.unmarked_name name, whole]
    rfl
  | @generic grade outer gap before inside after entries name bare bare' bare'' each links ih =>
    obtain ⟨levels, rfl⟩ := Nat.exists_eq_add_of_le' (Nat.le_trans (Nat.le_add_left 1 _) enough)
    have within : ∀ entry ∈ entries, table.nameWithin (levels + 1) entry.2 = table.meaning table.readsNull entry.1 :=
      fun entry among => ih entry among (levels_le_of_entry among (Nat.le_of_succ_le_succ enough))
    have spells : table.Spells .part _ _ := .generic name bare bare' bare'' each links
    rw [spells.nameWithin_part punctuated, punctuated.generic_eq name bare bare' bare'' each links, meaning]
    dsimp only
    have null : ∀ entry ∈ entries, table.isNull entry.2 = table.readsNull entry.1 :=
      fun entry among => (each entry among).isNull punctuated
    rw [firstMeaning_eq null within, head?_meaning_eq within]
  | @suffixed grade base text gap mark base' bare among ih =>
    have spells : table.Spells .part _ _ := .suffixed base' bare among
    rw [spells.nameWithin_part punctuated, punctuated.unmarked_mark among (base'.trimmed punctuated) bare,
      ← base'.nameWithin_part punctuated]
    exact ih enough
  | @intersection grade text entries loose among several each links ih =>
    obtain ⟨levels, rfl⟩ := Nat.exists_eq_add_of_le' (Nat.le_trans (Nat.le_add_left 1 _) enough)
    have within : ∀ entry ∈ entries, table.nameWithin (levels + 1) entry.2 = table.meaning table.readsNull entry.1 :=
      fun entry among => ih entry among (levels_le_of_entry among (Nat.le_of_succ_le_succ enough))
    have spells : table.Spells .member _ _ := .intersection nofun among several each links
    have members := spells.members_eq_self punctuated (by decide)
    have parts : table.parts text = entries.map Prod.snd := punctuated.parts_links among each links
    rw [nameWithin_intersection ((spells.trimmed punctuated).symm ▸ spells.unquoted) (spells.isNameless punctuated)
      (by rw [members]; exact Nat.lt_irrefl 1) (by rwa [parts, List.length_map]), parts,
      head?_meaning_eq within, meaning]
  | @union text entries several each links ih =>
    obtain ⟨levels, rfl⟩ := Nat.exists_eq_add_of_le' (Nat.le_trans (Nat.le_add_left 1 _) enough)
    have within : ∀ entry ∈ entries, table.nameWithin (levels + 1) entry.2 = table.meaning table.readsNull entry.1 :=
      fun entry among => ih entry among (levels_le_of_entry among (Nat.le_of_succ_le_succ enough))
    have spells : table.Spells .whole _ _ := .union several each links
    have null : ∀ entry ∈ entries, table.isNull entry.2 = table.isNullName entry.1 := fun entry among => by
      have member := each entry among
      refine member.isNull_of_ne_whole punctuated fun members same => ?_
      rw [same] at member
      nomatch member
    have members : table.members text = entries.map Prod.snd :=
      punctuated.members_eq.trans (splitTopLevel_links punctuated (by decide) each (by decide) links)
    rw [nameWithin_union ((spells.trimmed punctuated).symm ▸ spells.unquoted) (spells.isNameless punctuated)
      (by rwa [members, List.length_map]), members, firstMeaning_eq null within, meaning]

end

theorem firstMeaning_congr {passedOver passedOver' leftOut leftOut' : Expr → Bool} {expressions : List Expr}
    (same : ∀ e ∈ expressions, leftOut e = leftOut' e)
    (meaning : ∀ e ∈ expressions, table.meaning passedOver e = table.meaning passedOver' e) :
    table.firstMeaning passedOver leftOut expressions = table.firstMeaning passedOver' leftOut' expressions := by
  induction expressions with
  | nil => rfl
  | cons e rest ih =>
    obtain ⟨first, later⟩ := List.forall_mem_cons.mp same
    obtain ⟨means, rest⟩ := List.forall_mem_cons.mp meaning
    rw [firstMeaning, firstMeaning, first, means, ih later rest]

theorem Clear.meaning_eq (clear : table.Clear e) :
    table.meaning table.readsNull e = table.meaning table.isNullName e := by
  induction clear with
  | name => rfl
  | @generic outer arguments quiet _ ih =>
    rw [meaning, meaning]
    split
    · rename_i wrapper
      exact firstMeaning_congr (fun e among => by rw [readsNull, quiet wrapper e among, Bool.or_false]) ih
    · rw [firstMeaning_congr (fun _ _ => rfl) ih]
  | suffixed _ ih => exact ih
  | intersection _ ih | union _ ih => exact firstMeaning_congr (fun _ _ => rfl) ih

/-- Without union wrappers nothing is to be avoided. -/
theorem clear_of_no_wrappers (none : table.unionWrappers = []) : (e : Expr) → table.Clear e
  | .name word => .name word
  | .generic outer arguments =>
    .generic (fun wrapper => by rw [isUnionWrapper, none] at wrapper; nomatch wrapper)
      fun e _ => clear_of_no_wrappers none e
  | .suffixed base => .suffixed (clear_of_no_wrappers none base)
  | .intersection members => .intersection fun e _ => clear_of_no_wrappers none e
  | .union members => .union fun e _ => clear_of_no_wrappers none e

/-- For the annotations of TypeScript and of Python, with blanks around them or not: the name of an expression is the
one that it stands for, except that an argument of a union wrapper is also passed over if it is a union with a dotted
null name at its end. Nothing in TypeScript is a union wrapper. -/
theorem Spells.normalize_eq_meaning (spells : table.Spells .whole e text)
    (known : table = .typescript ∨ table = .python) (shallow : e.levels ≤ nestingLimit) {ahead behind : List Char}
    (blank : Blanks ahead) (blank' : Blanks behind) :
    table.normalize? (String.ofList (ahead ++ (text ++ behind))) =
        (table.meaning table.readsNull e).map String.ofList ∧
      (table = .typescript ∨ table.Clear e → table.normalize? (String.ofList (ahead ++ (text ++ behind))) =
        (table.meaning table.isNullName e).map String.ofList) := by
  obtain ⟨opening, closing, punctuated⟩ : ∃ opening closing, table.Punctuated opening closing := by
    rcases known with rfl | rfl
    · exact ⟨_, _, punctuated_typescript⟩
    · exact ⟨_, _, punctuated_python⟩
  have trimmed := spells.trimmed punctuated
  have same : table.normalize? (String.ofList (ahead ++ (text ++ behind))) =
      (table.meaning table.readsNull e).map String.ofList := by
    rw [normalize?, String.toList_ofList,
      nameWithin_congr ((trimChars_padded trimmed blank blank').trans trimmed.symm),
      spells.nameWithin_eq punctuated shallow]
  refine ⟨same, fun avoided => ?_⟩
  have clear : table.Clear e := avoided.elim (fun typescript => typescript ▸ clear_of_no_wrappers rfl e) id
  rw [same, clear.meaning_eq]

theorem spells_optional {last : List Char} (name : IsName last) :
    Spells .python .whole (.generic "Optional".toList [.union [.name "Foo".toList, .name last]])
      ("Optional[Foo | ".toList ++ (last ++ "]".toList)) := by
  have foo : IsName "Foo".toList := by decide
  have optional : IsName "Optional".toList := by decide
  let entries : List (Expr × List Char) := [(.name "Foo".toList, "Foo".toList), (.name last, last)]
  have each : ∀ entry ∈ entries, Spells .python .member entry.1 entry.2 :=
    List.forall_mem_cons.mpr ⟨.name foo, List.forall_mem_singleton.mpr (.name name)⟩
  have links : Links '|' (entries.map Prod.snd) ("Foo | ".toList ++ last) :=
    .next "Foo".toList " ".toList " ".toList (List.forall_mem_singleton.mpr rfl)
      (List.forall_mem_singleton.mpr rfl) (.single last)
  have members : Spells .python .whole (.union (entries.map Prod.fst)) ("Foo | ".toList ++ last) :=
    .union (Nat.le_refl 2) each links
  exact @Spells.generic .python .whole _ [] [] _ [] [(_, "Foo | ".toList ++ last)] optional nofun nofun nofun
    (List.forall_mem_singleton.mpr members) (.single _)

/-- An optional type of a union with a dotted null name at its end has no name, though the union stands for its first
member. -/
theorem optional_dotted_null_nameless :
    ∃ e : Expr, Spells .python .whole e "Optional[Foo | types.NoneType]".toList ∧ e.levels ≤ nestingLimit ∧
      meaning .python (isNullName .python) e = some "Foo".toList ∧
      normalize? .python "Optional[Foo | types.NoneType]" = none := by
  have name : IsName "types.NoneType".toList := by decide
  exact ⟨_, spells_optional name, by decide +kernel, by decide +kernel, by decide +kernel⟩

/-- Without a dot the null name is one of the members, and the blanks around the annotation are none of its text. -/
theorem normalize_eq_meaning_optional : normalize? .python " Optional[Foo | None]" = some "Foo" := by
  have name : IsName "None".toList := by decide
  have clear : Clear .python (.generic "Optional".toList [.union [.name "Foo".toList, .name "None".toList]]) :=
    .generic (fun _ => by decide +kernel) (List.forall_mem_singleton.mpr
      (.union (List.forall_mem_cons.mpr ⟨.name _, List.forall_mem_singleton.mpr (.name _)⟩)))
  obtain ⟨-, reference⟩ :=
    @Spells.normalize_eq_meaning .python _ _ (spells_optional name) (.inr rfl) (by decide +kernel) [' '] []
      (List.forall_mem_singleton.mpr rfl) nofun
  exact (reference (.inr clear)).trans (by decide +kernel)

end CodeGraph.TypeTable
