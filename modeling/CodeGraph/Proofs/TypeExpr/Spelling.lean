import CodeGraph.Proofs.TypeExpr.Grammar

namespace CodeGraph

open Text

namespace TypeExpr

/-- Brackets, separators, marks and quotes: the characters that annotations are taken apart by. -/
def specials : List Char :=
  ['<', '[', '(', '\x7b', '>', ']', ')', '\x7d', '|', '&', ',', '?', '=', '\'', '"']

theorem of_special : ∀ c ∈ specials, isNameChar c = false ∧ isBlank c = false ∧ IsSmall c := by
  simp only [specials, List.forall_mem_cons, List.not_mem_nil, false_imp_iff, implies_true]
  decide +kernel

theorem of_separator : ∀ c ∈ [',', '|', '&'], c ∈ specials ∧ isOpener c = false ∧ isCloser c = false := by
  simp only [List.forall_mem_cons, List.not_mem_nil, false_imp_iff, implies_true]
  decide

/-- A character of a name, or a blank. -/
def IsPlain (c : Char) : Prop :=
  isNameChar c = true ∨ isBlank c = true

variable {c : Char}

theorem IsPlain.not_special (plain : IsPlain c) : c ∉ specials := by
  intro special
  obtain ⟨letter, blank, -⟩ := of_special c special
  rcases plain with plain | plain
  · exact Bool.false_ne_true (letter.symm.trans plain)
  · exact Bool.false_ne_true (blank.symm.trans plain)

theorem IsPlain.ne (plain : IsPlain c) {d : Char} (special : d ∈ specials) : c ≠ d :=
  fun same => plain.not_special (same ▸ special)

theorem IsPlain.no_bracket (plain : IsPlain c) : isOpener c = false ∧ isCloser c = false := by
  have apart := plain.not_special
  simp only [specials, List.mem_cons, not_or] at apart
  simp [isOpener, isCloser, apart]

theorem IsPlain.stays_inner {separators : List (List Char)} (plain : IsPlain c) : Stays separators 1 [c] :=
  .inner_char plain.no_bracket.1 plain.no_bracket.2

theorem Stays.padded {separators : List (List Char)} {before text after : List Char} (inner : Stays separators 1 text)
    (blank : Blanks before) (blank' : Blanks after) : Stays separators 1 (before ++ (text ++ after)) :=
  have pads : ∀ pad, Blanks pad → Stays separators 1 pad := fun _ bare =>
    .of_forall fun c member => IsPlain.stays_inner (.inr (bare c member))
  (pads before blank).append (inner.append (pads after blank'))

theorem stays_blank {separator : Char} (among : separator ∈ [',', '|', '&']) {c : Char} (blank : isBlank c = true) :
    Stays [[separator]] 0 [c] :=
  have plain : IsPlain c := .inr blank
  .char plain.no_bracket.1 plain.no_bracket.2 (plain.ne (of_separator separator among).1)

theorem isBlank_eq_false_of_isNameChar (letter : isNameChar c = true) : isBlank c = false := by
  simp only [isNameChar, Bool.or_eq_true, beq_iff_eq] at letter
  rcases letter with (alnum | rfl) | rfl
  · exact isBlank_eq_false_of_isAlnum alnum
  · decide
  · decide

theorem Links.stays {separators : List (List Char)} {floor : Nat} {separator : Char} {texts : List (List Char)}
    {text : List Char} (links : Links separator texts text) (plain : ∀ c, IsPlain c → Stays separators floor [c])
    (mark : Stays separators floor [separator]) (each : ∀ text ∈ texts, Stays separators floor text) :
    Stays separators floor text := by
  have pads : ∀ pad, Blanks pad → Stays separators floor pad := fun _ blanks =>
    .of_forall fun c member => plain c (.inr (blanks c member))
  exact links.holds (fun _ _ => .append) pads mark each

theorem Links.not_mem {d separator : Char} {texts : List (List Char)} {text : List Char}
    (links : Links separator texts text) (special : d ∈ specials) (other : d ≠ separator)
    (each : ∀ text ∈ texts, d ∉ text) : d ∉ text := by
  refine links.holds (fun left right apart apart' => ?_) (fun pad blanks member => ?_) ?_ each
  · rw [List.mem_append, not_or]
    exact ⟨apart, apart'⟩
  · exact IsPlain.not_special (.inr (blanks d member)) special
  · exact fun same => other (List.mem_singleton.mp same)

/-- The separators that may stand outside the brackets of an expression. -/
def Grade.joints : Grade → List Char
  | .part => []
  | .member => ['&']
  | .whole => ['&', '|']

/-- The characters that may stand outside the brackets of an expression, apart from array marks. -/
inductive Grade.Exposes (grade : Grade) (c : Char) : Prop
  | plain : IsPlain c → grade.Exposes c
  | mark : c = '?' → grade.Exposes c
  | joint : c ∈ grade.joints → grade.Exposes c

theorem Grade.Exposes.mono {grade looser : Grade} (exposes : grade.Exposes c)
    (subset : grade.joints ⊆ looser.joints) : looser.Exposes c := by
  cases exposes with
  | plain plain => exact .plain plain
  | mark mark => exact .mark mark
  | joint among => exact .joint (subset among)

theorem Grade.Exposes.no_bracket {grade : Grade} (exposes : grade.Exposes c) :
    isOpener c = false ∧ isCloser c = false := by
  cases exposes with
  | plain plain => exact plain.no_bracket
  | mark mark => subst mark; decide
  | joint among =>
    have separator : grade.joints ⊆ [',', '|', '&'] := by cases grade <;> simp [joints]
    exact (of_separator c (separator among)).2

theorem Grade.Exposes.stays_inner {grade : Grade} {separators : List (List Char)} (exposes : grade.Exposes c) :
    Stays separators 1 [c] :=
  .inner_char exposes.no_bracket.1 exposes.no_bracket.2

end TypeExpr

namespace TypeTable

open TypeExpr

/-- How annotations are punctuated in the known languages. -/
structure Punctuated (table : TypeTable) (opening closing : Char) : Prop where
  opens : table.genericOpen.toList = [opening]
  closes : table.genericClose.toList = [closing]
  opener : isOpener opening = true
  closer : isCloser closing = true
  unions : table.unionSeparators = ["|"]
  intersections : table.intersectionSeparators = ["&"] ∨ table.intersectionSeparators = []
  optional : table.optionalSuffix = "?" ∨ table.optionalSuffix = ""
  array : closing ≠ ']' ∧ table.arraySuffix = "[]" ∨ table.arraySuffix = ""
  /-- Where names are compared by their last part, nothing but unions has a name at its end. -/
  segments : table.matchLastSegment = true → table.intersectionSeparators = []
  nulls : (table.nullTypes.all fun null =>
    (if table.caseSensitive then null.toList else lowerChars null.toList).all isNameChar) = true

theorem punctuated_typescript : Punctuated .typescript '<' '>' := by
  constructor <;> decide +kernel

theorem punctuated_python : Punctuated .python '[' ']' := by
  constructor <;> decide +kernel

section

variable {table : TypeTable} {opening closing : Char} {grade : Grade} {e : Expr} {text : List Char}

theorem Punctuated.mark (punctuated : table.Punctuated opening closing) {mark : List Char}
    (among : mark ∈ table.marks) : mark = ['?'] ∨ closing ≠ ']' ∧ mark = ['[', ']'] := by
  simp only [marks, List.mem_filter, List.mem_cons, List.not_mem_nil, or_false] at among
  obtain ⟨rfl | rfl, some⟩ := among
  · rcases punctuated.optional with same | same
    · exact .inl (by rw [same]; rfl)
    · rw [same] at some; nomatch some
  · rcases punctuated.array with ⟨other, same⟩ | same
    · exact .inr ⟨other, by rw [same]; rfl⟩
    · rw [same] at some; nomatch some

theorem Punctuated.bracket_stays (punctuated : table.Punctuated opening closing) {separators : List (List Char)}
    {floor : Nat} {inner : List Char} (stays : Stays separators 1 inner) :
    Stays separators floor (opening :: (inner ++ [closing])) := by
  have same : isOpener closing = false := by
    have closer := punctuated.closer
    simp only [isCloser, Bool.or_eq_true, beq_iff_eq] at closer
    rcases closer with ((rfl | rfl) | rfl) | rfl <;> decide
  exact .bracket punctuated.opener punctuated.closer same stays

/-- The text of a generic, taken apart at its brackets. -/
theorem Punctuated.generic_text (punctuated : table.Punctuated opening closing)
    (outer gap before inside after : List Char) :
    outer ++ (gap ++ (table.genericOpen.toList ++ (before ++ (inside ++ (after ++ table.genericClose.toList))))) =
      outer ++ gap ++ opening :: (before ++ (inside ++ after) ++ [closing]) := by
  simp [punctuated.opens, punctuated.closes]

theorem Punctuated.enclosed_stays (punctuated : table.Punctuated opening closing) {separators : List (List Char)}
    {floor : Nat} {outer gap inside : List Char} (name : IsName outer) (bare : Blanks gap)
    (plain : ∀ c, IsPlain c → Stays separators floor [c]) (inner : Stays separators 1 inside) :
    Stays separators floor (outer ++ gap ++ opening :: (inside ++ [closing])) := by
  refine .append (.of_forall fun c member => plain c ?_) (punctuated.bracket_stays inner)
  exact (List.mem_append.mp member).imp (name.chars c) (bare c)

/-- A spelled expression is not cut if none of the characters is cut that may stand outside its brackets. -/
theorem Spells.stays (punctuated : table.Punctuated opening closing) (spells : table.Spells grade e text)
    {separators : List (List Char)} {floor : Nat}
    (each : ∀ c, grade.Exposes c → Stays separators floor [c]) : Stays separators floor text := by
  -- for every floor, since inside the brackets of a generic it is one, and no separator cuts there
  induction spells generalizing floor with
  | name name => exact .of_forall fun c member => each c (.plain (.inl (name.chars c member)))
  | @generic grade outer gap before inside after entries name bare bare' bare'' _ links ih =>
    have inner : Stays separators 1 inside := by
      refine links.stays (fun _ => IsPlain.stays_inner) (.inner_char rfl rfl) fun text member => ?_
      obtain ⟨entry, among, rfl⟩ := List.mem_map.mp member
      exact ih entry among fun c => Grade.Exposes.stays_inner
    rw [punctuated.generic_text]
    exact punctuated.enclosed_stays name bare (fun c plain => each c (.plain plain)) (inner.padded bare' bare'')
  | @suffixed grade base text gap mark _ bare among ih =>
    refine .append (ih fun c exposed => each c (exposed.mono nofun)) (.append
      (.of_forall fun c member => each c (.plain (.inr (bare c member)))) ?_)
    rcases punctuated.mark among with rfl | ⟨-, rfl⟩
    · exact each '?' (.mark rfl)
    · exact Stays.bracket rfl rfl rfl .nil
  | @intersection grade text entries loose _ _ _ links ih =>
    have joint : '&' ∈ grade.joints := by cases grade <;> simp_all [Grade.joints]
    refine links.stays (fun c plain => each c (.plain plain)) (each '&' (.joint joint)) fun text member => ?_
    obtain ⟨entry, among, rfl⟩ := List.mem_map.mp member
    exact ih entry among fun c exposed => each c (exposed.mono nofun)
  | @union text entries _ _ links ih =>
    have joint : '|' ∈ Grade.whole.joints := by decide
    refine links.stays (fun c plain => each c (.plain plain)) (each '|' (.joint joint)) fun text member => ?_
    obtain ⟨entry, among, rfl⟩ := List.mem_map.mp member
    exact ih entry among fun c exposed => each c (exposed.mono (by simp [Grade.joints]))

/-- Outside of its brackets a spelled expression is cut only by the separators of its grade. -/
theorem Spells.uncut (punctuated : table.Punctuated opening closing) (spells : table.Spells grade e text)
    {separator : Char} (among : separator ∈ [',', '|', '&']) (foreign : separator ∉ grade.joints) :
    Stays [[separator]] 0 text := by
  refine spells.stays punctuated fun c exposed => ?_
  obtain ⟨opener, closer⟩ := exposed.no_bracket
  refine .char opener closer ?_
  cases exposed with
  | plain plain => exact plain.ne (of_separator separator among).1
  | mark mark => subst mark; rintro rfl; revert among; decide
  | joint joint => rintro rfl; exact foreign joint

theorem starts_append {front : List Char} (starts : ∃ c rest, front = c :: rest ∧ isNameChar c = true)
    (behind : List Char) : ∃ c rest, front ++ behind = c :: rest ∧ isNameChar c = true := by
  obtain ⟨c, rest, rfl, letter⟩ := starts
  exact ⟨c, rest ++ behind, rfl, letter⟩

theorem starts_name {word : List Char} (name : IsName word) : ∃ c rest, word = c :: rest ∧ isNameChar c = true := by
  obtain ⟨c, rest, rfl⟩ := List.exists_cons_of_ne_nil name.some
  exact ⟨c, rest, rfl, name.chars c List.mem_cons_self⟩

/-- A spelled expression starts with a character of a name. -/
theorem Spells.starts (spells : table.Spells grade e text) : ∃ c rest, text = c :: rest ∧ isNameChar c = true := by
  induction spells with
  | name name => exact starts_name name
  | generic name => exact starts_append (starts_name name) _
  | suffixed _ _ _ ih => exact starts_append ih _
  | intersection _ _ _ _ links ih | union _ _ links ih =>
    obtain ⟨first, member, rest, rfl⟩ := links.starts
    obtain ⟨entry, among, rfl⟩ := List.mem_map.mp member
    exact starts_append (ih entry among) rest

theorem Punctuated.closing_special (punctuated : table.Punctuated opening closing) : closing ∈ specials := by
  have closer := punctuated.closer
  simp only [isCloser, Bool.or_eq_true, beq_iff_eq] at closer
  rcases closer with ((rfl | rfl) | rfl) | rfl <;> decide

/-- A spelled expression ends in a character that is not blank. -/
theorem Spells.stops (punctuated : table.Punctuated opening closing) (spells : table.Spells grade e text) :
    ∃ front c, text = front ++ [c] ∧ isBlank c = false := by
  have extend : ∀ {last : List Char}, (∃ front c, last = front ++ [c] ∧ isBlank c = false) → ∀ before,
      ∃ front c, before ++ last = front ++ [c] ∧ isBlank c = false := by
    rintro _ ⟨front, c, rfl, bare⟩ before
    exact ⟨before ++ front, c, (List.append_assoc ..).symm, bare⟩
  have joined : ∀ {separator : Char} {entries : List (Expr × List Char)} {text : List Char},
      Links separator (entries.map Prod.snd) text →
      (∀ entry ∈ entries, ∃ front c, entry.2 = front ++ [c] ∧ isBlank c = false) →
      ∃ front c, text = front ++ [c] ∧ isBlank c = false := by
    intro separator entries text links each
    rcases links.ends with single | ⟨front, after, last, final, -, rfl⟩
    · have member : text ∈ entries.map Prod.snd := single ▸ List.mem_singleton_self text
      obtain ⟨entry, among, rfl⟩ := List.mem_map.mp member
      exact each entry among
    · obtain ⟨entry, among, rfl⟩ := List.mem_map.mp (List.mem_of_getLast? final)
      have longer := extend (extend (each entry among) after) (front ++ [separator])
      rwa [List.append_assoc] at longer
  induction spells with
  | @name grade word name =>
    refine ⟨word.dropLast, word.getLast name.some, (List.dropLast_append_getLast name.some).symm, ?_⟩
    exact isBlank_eq_false_of_isNameChar (name.chars _ (List.getLast_mem name.some))
  | @generic grade outer gap before inside after _ name =>
    rw [punctuated.closes]
    refine ⟨outer ++ (gap ++ (table.genericOpen.toList ++ (before ++ (inside ++ after)))), closing, by simp, ?_⟩
    exact (of_special closing punctuated.closing_special).2.1
  | @suffixed grade base text gap mark _ _ among ih =>
    rcases punctuated.mark among with rfl | ⟨-, rfl⟩
    · exact ⟨text ++ gap, '?', by simp, by decide⟩
    · exact ⟨text ++ (gap ++ ['[']), ']', by simp, by decide⟩
  | intersection _ _ _ _ links ih | union _ _ links ih => exact joined links ih

theorem Spells.trimmed (punctuated : table.Punctuated opening closing) (spells : table.Spells grade e text) :
    trimChars isBlank text = text := by
  refine trimChars_eq_self_iff.mpr ⟨?_, ?_⟩
  · obtain ⟨c, rest, rfl, letter⟩ := spells.starts
    rintro _ ⟨⟩
    exact isBlank_eq_false_of_isNameChar letter
  · obtain ⟨front, c, rfl, bare⟩ := spells.stops punctuated
    intro d last
    rw [List.getLast?_concat] at last
    exact Option.some.inj last ▸ bare

theorem Spells.ne_nil (spells : table.Spells grade e text) : text ≠ [] := by
  obtain ⟨c, rest, rfl, -⟩ := spells.starts
  exact List.cons_ne_nil c rest

theorem of_foreign : ∀ c ∈ ['=', '\'', '"'], c ∈ specials ∧ isOpener c = false ∧ isCloser c = false ∧
    c ∉ ['?', '[', ']', ',', '&', '|'] := by
  simp only [List.forall_mem_cons, List.not_mem_nil, false_imp_iff, implies_true]
  decide

/-- Spelled expressions have no arrows and no quotes. -/
theorem Spells.not_mem (punctuated : table.Punctuated opening closing) (spells : table.Spells grade e text) {d : Char}
    (foreign : d ∈ ['=', '\'', '"']) : d ∉ text := by
  obtain ⟨special, opener, closer, other⟩ := of_foreign d foreign
  simp only [List.mem_cons, List.not_mem_nil, or_false, not_or] at other
  obtain ⟨mark, left, right, comma, both, either⟩ := other
  have apart : ∀ {c : Char}, d ≠ c → d ∉ [c] := fun other same => other (List.mem_singleton.mp same)
  have append : ∀ left right : List Char, d ∉ left → d ∉ right → d ∉ left ++ right := by
    intro left right apart apart'
    rw [List.mem_append, not_or]
    exact ⟨apart, apart'⟩
  have pads : ∀ pad, Blanks pad → d ∉ pad := fun pad blanks member =>
    IsPlain.ne (.inr (blanks d member)) special rfl
  have words : ∀ word, IsName word → d ∉ word := fun word name member =>
    IsPlain.ne (.inl (name.chars d member)) special rfl
  have joined : ∀ {separator : Char} {entries : List (Expr × List Char)} {text : List Char},
      Links separator (entries.map Prod.snd) text → d ≠ separator → (∀ entry ∈ entries, d ∉ entry.2) → d ∉ text := by
    intro separator entries text links other each
    exact links.not_mem special other (List.forall_mem_map.mpr each)
  induction spells with
  | name name => exact words _ name
  | generic name bare bare' bare'' _ links ih =>
    rw [punctuated.opens, punctuated.closes]
    refine append _ _ (words _ name) (append _ _ (pads _ bare) (append _ _ ?_ (append _ _ (pads _ bare')
      (append _ _ (joined links comma ih) (append _ _ (pads _ bare'') ?_)))))
    · exact apart fun same => Bool.false_ne_true (opener.symm.trans (same ▸ punctuated.opener))
    · exact apart fun same => Bool.false_ne_true (closer.symm.trans (same ▸ punctuated.closer))
  | suffixed _ bare among ih =>
    refine append _ _ ih (append _ _ (pads _ bare) ?_)
    rcases punctuated.mark among with rfl | ⟨-, rfl⟩
    · exact apart mark
    · exact append ['['] [']'] (apart left) (apart right)
  | intersection _ _ _ _ links ih => exact joined links both ih
  | union _ _ links ih => exact joined links either ih

/-- The part of a name that is compared. -/
def segment (table : TypeTable) (name : List Char) : List Char :=
  if table.matchLastSegment then afterLast '.' name else name

theorem isNull_congr {first second : List Char}
    (same : table.segment (trimChars isBlank first) = table.segment (trimChars isBlank second)) :
    table.isNull first = table.isNull second := by
  have keys : table.key first = table.key second := by
    simp only [segment] at same
    simp only [key, same]
  simp only [isNull, lists, keys]

/-- No name is listed if a special character stands in the part that is compared. -/
theorem lists_eq_false {names : List String}
    (letters : (names.all fun name =>
      (if table.caseSensitive then name.toList else lowerChars name.toList).all isNameChar) = true) {d : Char}
    (special : d ∈ specials) (member : d ∈ table.segment (trimChars isBlank text)) :
    table.lists names text = false := by
  obtain ⟨other, -, small⟩ := of_special d special
  have inKey : d ∈ table.key text := by
    rw [key]
    split
    · exact member
    · exact mem_lowerFrom member small
  refine List.any_eq_false.mpr fun name among same => ?_
  have letter := List.all_eq_true.mp (List.all_eq_true.mp letters name among) d (eq_of_beq same ▸ inKey)
  exact Bool.false_ne_true (other.symm.trans letter)

theorem Punctuated.isNull_eq_false (punctuated : table.Punctuated opening closing) {d : Char} (special : d ∈ specials)
    (member : d ∈ table.segment (trimChars isBlank text)) : table.isNull text = false :=
  lists_eq_false punctuated.nulls special member

theorem mem_segment_of_suffix {front rest : List Char} {d : Char}
    (trimmed : trimChars isBlank (front ++ rest) = front ++ rest) (member : d ∈ rest) (undotted : '.' ∉ rest) :
    d ∈ table.segment (trimChars isBlank (front ++ rest)) := by
  rw [trimmed, segment]
  split
  · exact (suffix_afterLast undotted).subset member
  · exact List.mem_append_right front member

theorem Punctuated.isNull_of_suffix (punctuated : table.Punctuated opening closing) {front rest : List Char} {d : Char}
    (trimmed : trimChars isBlank (front ++ rest) = front ++ rest) (special : d ∈ specials) (member : d ∈ rest)
    (undotted : '.' ∉ rest) : table.isNull (front ++ rest) = false :=
  punctuated.isNull_eq_false special (mem_segment_of_suffix trimmed member undotted)

theorem Punctuated.isNull_concat (punctuated : table.Punctuated opening closing) {front : List Char} {d : Char}
    (trimmed : trimChars isBlank (front ++ [d]) = front ++ [d]) (special : d ∈ specials) :
    table.isNull (front ++ [d]) = false := by
  have undotted : '.' ∉ [d] := by
    rw [List.mem_singleton]
    rintro rfl
    exact absurd special (by decide)
  exact punctuated.isNull_of_suffix trimmed special (List.mem_singleton_self d) undotted

/-- Names aside, no expression but a union passes for a null name. -/
theorem Spells.isNull_of_ne_whole (punctuated : table.Punctuated opening closing) (spells : table.Spells grade e text)
    (tight : ∀ members, e ≠ .union members) : table.isNull text = table.isNullName e := by
  have trimmed := spells.trimmed punctuated
  have last : ∀ front, ∀ d ∈ specials, text = front ++ [d] → table.isNull text = false := by
    rintro front d special rfl
    exact punctuated.isNull_concat trimmed special
  cases spells with
  | name => rfl
  | @generic grade outer gap before inside after =>
    refine last (outer ++ (gap ++ (table.genericOpen.toList ++ (before ++ (inside ++ after))))) closing
      punctuated.closing_special ?_
    simp [punctuated.closes]
  | @suffixed _ _ text gap mark _ _ among =>
    rcases punctuated.mark among with rfl | ⟨-, rfl⟩
    · exact last (text ++ gap) '?' (by decide) (by simp)
    · exact last (text ++ (gap ++ ['['])) ']' (by decide) (by simp)
  | intersection _ among several _ links =>
    obtain ⟨front, after, entry, -, -, rfl⟩ := links.last_entry several
    refine punctuated.isNull_eq_false (d := '&') (by decide) ?_
    have undotted : ¬ table.matchLastSegment = true := fun dotted => by
      rw [punctuated.segments dotted] at among
      nomatch among
    rw [trimmed, segment, if_neg undotted]
    exact List.mem_append_right front List.mem_cons_self
  | union => exact absurd rfl (tight _)

theorem isDottedNull_eq_false (named : table.isNullName e = false) : table.isDottedNull e = false := by
  cases e with
  | name word =>
    rw [isNullName] at named
    rw [isDottedNull, named, Bool.and_false]
  | generic | suffixed | intersection | union => rfl

/-- Behind a separator, an expression passes for a null name if it is a dotted one and names are compared by their last
part. -/
theorem Spells.isNull_behind (punctuated : table.Punctuated opening closing) {front after last : List Char}
    (spells : table.Spells .member e last) (bare : Blanks after)
    (trimmed : trimChars isBlank (front ++ '|' :: (after ++ last)) = front ++ '|' :: (after ++ last)) :
    table.isNull (front ++ '|' :: (after ++ last)) = (table.matchLastSegment && table.isDottedNull e) := by
  -- with a dot in the last member only its own end is compared, else the separator before it is compared with it
  by_cases dot : table.matchLastSegment = true ∧ '.' ∈ last
  · obtain ⟨dotted, dot⟩ := dot
    have whole : table.isNull (front ++ '|' :: (after ++ last)) = table.isNull last := by
      refine isNull_congr ?_
      rw [trimmed, spells.trimmed punctuated, segment, segment, if_pos dotted, if_pos dotted,
        ← List.singleton_append, ← List.append_assoc, ← List.append_assoc]
      exact afterLast_append dot
    rw [whole, dotted, Bool.true_and, spells.isNull_of_ne_whole punctuated (by rintro _ rfl; cases spells)]
    cases e with
    | name word =>
      cases spells
      rw [isDottedNull, decide_eq_true dot, Bool.true_and, isNullName]
    | generic | suffixed | intersection | union => rfl
  · have null : table.isNull (front ++ '|' :: (after ++ last)) = false := by
      refine punctuated.isNull_eq_false (d := '|') (by decide) ?_
      rw [trimmed, segment]
      split
      · rename_i dotted
        have behind : '.' ∉ '|' :: (after ++ last) := by
          rw [List.mem_cons, List.mem_append, not_or, not_or]
          exact ⟨by decide, fun member => absurd (bare '.' member) (by decide), fun member => dot ⟨dotted, member⟩⟩
        exact (suffix_afterLast behind).subset List.mem_cons_self
      · exact List.mem_append_right front List.mem_cons_self
    rw [null]
    cases e with
    | name word =>
      cases spells
      cases dotted : table.matchLastSegment with
      | false => rfl
      | true => rw [isDottedNull, decide_eq_false fun member => dot ⟨dotted, member⟩]; rfl
    | generic | suffixed | intersection | union => exact (Bool.and_false _).symm

/-- A union passes for a null name if it ends in a dotted one, where names are compared by their last part. A text that
ends in a special character may stand in it for an expression that is no null name. -/
theorem Punctuated.isNull_joined (punctuated : table.Punctuated opening closing) {entries : List (Expr × List Char)}
    (several : 2 ≤ entries.length)
    (each : ∀ entry ∈ entries, table.Spells .member entry.1 entry.2 ∨
      table.isNullName entry.1 = false ∧ ∃ front c, c ∈ specials ∧ entry.2 = front ++ [c])
    (links : Links '|' (entries.map Prod.snd) text) (trimmed : trimChars isBlank text = text) :
    table.isNull text = table.endsInNull (.union (entries.map Prod.fst)) := by
  obtain ⟨front, after, ⟨e, last⟩, final, bare, rfl⟩ := links.last_entry several
  rw [endsInNull, List.getLast?_map, final, Option.map_some, Option.any_some]
  rcases each _ (List.mem_of_getLast? final) with spells | ⟨named, inner, c, special, rfl⟩
  · exact spells.isNull_behind punctuated bare trimmed
  · have regrouped : front ++ '|' :: (after ++ (inner ++ [c])) = front ++ '|' :: (after ++ inner) ++ [c] := by simp
    rw [regrouped] at trimmed ⊢
    rw [punctuated.isNull_concat trimmed special, isDottedNull_eq_false named, Bool.and_false]

/-- What passes for a null name: null names, and unions with a dotted one at their end. -/
theorem Spells.isNull (punctuated : table.Punctuated opening closing) (spells : table.Spells grade e text) :
    table.isNull text = (table.isNullName e || table.endsInNull e) := by
  cases e with
  | union members =>
    have trimmed := spells.trimmed punctuated
    cases spells with
    | union several each links =>
      exact punctuated.isNull_joined several (fun entry among => .inl (each entry among)) links trimmed
  | name | generic | suffixed | intersection =>
    rw [spells.isNull_of_ne_whole punctuated nofun]
    exact (Bool.or_false _).symm

end

end TypeTable
end CodeGraph
