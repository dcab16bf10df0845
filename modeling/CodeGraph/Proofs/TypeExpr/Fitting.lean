import CodeGraph.Proofs.TypeExpr.Contexts

namespace CodeGraph

open Text

namespace TypeExpr

open TypeTable (python punctuated_python isQuote of_foreign)

variable {grade innerGrade : Grade} {context : Context} {e : Expr} {c mark : Char} {levels : Nat}
variable {text written ahead behind outer gap inside : List Char} {texts : List (List Char)}

/-- What the texts of expressions and of quoted expressions have in common: they can be joined, and they are cut at the
joints only. -/
structure Fits (grade : Grade) (text : List Char) : Prop where
  nonempty : text ≠ []
  trimmed : trimChars isBlank text = text
  inner : ∀ separators, Stays separators 1 text
  uncut : ∀ separator ∈ [',', '|', '&'], separator ∉ grade.joints → Stays [[separator]] 0 text
  arrowless : '=' ∉ text

theorem Fits.of_spells (spells : python.Spells grade e text) : Fits grade text where
  nonempty := spells.ne_nil
  trimmed := spells.trimmed punctuated_python
  inner _ := spells.stays punctuated_python fun _ => Grade.Exposes.stays_inner
  uncut _ := spells.uncut punctuated_python
  arrowless := spells.not_mem punctuated_python (by decide)

theorem fits_of_spells {entries : List (Expr × List Char)}
    (each : ∀ entry ∈ entries, python.Spells grade entry.1 entry.2) : ∀ text ∈ entries.map Prod.snd, Fits grade text :=
  List.forall_mem_map.mpr fun entry among => .of_spells (each entry among)

theorem of_quote (quote : isQuote mark = true) :
    mark ∈ ['=', '\'', '"'] ∧ isBlank mark = false ∧ mark ∉ [',', '|', '&'] ∧ '=' ≠ mark ∧ mark ≠ '.' := by
  simp only [isQuote, Bool.or_eq_true, beq_iff_eq] at quote
  rcases quote with rfl | rfl <;> decide

theorem stays_quote (quote : isQuote mark = true) : (∀ separators, Stays separators 1 [mark]) ∧
    ∀ separator ∈ [',', '|', '&'], Stays [[separator]] 0 [mark] := by
  obtain ⟨foreign, -, other, -⟩ := of_quote quote
  obtain ⟨-, opener, closer, -⟩ := of_foreign mark foreign
  refine ⟨fun _ => .inner_char opener closer, fun separator among => .char opener closer ?_⟩
  rintro rfl
  exact other among

theorem Fits.concat (fits : Fits grade text) (quote : isQuote mark = true) : Fits grade (text ++ [mark]) where
  nonempty := List.append_ne_nil_of_left_ne_nil fits.nonempty [mark]
  trimmed := trimChars_concat (of_quote quote).2.1 fits.trimmed
  inner separators := (fits.inner separators).append ((stays_quote quote).1 separators)
  uncut separator among foreign := (fits.uncut separator among foreign).append ((stays_quote quote).2 separator among)
  arrowless := by
    rw [List.mem_append, List.mem_singleton, not_or]
    exact ⟨fits.arrowless, (of_quote quote).2.2.2.1⟩

theorem Fits.cons (fits : Fits grade text) (quote : isQuote mark = true) : Fits grade (mark :: text) where
  nonempty := List.cons_ne_nil mark text
  trimmed := trimChars_cons (of_quote quote).2.1 fits.trimmed
  inner separators := ((stays_quote quote).1 separators).append (fits.inner separators)
  uncut separator among foreign := ((stays_quote quote).2 separator among).append (fits.uncut separator among foreign)
  arrowless := by
    rw [List.mem_cons, not_or]
    exact ⟨(of_quote quote).2.2.2.1, fits.arrowless⟩

theorem Fits.of_quote (spells : python.Spells grade e text) (quote : isQuote mark = true) :
    Fits grade (mark :: (text ++ [mark])) :=
  ((Fits.of_spells spells).concat quote).cons quote

theorem Links.fits (links : Links '|' texts text) (each : ∀ text ∈ texts, Fits .member text) : Fits .whole text where
  nonempty := by
    obtain ⟨first, among, rest, rfl⟩ := links.starts
    exact List.append_ne_nil_of_left_ne_nil (each first among).nonempty rest
  trimmed := links.trimmed fun text among => ⟨(each text among).nonempty, (each text among).trimmed⟩
  inner separators := links.stays (fun _ => IsPlain.stays_inner) (.inner_char rfl rfl) fun text among =>
    (each text among).inner separators
  uncut separator among foreign := by
    have tighter : separator ∉ Grade.member.joints := fun joint =>
      foreign (List.mem_append_left ['|'] joint)
    have apart : '|' ≠ separator := by rintro rfl; exact foreign (by decide)
    refine links.stays (fun c plain => ?_) (.char rfl rfl apart) fun text member =>
      (each text member).uncut separator among tighter
    exact .char plain.no_bracket.1 plain.no_bracket.2 (plain.ne (of_separator separator among).1)
  arrowless := links.not_mem (by decide) (by decide) fun text among => (each text among).arrowless

theorem Fits.enclosed (name : IsName outer) (bare : Blanks gap) (inner : ∀ separators, Stays separators 1 inside)
    (arrowless : '=' ∉ inside) : Fits grade (outer ++ gap ++ '[' :: (inside ++ [']'])) where
  nonempty := List.append_ne_nil_of_right_ne_nil _ (List.cons_ne_nil _ _)
  trimmed := by
    obtain ⟨c, rest, rfl⟩ := List.exists_cons_of_ne_nil name.some
    refine trimChars_eq_self_iff.mpr ⟨fun d first => ?_, fun d last => ?_⟩
    · exact Option.some.inj first ▸ isBlank_eq_false_of_isNameChar (name.chars c List.mem_cons_self)
    · rw [← List.cons_append, ← List.append_assoc, List.getLast?_concat] at last
      exact Option.some.inj last ▸ by decide
  inner separators := punctuated_python.enclosed_stays name bare (fun _ => IsPlain.stays_inner) (inner separators)
  uncut separator among _ := punctuated_python.enclosed_stays name bare (fun c plain =>
    .char plain.no_bracket.1 plain.no_bracket.2 (plain.ne (of_separator separator among).1)) (inner [[separator]])
  arrowless := by
    intro member
    rcases List.mem_append.mp member with plain | within
    · exact IsPlain.not_special ((List.mem_append.mp plain).imp (name.chars '=') (bare '=')) (by decide)
    · simp only [List.mem_cons, List.mem_append, List.not_mem_nil, or_false] at within
      rcases within with opening | within | closing
      · exact absurd opening (by decide)
      · exact arrowless within
      · exact absurd closing (by decide)

/-- The text of an argument list, with a piece among its arguments that can be joined with them. -/
theorem Links.fits_inside {before after : List Char} (links : Links ',' texts text) (blank : Blanks before)
    (blank' : Blanks after) (each : ∀ text ∈ texts, Fits .whole text) :
    (∀ separators, Stays separators 1 (before ++ (text ++ after))) ∧ '=' ∉ before ++ (text ++ after) := by
  refine ⟨fun separators => ?_, ?_⟩
  · have inner : Stays separators 1 text :=
      links.stays (fun _ => IsPlain.stays_inner) (.inner_char rfl rfl) fun text among =>
        (each text among).inner separators
    exact inner.padded blank blank'
  · have within : '=' ∉ text := links.not_mem (by decide) (by decide) fun text among => (each text among).arrowless
    have pads : ∀ pad, Blanks pad → '=' ∉ pad := fun pad blanks member =>
      IsPlain.not_special (.inr (blanks '=' member)) (by decide)
    rw [List.mem_append, List.mem_append, not_or, not_or]
    exact ⟨pads before blank, within, pads after blank'⟩

theorem fits_around {front back : List (Expr × List Char)}
    (others : ∀ entry ∈ front ++ back, python.Spells grade entry.1 entry.2) (fits : Fits grade text) :
    ∀ piece ∈ front.map Prod.snd ++ text :: back.map Prod.snd, Fits grade piece := by
  refine forall_mem_around ?_ fits
  rw [← List.map_append]
  exact fits_of_spells others

/-- Around a text that can be joined like that of an expression, the whole text can be. -/
theorem Surrounds.fits (surrounds : Surrounds grade context innerGrade ahead behind) (fits : Fits innerGrade text) :
    Fits grade (ahead ++ (text ++ behind)) := by
  induction surrounds with
  | gap => rwa [List.nil_append, List.append_nil]
  | @argument grade innerGrade outer gap before after left right ahead behind inner front back name bare bare' bare''
      others leads trails _ ih =>
    obtain ⟨inner, arrowless⟩ := (Links.around leads trails _).fits_inside bare' bare'' (fits_around others (ih fits))
    rw [argument_text]
    exact .enclosed name bare inner arrowless
  | @member innerGrade left right ahead behind inner front back some others leads trails _ ih =>
    rw [member_text]
    exact (Links.around leads trails _).fits (fits_around others (ih fits))

/-- Joined texts are cut into just these texts, by a separator that cuts none of them. -/
theorem Links.split {separator : Char} (links : Links separator texts text) (among : separator ∈ [',', '|', '&'])
    (each : ∀ text ∈ texts, Fits grade text) (foreign : separator ∉ grade.joints) (blank : Blanks ahead)
    (blank' : Blanks behind) : TypeExpr.splitTopLevel [[separator]] (ahead ++ (text ++ behind)) = texts := by
  obtain ⟨-, opener, closer⟩ := of_separator separator among
  refine links.splitTopLevel opener closer (fun _ => stays_blank among) (fun text member => ?_) blank blank'
  have fits := each text member
  exact ⟨fits.uncut separator among foreign, fits.trimmed, fits.nonempty⟩

theorem Links.members_eq (links : Links '|' texts text) (each : ∀ text ∈ texts, Fits .member text) :
    python.members text = texts := by
  have cut : TypeExpr.splitTopLevel [['|']] ([] ++ (text ++ [])) = texts :=
    links.split (by decide) each (by decide) nofun nofun
  rw [punctuated_python.members_eq]
  rwa [List.nil_append, List.append_nil] at cut

/-- A text without a union outside its brackets is a generic or a name. -/
theorem Fits.nameWithin (fits : Fits .member text) (starts : ∃ c rest, text = c :: rest ∧ isNameChar c = true) :
    python.nameWithin (levels + 1) text =
      match python.generic? text with
      | some (outer, arguments) =>
        if python.isUnionWrapper outer then (arguments.find? (!python.isNull ·)).bind (python.nameWithin levels)
        else if python.isTransparent outer then arguments.head?.bind (python.nameWithin levels)
        else python.nameOf? outer
      | none => python.nameOf? text := by
  have unquoted : python.unquoted? (trimChars isBlank text) = some text := by
    rw [fits.trimmed]
    exact TypeTable.unquoted?_eq_some starts
  have members : python.members text = [text] := (Links.single text).members_eq (List.forall_mem_singleton.mpr fits)
  have parts : python.parts text = [text] := by
    have nonempty := fits.nonempty
    rw [← fits.trimmed] at nonempty
    exact (splitTopLevel_nil nonempty).trans (congrArg (fun piece => [piece]) fits.trimmed)
  exact TypeTable.nameWithin_part unquoted (TypeTable.isNameless_eq_false starts fits.arrowless)
    (by rw [members]; exact Nat.lt_irrefl 1) (by rw [parts]; exact Nat.lt_irrefl 1) fits.nonempty

theorem Links.nameWithin (links : Links '|' texts text) (each : ∀ text ∈ texts, Fits .member text)
    (several : 2 ≤ texts.length) (unquoted : python.unquoted? (trimChars isBlank written) = some text)
    (named : TypeTable.isNameless text = false) :
    python.nameWithin (levels + 1) written = (texts.find? (!python.isNull ·)).bind (python.nameWithin levels) := by
  have members := links.members_eq each
  rw [TypeTable.nameWithin_union unquoted named (by rwa [members]), members]

/-- A generic is read from its arguments, or by its name. What stands behind its bracket makes no difference. -/
theorem Fits.nameWithin_enclosed {before after tail : List Char} (name : IsName outer) (bare : Blanks gap)
    (fits : Fits .member (outer ++ gap ++ '[' :: (before ++ (inside ++ after) ++ ']' :: tail))) (absent : ']' ∉ tail)
    (links : Links ',' texts inside) (bare' : Blanks before) (bare'' : Blanks after)
    (each : ∀ text ∈ texts, Fits .whole text) :
    python.nameWithin (levels + 1) (outer ++ gap ++ '[' :: (before ++ (inside ++ after) ++ ']' :: tail)) =
      if python.isUnionWrapper outer then (texts.find? (!python.isNull ·)).bind (python.nameWithin levels)
      else if python.isTransparent outer then texts.head?.bind (python.nameWithin levels)
      else python.nameOf? outer := by
  have arguments : splitTopLevel [[',']] (before ++ (inside ++ after)) = texts :=
    links.split (by decide) each (by decide) bare' bare''
  have trimmed : trimChars isBlank (outer ++ gap) = outer := trimChars_append (punctuated_python.trimmed_name name) bare
  have generic : python.generic? (outer ++ gap ++ '[' :: (before ++ (inside ++ after) ++ ']' :: tail)) =
      some (trimChars isBlank (outer ++ gap), splitTopLevel [[',']] (before ++ (inside ++ after))) :=
    TypeTable.generic?_enclosed punctuated_python.opens punctuated_python.closes
      (List.append_ne_nil_of_left_ne_nil name.some gap) (punctuated_python.opening_not_mem name bare) absent
  rw [arguments, trimmed] at generic
  have starts := TypeTable.starts_append (TypeTable.starts_append (TypeTable.starts_name name) gap)
    ('[' :: (before ++ (inside ++ after) ++ ']' :: tail))
  rw [fits.nameWithin starts, generic]

end TypeExpr

end CodeGraph
