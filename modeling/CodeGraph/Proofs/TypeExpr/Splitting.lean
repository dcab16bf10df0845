import CodeGraph.Proofs.TypeExpr.Spelling

namespace CodeGraph.TypeExpr

open Text

variable {separators : List (List Char)} {depth : Nat} {separator : Char} {text more piece left : List Char}

theorem separatorAt?_cons (mark : List Char) (separators : List (List Char)) (text : List Char) :
    separatorAt? (mark :: separators) text =
      if mark <+: text then if mark = [] then none else some mark else separatorAt? separators text := by
  unfold separatorAt?
  rw [List.find?_cons]
  by_cases starts : mark <+: text
  · rw [if_pos starts, List.isPrefixOf_iff_prefix.mpr starts]
    cases mark <;> rfl
  · have other : mark.isPrefixOf text = false :=
      Bool.eq_false_iff.mpr fun found => starts (List.isPrefixOf_iff_prefix.mp found)
    rw [if_neg starts, other]

/-- Where no separator stands, none stands when less of the text follows. -/
theorem separatorAt?_eq_none (shorter : more <+: text) (free : separatorAt? separators text = none) :
    separatorAt? separators more = none := by
  induction separators with
  | nil => rfl
  | cons mark separators ih =>
    rw [separatorAt?_cons] at free ⊢
    by_cases starts : mark <+: more
    · rw [if_pos (starts.trans shorter)] at free
      rwa [if_pos starts]
    · rw [if_neg starts]
      refine ih ?_
      split at free
      · split at free
        · rename_i empty
          exact absurd (empty ▸ List.nil_prefix) starts
        · cases free
      · exact free

/-- A text without separators outside brackets, where it is read from a depth. -/
inductive Uncut (separators : List (List Char)) : Nat → List Char → Prop
  | nil (depth : Nat) : Uncut separators depth []
  | inside {depth : Nat} {c : Char} {text : List Char} : (isOpener c || isCloser c || depth != 0) = true →
      Uncut separators (depthAfter depth c) text → Uncut separators depth (c :: text)
  | outside {c : Char} {text : List Char} : isOpener c = false → isCloser c = false →
      separatorAt? separators (c :: text) = none → Uncut separators 0 text → Uncut separators 0 (c :: text)

theorem Uncut.cutFrom_eq (uncut : Uncut separators depth text) (current : List Char) :
    cutFrom separators depth current 0 text = [current.reverse ++ text] := by
  induction uncut generalizing current with
  | nil => rw [cutFrom_nil, List.append_nil]
  | inside within _ ih =>
    rw [cutFrom_cons, if_pos within, ih, List.reverse_cons, List.append_assoc, List.singleton_append]
  | outside opener closer free _ ih =>
    rw [cutFrom_cons, if_neg (by simp [opener, closer]), free]
    dsimp only
    rw [ih, List.reverse_cons, List.append_assoc, List.singleton_append]

theorem Uncut.front (uncut : Uncut separators depth (text ++ more)) : Uncut separators depth text := by
  induction text generalizing depth with
  | nil => exact .nil depth
  | cons c text ih =>
    cases uncut with
    | inside within uncut => exact .inside within (ih uncut)
    | outside opener closer free uncut =>
      have shorter : c :: text <+: c :: (text ++ more) := List.prefix_append (c :: text) more
      exact .outside opener closer (separatorAt?_eq_none shorter free) (ih uncut)

/-- Blanks at the start do not change the depth. -/
theorem Uncut.behind (blank : Blanks more) (uncut : Uncut separators 0 (more ++ text)) : Uncut separators 0 text := by
  induction more with
  | nil => exact uncut
  | cons c more ih =>
    obtain ⟨bare, later⟩ := List.forall_mem_cons.mp blank
    have plain : IsPlain c := .inr bare
    refine ih later ?_
    cases uncut with
    | inside _ uncut => rwa [depthAfter, plain.no_bracket.1, plain.no_bracket.2] at uncut
    | outside _ _ _ uncut => exact uncut

theorem Uncut.trimmed (uncut : Uncut separators 0 text) : Uncut separators 0 (trimChars isBlank text) := by
  obtain ⟨ahead, behind, blank, -, same⟩ := exists_padding isBlank text
  rw [same] at uncut
  exact (uncut.behind blank).front

/-- The first piece is a start of the text, and it is not cut from the depth at which reading went on. The others are
not cut from outside brackets. -/
theorem cutFrom_uncut (separators : List (List Char)) (depth skip : Nat) (text : List Char) :
    ∃ first pieces, cutFrom separators depth [] skip text = first :: pieces ∧ first <+: text.drop skip ∧
      Uncut separators depth first ∧ ∀ piece ∈ pieces, Uncut separators 0 piece := by
  induction text generalizing depth skip with
  | nil => exact ⟨[], [], cutFrom_nil .., List.nil_prefix, .nil depth, nofun⟩
  | cons c text ih =>
    cases skip with
    | succ skip => exact ih depth skip
    | zero =>
      rw [cutFrom_cons, List.drop_zero]
      -- a character that goes into the piece stands in front of the first piece of what follows it
      have further (depth : Nat) : ∃ first pieces, cutFrom separators depth [c] 0 text = (c :: first) :: pieces ∧
          first <+: text ∧ Uncut separators depth first ∧ ∀ piece ∈ pieces, Uncut separators 0 piece := by
        obtain ⟨first, pieces, cut, shorter, uncut, others⟩ := ih depth 0
        refine ⟨first, pieces, ?_, shorter, uncut, others⟩
        rw [← List.nil_append [c], cutFrom_current, cut]
        rfl
      split
      · rename_i within
        obtain ⟨first, pieces, cut, shorter, uncut, others⟩ := further (depthAfter depth c)
        exact ⟨c :: first, pieces, cut, List.cons_prefix_cons.mpr ⟨rfl, shorter⟩, .inside within uncut, others⟩
      · rename_i outside
        simp only [Bool.or_eq_true, bne_iff_ne, not_or, Bool.not_eq_true, not_not] at outside
        obtain ⟨⟨opener, closer⟩, rfl⟩ := outside
        split
        · obtain ⟨first, pieces, cut, -, uncut, others⟩ := ih 0 (List.length _ - 1)
          exact ⟨[], _, by rw [cut]; rfl, List.nil_prefix, .nil 0, List.forall_mem_cons.mpr ⟨uncut, others⟩⟩
        · rename_i free
          obtain ⟨first, pieces, cut, shorter, uncut, others⟩ := further 0
          have shorter' : c :: first <+: c :: text := List.cons_prefix_cons.mpr ⟨rfl, shorter⟩
          exact ⟨c :: first, pieces, cut, shorter', .outside opener closer (separatorAt?_eq_none shorter' free) uncut,
            others⟩

theorem uncut_of_mem_splitTopLevel (member : piece ∈ splitTopLevel separators text) : Uncut separators 0 piece := by
  obtain ⟨whole, cut, rfl⟩ := List.mem_map.mp (List.mem_of_mem_filter member)
  obtain ⟨first, pieces, same, -, uncut, others⟩ := cutFrom_uncut separators 0 0 text
  rw [same] at cut
  rcases List.mem_cons.mp cut with rfl | later
  · exact uncut.trimmed
  · exact (others whole later).trimmed

theorem Uncut.splitTopLevel_eq (uncut : Uncut separators 0 text) (some : text ≠ [])
    (trimmed : trimChars isBlank text = text) : splitTopLevel separators text = [text] := by
  rw [splitTopLevel, uncut.cutFrom_eq, List.reverse_nil, List.nil_append, List.map_singleton, trimmed]
  exact List.filter_eq_self.mpr (List.forall_mem_singleton.mpr (by simpa using some))

/-- The depth at which reading a text ends. -/
def depthBehind (depth : Nat) (text : List Char) : Nat :=
  text.foldl depthAfter depth

/-- Where the brackets before a separator are closed, it cuts off all that is before it. -/
theorem cutFrom_append (opener : isOpener separator = false) (closer : isCloser separator = false)
    (closed : depthBehind depth left = 0) (current right : List Char) :
    cutFrom [[separator]] depth current 0 (left ++ separator :: right) =
      cutFrom [[separator]] depth current 0 left ++ cutFrom [[separator]] 0 [] 0 right := by
  have found (rest : List Char) : separatorAt? [[separator]] (separator :: rest) = some [separator] := by
    simp [separatorAt?]
  induction left generalizing depth current with
  | nil =>
    obtain rfl : depth = 0 := closed
    rw [List.nil_append, cutFrom_cons, if_neg (by simp [opener, closer]), found, cutFrom_nil]
    rfl
  | cons c left ih =>
    rw [List.cons_append, cutFrom_cons, cutFrom_cons]
    split
    · exact ih closed (c :: current)
    · rename_i outside
      simp only [Bool.or_eq_true, bne_iff_ne, not_or, Bool.not_eq_true, not_not] at outside
      obtain ⟨⟨opener', closer'⟩, rfl⟩ := outside
      have level : depthBehind 0 left = 0 := by
        rwa [depthBehind, List.foldl_cons, depthAfter, opener', closer'] at closed
      by_cases here : c = separator
      · subst here
        rw [found, found]
        exact congrArg _ (ih level [])
      · rw [separatorAt?_singleton here, separatorAt?_singleton here]
        exact ih level (c :: current)

/-- A piece is not empty, has no blanks at its ends, and is its own only piece. A separator before which all brackets
are closed cuts the pieces before it off from those behind it. -/
theorem splitTopLevel_again_joined :
    (∀ (separators : List (List Char)) (text piece : List Char), piece ∈ splitTopLevel separators text →
      piece ≠ [] ∧ trimChars isBlank piece = piece ∧ splitTopLevel separators piece = [piece]) ∧
    ∀ (separator : Char) (left right : List Char), isOpener separator = false → isCloser separator = false →
      depthBehind 0 left = 0 → splitTopLevel [[separator]] (left ++ separator :: right) =
        splitTopLevel [[separator]] left ++ splitTopLevel [[separator]] right := by
  constructor
  · intro separators text piece member
    obtain ⟨among, kept⟩ := List.mem_filter.mp member
    have some : piece ≠ [] := by simpa using kept
    have trimmed : trimChars isBlank piece = piece := by
      obtain ⟨whole, -, rfl⟩ := List.mem_map.mp among
      exact trimChars_trimChars isBlank whole
    exact ⟨some, trimmed, (uncut_of_mem_splitTopLevel member).splitTopLevel_eq some trimmed⟩
  · intro separator left right opener closer closed
    simp only [splitTopLevel, cutFrom_append opener closer closed, List.map_append, List.filter_append]

/-- A separator of two characters, of which the second one is a bracket, and brackets that are never opened. -/
theorem splitTopLevel_again_joined_unbalanced :
    "B[c => d]".toList ∈ splitTopLevel [['=', '>'], ['|']] "A) => B[c => d] | ".toList ∧
      splitTopLevel [['=', '>'], ['|']] "B[c => d]".toList = ["B[c => d]".toList] ∧
      depthBehind 0 "\x7dMap<a | b> ".toList = 0 ∧
      splitTopLevel [['|']] "\x7dMap<a | b> | c]|".toList = ["\x7dMap<a | b>".toList, "c]".toList] := by
  have member : "B[c => d]".toList ∈ splitTopLevel [['=', '>'], ['|']] "A) => B[c => d] | ".toList := by decide +kernel
  have closed : depthBehind 0 "\x7dMap<a | b> ".toList = 0 := by decide +kernel
  have left : splitTopLevel [['|']] "\x7dMap<a | b> ".toList = ["\x7dMap<a | b>".toList] := by decide +kernel
  have right : splitTopLevel [['|']] " c]|".toList = ["c]".toList] := by decide +kernel
  obtain ⟨pieces, joints⟩ := splitTopLevel_again_joined
  have joined := joints '|' "\x7dMap<a | b> ".toList " c]|".toList (by decide) (by decide) closed
  rw [left, right] at joined
  exact ⟨member, (pieces _ _ _ member).2.2, closed, joined⟩

end CodeGraph.TypeExpr
