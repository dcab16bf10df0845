import CodeGraph.Proofs.Text.Trimming
import CodeGraph.TypeExpr.Split

namespace CodeGraph.TypeExpr

open Text

variable {separators : List (List Char)} {floor depth : Nat} {c : Char} {text rest : List Char}

theorem cutFrom_nil (separators : List (List Char)) (depth : Nat) (current : List Char) (skip : Nat) :
    cutFrom separators depth current skip [] = [current.reverse] := by
  cases skip <;> rfl

theorem cutFrom_cons (separators : List (List Char)) (depth : Nat) (current : List Char) (c : Char)
    (rest : List Char) : cutFrom separators depth current 0 (c :: rest) =
      if isOpener c || isCloser c || depth != 0 then
        cutFrom separators (depthAfter depth c) (c :: current) 0 rest
      else match separatorAt? separators (c :: rest) with
        | some separator => current.reverse :: cutFrom separators 0 [] (separator.length - 1) rest
        | none => cutFrom separators depth (c :: current) 0 rest :=
  rfl

/-- Read from a depth that is at least the given one, a text is not cut and leads back to that depth. -/
def Stays (separators : List (List Char)) (floor : Nat) (text : List Char) : Prop :=
  ∀ depth, floor ≤ depth → ∀ current rest,
    cutFrom separators depth current 0 (text ++ rest) =
      cutFrom separators depth (text.reverse ++ current) 0 rest

theorem Stays.nil : Stays separators floor [] := fun _ _ _ _ => rfl

/-- Outside brackets, a text at the start of what is read goes into the first part as a whole. -/
theorem Stays.start (stays : Stays separators 0 text) :
    cutFrom separators 0 [] 0 (text ++ rest) = cutFrom separators 0 text.reverse 0 rest := by
  rw [stays 0 (Nat.le_refl 0), List.append_nil]

theorem Stays.append (left : Stays separators floor text) (right : Stays separators floor rest) :
    Stays separators floor (text ++ rest) := by
  intro depth deep current more
  rw [List.append_assoc, left depth deep, right depth deep, List.reverse_append, List.append_assoc]

/-- Below a bracket nothing is cut. -/
theorem Stays.inner_char (opener : isOpener c = false) (closer : isCloser c = false) :
    Stays separators 1 [c] := by
  intro depth deep current more
  have inside : (depth != 0) = true := bne_iff_ne.mpr (Nat.ne_of_gt deep)
  rw [List.singleton_append, cutFrom_cons, if_pos (by rw [inside, Bool.or_true]), depthAfter, opener, closer]
  rfl

theorem separatorAt?_singleton {separator : Char} (other : c ≠ separator) :
    separatorAt? [[separator]] (c :: text) = none := by
  simp [separatorAt?, Ne.symm other]

theorem Stays.char {separator : Char} (opener : isOpener c = false) (closer : isCloser c = false)
    (other : c ≠ separator) : Stays [[separator]] floor [c] := by
  intro depth _ current more
  by_cases inside : depth = 0
  · rw [List.singleton_append, cutFrom_cons, if_neg (by simp [opener, closer, inside]), separatorAt?_singleton other]
    rfl
  · exact Stays.inner_char opener closer depth (Nat.pos_of_ne_zero inside) current more

theorem Stays.of_forall (each : ∀ c ∈ text, Stays separators floor [c]) : Stays separators floor text := by
  induction text with
  | nil => exact .nil
  | cons c text ih =>
    obtain ⟨first, later⟩ := List.forall_mem_cons.mp each
    exact first.append (ih later)

/-- What stays below a bracket stays everywhere between two brackets. -/
theorem Stays.bracket {opening closing : Char} (opener : isOpener opening = true)
    (closer : isCloser closing = true) (same : isOpener closing = false) (inner : Stays separators 1 text) :
    Stays separators floor (opening :: (text ++ [closing])) := by
  intro depth _ current more
  rw [List.cons_append, cutFrom_cons, if_pos (by rw [opener]; rfl), List.append_assoc, depthAfter, if_pos opener,
    inner (depth + 1) (Nat.le_add_left 1 depth), List.singleton_append, cutFrom_cons,
    if_pos (by rw [closer, Bool.or_true]; rfl), depthAfter, same, closer]
  simp

/-- Without separators nothing is cut. -/
theorem splitTopLevel_nil (some : trimChars isBlank text ≠ []) : splitTopLevel [] text = [trimChars isBlank text] := by
  have whole : ∀ depth current, cutFrom [] depth current 0 text = [current.reverse ++ text] := by
    intro depth current
    clear some
    induction text generalizing depth current with
    | nil => rw [cutFrom_nil, List.append_nil]
    | cons c text ih =>
      rw [cutFrom_cons]
      split
      · rw [ih, List.reverse_cons, List.append_assoc]
        rfl
      · show cutFrom [] depth (c :: current) 0 text = _
        rw [ih, List.reverse_cons, List.append_assoc]
        rfl
  simp [splitTopLevel, whole, some]

/-- What has been read of a piece stands in front of the first piece. -/
theorem cutFrom_current (current earlier : List Char) (skip : Nat) :
    cutFrom separators depth (current ++ earlier) skip text =
      (cutFrom separators depth current skip text).modifyHead (earlier.reverse ++ ·) := by
  induction text generalizing depth current skip with
  | nil => simp [cutFrom_nil]
  | cons c text ih =>
    cases skip with
    | succ skip => exact ih current skip
    | zero =>
      rw [cutFrom_cons, cutFrom_cons]
      split
      · exact ih (c :: current) 0
      · split
        · simp
        · exact ih (c :: current) 0

theorem cutFrom_ne_nil (separators : List (List Char)) (depth : Nat) (current : List Char) (skip : Nat)
    (text : List Char) : cutFrom separators depth current skip text ≠ [] := by
  induction text generalizing depth current skip with
  | nil => exact List.cons_ne_nil _ _
  | cons c text ih =>
    cases skip with
    | succ skip => exact ih depth current skip
    | zero =>
      rw [cutFrom_cons]
      split
      · exact ih _ (c :: current) 0
      · split
        · exact List.cons_ne_nil _ _
        · exact ih _ (c :: current) 0

/-- A piece stands in the text as it is, with what has been read of it in front. -/
theorem infix_of_mem_cutFrom {piece current : List Char} {skip : Nat}
    (member : piece ∈ cutFrom separators depth current skip text) : piece <:+: current.reverse ++ text.drop skip := by
  induction text generalizing depth current skip with
  | nil =>
    rw [cutFrom_nil, List.mem_singleton] at member
    subst member
    exact (List.prefix_append _ _).isInfix
  | cons c text ih =>
    cases skip with
    | succ skip => exact ih member
    | zero =>
      have grown : (c :: current).reverse ++ text = current.reverse ++ c :: text := by
        rw [List.reverse_cons, List.append_assoc, List.singleton_append]
      rw [cutFrom_cons] at member
      rw [List.drop_zero]
      split at member
      · exact grown ▸ ih member
      · split at member
        · rcases List.mem_cons.mp member with rfl | later
          · exact (List.prefix_append _ _).isInfix
          · have after := (ih later).trans (List.drop_suffix _ text).isInfix
            exact after.trans ((List.suffix_cons c text).trans (List.suffix_append _ _)).isInfix
        · exact grown ▸ ih member

theorem infix_of_mem_splitTopLevel {piece : List Char} (member : piece ∈ splitTopLevel separators text) :
    piece <:+: text := by
  obtain ⟨whole, cut, rfl⟩ := List.mem_map.mp (List.mem_of_mem_filter member)
  exact (isInfix_trimChars isBlank whole).trans (infix_of_mem_cutFrom cut)

/-- A text that starts neither with a blank nor with the separator has a first piece with the same start. -/
theorem splitTopLevel_cons {separator : Char} (bare : isBlank c = false) (other : c ≠ separator) (rest : List Char) :
    ∃ more pieces, splitTopLevel [[separator]] (c :: rest) = (c :: more) :: pieces := by
  obtain ⟨depth, entered⟩ : ∃ depth, cutFrom [[separator]] 0 [] 0 (c :: rest) =
      cutFrom [[separator]] depth ([] ++ [c]) 0 rest := by
    rw [cutFrom_cons, separatorAt?_singleton other]
    split
    · exact ⟨_, rfl⟩
    · exact ⟨0, rfl⟩
  obtain ⟨piece, pieces, cut⟩ := List.exists_cons_of_ne_nil
    (cutFrom_ne_nil [[separator]] depth [] 0 rest)
  obtain ⟨more, kept⟩ := exists_trimChars_cons bare piece
  rw [cutFrom_current, cut] at entered
  refine ⟨more, (pieces.map (trimChars isBlank)).filter (!·.isEmpty), ?_⟩
  rw [splitTopLevel, entered, List.modifyHead_cons, List.map_cons, List.reverse_singleton, List.singleton_append, kept]
  rfl

/-- A text of blanks only. -/
abbrev Blanks (pad : List Char) : Prop :=
  ∀ c ∈ pad, isBlank c = true

theorem map_cutFrom_behind {separator : Char} {current behind : List Char}
    (pads : Stays [[separator]] 0 behind) (blank : Blanks behind) :
    (cutFrom [[separator]] depth current 0 (text ++ behind)).map (trimChars isBlank) =
      (cutFrom [[separator]] depth current 0 text).map (trimChars isBlank) := by
  induction text generalizing depth current with
  | nil =>
    have last := pads depth (Nat.zero_le depth) current []
    rw [List.append_nil] at last
    rw [List.nil_append, last, cutFrom_nil, cutFrom_nil, List.reverse_append, List.reverse_reverse]
    exact congrArg (fun piece => [piece]) (@trimChars_surrounded isBlank [] current.reverse behind nofun blank)
  | cons c text ih =>
    rw [List.cons_append, cutFrom_cons, cutFrom_cons]
    split
    · exact ih
    · by_cases here : c = separator
      · have found : ∀ more, separatorAt? [[separator]] (c :: more) = some [separator] := by
          intro more
          simp [separatorAt?, here]
        rw [found, found, List.map_cons, List.map_cons]
        exact congrArg _ ih
      · rw [separatorAt?_singleton here, separatorAt?_singleton here]
        exact ih

/-- Blanks around a text make no difference to its pieces. -/
theorem splitTopLevel_trimChars {separator : Char} (pad : ∀ c, isBlank c = true → Stays [[separator]] 0 [c])
    (text : List Char) : splitTopLevel [[separator]] (trimChars isBlank text) = splitTopLevel [[separator]] text := by
  obtain ⟨ahead, behind, blank, blank', same⟩ := exists_padding isBlank text
  generalize trimChars isBlank text = kept at same
  have pads : ∀ pad : List Char, Blanks pad → Stays [[separator]] 0 pad :=
    fun _ bare => .of_forall fun c member => pad c (bare c member)
  have cut : (cutFrom [[separator]] 0 [] 0 text).map (trimChars isBlank) =
      (cutFrom [[separator]] 0 [] 0 kept).map (trimChars isBlank) := by
    rw [same, (pads ahead blank).start, map_cutFrom_behind (pads behind blank') blank', ← List.nil_append ahead.reverse,
      cutFrom_current, List.reverse_reverse]
    obtain ⟨piece, pieces, first⟩ := List.exists_cons_of_ne_nil
      (cutFrom_ne_nil [[separator]] 0 [] 0 kept)
    have head : trimChars isBlank (ahead ++ piece) = trimChars isBlank piece := by
      have surrounded := @trimChars_surrounded isBlank ahead piece [] blank nofun
      rwa [List.append_nil] at surrounded
    rw [first, List.modifyHead_cons, List.map_cons, List.map_cons, head]
  rw [splitTopLevel, splitTopLevel, cut]

/-- Texts joined by a separator, with blanks around it. -/
inductive Links (separator : Char) : List (List Char) → List Char → Prop
  | single (text : List Char) : Links separator [text] text
  | next {texts : List (List Char)} {rest : List Char} (text before after : List Char) :
      Blanks before → Blanks after → Links separator texts rest →
      Links separator (text :: texts) (text ++ (before ++ separator :: (after ++ rest)))

variable {separator : Char} {texts : List (List Char)}

theorem Links.ne_nil (links : Links separator texts text) : texts ≠ [] := by
  cases links <;> exact List.cons_ne_nil _ _

/-- A condition on texts that holds of blanks and of the separator holds of the joined text. -/
theorem Links.holds {holds : List Char → Prop} (links : Links separator texts text)
    (append : ∀ left right, holds left → holds right → holds (left ++ right))
    (blanks : ∀ pad, Blanks pad → holds pad) (mark : holds [separator])
    (each : ∀ text ∈ texts, holds text) : holds text := by
  induction links with
  | single text => exact each text List.mem_cons_self
  | next text before after bare bare' _ ih =>
    obtain ⟨first, later⟩ := List.forall_mem_cons.mp each
    exact append _ _ first (append _ _ (blanks before bare)
      (append [separator] _ mark (append _ _ (blanks after bare') (ih later))))

/-- The joined text starts with one of the texts. -/
theorem Links.starts (links : Links separator texts text) : ∃ first ∈ texts, ∃ rest, text = first ++ rest := by
  cases links with
  | single => exact ⟨text, List.mem_cons_self, [], (List.append_nil text).symm⟩
  | next first before after => exact ⟨first, List.mem_cons_self, _, rfl⟩

/-- There is one text only, or the last one stands behind a separator and blanks. -/
theorem Links.ends (links : Links separator texts text) : texts = [text] ∨
    ∃ front after last, texts.getLast? = some last ∧ Blanks after ∧ text = front ++ separator :: (after ++ last) := by
  induction links with
  | single => exact .inl rfl
  | @next texts rest text before after _ bare links ih =>
    right
    rcases ih with rfl | ⟨front, pad, last, final, bare', rfl⟩
    · exact ⟨text ++ before, after, rest, rfl, bare, (List.append_assoc ..).symm⟩
    · obtain ⟨second, more, rfl⟩ := List.exists_cons_of_ne_nil links.ne_nil
      exact ⟨text ++ (before ++ separator :: (after ++ front)), pad, last, final, bare', by simp⟩

theorem Links.trimmed (links : Links separator texts text)
    (each : ∀ text ∈ texts, text ≠ [] ∧ trimChars isBlank text = text) : trimChars isBlank text = text := by
  refine trimChars_eq_self_iff.mpr ⟨?_, ?_⟩
  · obtain ⟨first, among, rest, rfl⟩ := links.starts
    obtain ⟨some, trimmed⟩ := each first among
    rw [List.head?_append_of_ne_nil _ some]
    exact (trimChars_eq_self_iff.mp trimmed).1
  · rcases links.ends with single | ⟨front, after, last, final, -, rfl⟩
    · have among : text ∈ texts := single ▸ List.mem_singleton_self text
      exact (trimChars_eq_self_iff.mp (each text among).2).2
    · obtain ⟨some, trimmed⟩ := each last (List.mem_of_getLast? final)
      rw [List.getLast?_append_of_ne_nil _ (List.cons_ne_nil _ _), ← List.cons_append,
        List.getLast?_append_of_ne_nil _ some]
      exact (trimChars_eq_self_iff.mp trimmed).2

theorem Links.last_entry {α : Type} {entries : List (α × List Char)}
    (links : Links separator (entries.map Prod.snd) text) (several : 2 ≤ entries.length) :
    ∃ front after entry, entries.getLast? = some entry ∧ Blanks after ∧
      text = front ++ separator :: (after ++ entry.2) := by
  rcases links.ends with single | ⟨front, after, last, final, bare, same⟩
  · have one := congrArg List.length single
    rw [List.length_map, List.length_singleton] at one
    omega
  · rw [List.getLast?_map] at final
    obtain ⟨entry, last, rfl⟩ := Option.map_eq_some_iff.mp final
    exact ⟨front, after, entry, last, bare, same⟩

/-- Texts with a separator behind each of them. -/
inductive Leads (separator : Char) : List (List Char) → List Char → Prop
  | nil : Leads separator [] []
  | cons {texts : List (List Char)} {rest : List Char} (text before after : List Char) :
      Blanks before → Blanks after → Leads separator texts rest →
      Leads separator (text :: texts) (text ++ (before ++ separator :: (after ++ rest)))

/-- Joined texts with a separator before them, if there are any. -/
inductive Trails (separator : Char) : List (List Char) → List Char → Prop
  | nil : Trails separator [] []
  | cons {texts : List (List Char)} {rest : List Char} (before after : List Char) :
      Blanks before → Blanks after → Links separator texts rest →
      Trails separator texts (before ++ separator :: (after ++ rest))

variable {front back : List (List Char)} {left right : List Char}

theorem Links.around (leads : Leads separator front left) (trails : Trails separator back right) (text : List Char) :
    Links separator (front ++ text :: back) (left ++ (text ++ right)) := by
  induction leads with
  | nil =>
    cases trails with
    | nil => rw [List.append_nil]; exact .single text
    | cons before after bare bare' links => exact .next text before after bare bare' links
  | @cons texts rest first before after bare bare' _ ih =>
    have regrouped : first ++ (before ++ separator :: (after ++ rest)) ++ (text ++ right) =
        first ++ (before ++ separator :: (after ++ (rest ++ (text ++ right)))) := by simp
    rw [regrouped]
    exact .next first before after bare bare' ih

theorem Trails.ne_nil (trails : Trails separator texts text) (some : texts ≠ []) : text ≠ [] := by
  cases trails with
  | nil => exact absurd rfl some
  | cons before => exact List.append_ne_nil_of_right_ne_nil before (List.cons_ne_nil _ _)

/-- Each of the joined texts stands between those before it and those behind it. -/
theorem Links.part {piece : List Char} (links : Links separator (front ++ piece :: back) text) :
    ∃ left right, Leads separator front left ∧ Trails separator back right ∧ text = left ++ (piece ++ right) := by
  induction front generalizing text with
  | nil =>
    cases links with
    | single => exact ⟨[], [], .nil, .nil, (List.append_nil piece).symm⟩
    | next _ before after bare bare' links => exact ⟨[], _, .nil, .cons before after bare bare' links, rfl⟩
  | cons first front ih =>
    rw [List.cons_append] at links
    generalize texts : front ++ piece :: back = rest at links
    cases links with
    | single => exact absurd texts (List.append_ne_nil_of_right_ne_nil _ (List.cons_ne_nil _ _))
    | next _ before after bare bare' links =>
      subst texts
      obtain ⟨left, right, leads, trails, rfl⟩ := ih links
      have leads := Leads.cons first before after bare bare' leads
      exact ⟨first ++ (before ++ separator :: (after ++ left)), right, leads, trails, by simp⟩

/-- Read past blanks, a joined text is cut at its separators, where these are no brackets and cut neither the blanks
nor the texts. -/
theorem Links.map_cutFrom (links : Links separator texts text) (opener : isOpener separator = false)
    (closer : isCloser separator = false) (pads : ∀ pad, Blanks pad → Stays [[separator]] 0 pad)
    (each : ∀ text ∈ texts, Stays [[separator]] 0 text ∧ trimChars isBlank text = text)
    {ahead behind : List Char} (blank : Blanks ahead) (blank' : Blanks behind) :
    (cutFrom [[separator]] 0 ahead.reverse 0 (text ++ behind)).map (trimChars isBlank) = texts := by
  -- what is read before the first text is a pad each time: the one ahead, then those behind the separators
  induction links generalizing ahead with
  | single text =>
    obtain ⟨stays, trimmed⟩ := each text List.mem_cons_self
    have last := pads behind blank' 0 (Nat.le_refl 0) (text.reverse ++ ahead.reverse) []
    rw [List.append_nil] at last
    rw [stays 0 (Nat.le_refl 0), last, cutFrom_nil]
    simp [trimChars_padded trimmed blank blank']
  | @next texts rest text before after bare bare' _ ih =>
    obtain ⟨⟨stays, trimmed⟩, later⟩ := List.forall_mem_cons.mp each
    have found : separatorAt? [[separator]] (separator :: (after ++ rest ++ behind)) = some [separator] := by
      simp [separatorAt?]
    have regrouped : text ++ (before ++ separator :: (after ++ rest)) ++ behind =
        text ++ (before ++ separator :: (after ++ rest ++ behind)) := by simp
    rw [regrouped, stays 0 (Nat.le_refl 0), pads before bare 0 (Nat.le_refl 0), cutFrom_cons,
      if_neg (by simp [opener, closer]), found, List.map_cons]
    refine congrArg₂ _ ?_ ?_
    · rw [List.reverse_append, List.reverse_append, List.reverse_reverse, List.reverse_reverse,
        List.reverse_reverse, List.append_assoc]
      exact trimChars_padded trimmed blank bare
    · show (cutFrom [[separator]] 0 [] 0 (after ++ rest ++ behind)).map _ = texts
      rw [List.append_assoc, (pads after bare').start]
      exact ih later bare'

/-- A separator that is no bracket, between texts that it does not cut, cuts just there. -/
theorem Links.splitTopLevel (links : Links separator texts text) (opener : isOpener separator = false)
    (closer : isCloser separator = false) (pad : ∀ c, isBlank c = true → Stays [[separator]] 0 [c])
    (each : ∀ text ∈ texts, Stays [[separator]] 0 text ∧ trimChars isBlank text = text ∧ text ≠ [])
    {ahead behind : List Char} (blank : Blanks ahead) (blank' : Blanks behind) :
    splitTopLevel [[separator]] (ahead ++ (text ++ behind)) = texts := by
  have pads : ∀ text : List Char, Blanks text → Stays [[separator]] 0 text :=
    fun _ bare => .of_forall fun c member => pad c (bare c member)
  have cut := links.map_cutFrom opener closer pads (fun text among => ⟨(each text among).1, (each text among).2.1⟩)
    blank blank'
  rw [TypeExpr.splitTopLevel, (pads ahead blank).start, cut, List.filter_eq_self]
  exact fun text among => by simpa using (each text among).2.2

end CodeGraph.TypeExpr
