import CodeGraph.Proofs.Json.Tokens

namespace CodeGraph

theorem Members.set_of_notMem {members : Members} {key : String} (new : key ∉ members.map (·.1)) (value : Json) :
    members.set key value = members ++ [(key, value)] := by
  induction members with
  | nil => rfl
  | cons member rest ih =>
    simp only [List.map_cons, List.mem_cons, not_or] at new
    rw [Members.set, if_neg (by simpa using Ne.symm new.1), ih new.2]
    rfl

namespace Json

/-- A value that has a written form of its own: its integers are short enough to be read, and its objects have
each key once. -/
inductive IsPlain : Json → Prop
  | null : IsPlain .null
  | bool (b : Bool) : IsPlain (.bool b)
  | int {i : Int} (short : (Nat.toDigits 10 i.natAbs).length ≤ Decimal.digitLimit) : IsPlain (.int i)
  | float (x : Float) : IsPlain (.float x)
  | str (s : String) : IsPlain (.str s)
  | arr {items : List Json} (each : ∀ item ∈ items, IsPlain item) : IsPlain (.arr items)
  | obj {members : Members} (distinct : (members.map (·.1)).Nodup)
      (each : ∀ member ∈ members, IsPlain member.2) : IsPlain (.obj members)

section Scalars

variable {rest : List Char} {fuel : Nat}

/-- A character of a word or a number. -/
def IsBare (c : Char) : Prop :=
  isSpace c = false ∧ c ∉ ['"', '[', ']', '\x7b', '\uFEFF']

instance (c : Char) : Decidable (IsBare c) :=
  inferInstanceAs (Decidable (_ ∧ _))

theorem isBare_of_isDigit {c : Char} (digit : c.isDigit = true) : IsBare c := by
  have other (d : Char) (sign : d.isDigit = false) : c ≠ d := ne_of_isDigit digit sign
  constructor
  · simp [isSpace, other ' ' rfl, other '\t' rfl, other '\n' rfl, other '\x0d' rfl]
  · simp [other '"' rfl, other '[' rfl, other ']' rfl, other '\x7b' rfl, other '\uFEFF' rfl]

/-- A text that starts with a word or a number. -/
structure ReadsAs (chars : List Char) (value : Json) (rest : List Char) : Prop where
  bare : ∃ c more, chars = c :: more ∧ IsBare c
  token : readWord? chars = some (value, rest) ∨
    readWord? chars = none ∧ readNumber? chars = some (.ok (value, rest))

theorem ReadsAs.read {chars : List Char} {value : Json} (reads : ReadsAs chars value rest) :
    readValue (fuel + 1) chars = .ok (value, rest) := by
  obtain ⟨⟨c, more, rfl, -, bare⟩, token⟩ := reads
  simp only [List.mem_cons, not_or] at bare
  unfold readValue
  split
  · rename_i quote
    exact absurd (List.cons_eq_cons.mp quote).1 bare.1
  · rename_i brace
    exact absurd (List.cons_eq_cons.mp brace).1 bare.2.2.2.1
  · rename_i bracket
    exact absurd (List.cons_eq_cons.mp bracket).1 bare.2.1
  · rcases token with word | ⟨word, number⟩
    · rw [word]
    · rw [word, number]

theorem ReadsAs.signed {minus : Bool} {c : Char} {more : List Char} {value : Json} (digit : c.isDigit = true)
    (number : readNumber? ((if minus then ['-'] else []) ++ c :: more) = some (.ok (value, rest))) :
    ReadsAs ((if minus then ['-'] else []) ++ c :: more) value rest := by
  refine ⟨?_, .inr ⟨readWord?_signed minus digit, number⟩⟩
  cases minus with
  | true => exact ⟨'-', _, rfl, by decide⟩
  | false => exact ⟨c, more, rfl, isBare_of_isDigit digit⟩

theorem readsAs_null : ReadsAs ("null".toList ++ rest) .null rest :=
  ⟨⟨'n', _, rfl, by decide⟩, .inl rfl⟩

theorem readsAs_bool (b : Bool) : ReadsAs ((if b then "true" else "false" : String).toList ++ rest) (.bool b) rest := by
  cases b with
  | true => exact ⟨⟨'t', _, rfl, by decide⟩, .inl rfl⟩
  | false => exact ⟨⟨'f', _, rfl, by decide⟩, .inl rfl⟩

theorem readsAs_int {i : Int} (short : (Nat.toDigits 10 i.natAbs).length ≤ Decimal.digitLimit)
    (ends : EndsNumber rest) : ReadsAs ((toString i).toList ++ rest) (.int i) rest := by
  have number := readNumber?_toString short ends
  obtain ⟨c, more, first⟩ := List.exists_cons_of_ne_nil (@Nat.toDigits_ne_nil i.natAbs 10)
  rw [toList_toString, List.append_assoc, first, List.cons_append] at number ⊢
  exact .signed (Decimal.isDigit_toDigits i.natAbs c (by simp [first])) number

theorem readsAs_float (x : Float) (ends : EndsNumber rest) :
    ReadsAs ((numberText x).toList ++ rest) (.float x) rest := by
  unfold numberText
  split
  · rename_i nan
    rw [Decimal.eq_of_isNaN nan]
    exact ⟨⟨'N', _, rfl, by decide⟩, .inl rfl⟩
  split
  · rename_i inf
    rcases Decimal.eq_of_isInf inf with rfl | rfl
    · exact ⟨⟨'I', _, rfl, by decide⟩, .inl rfl⟩
    · exact ⟨⟨'-', _, rfl, by decide⟩, .inl rfl⟩
  · rename_i notNaN notInf
    rw [Bool.not_eq_true] at notNaN notInf
    have finite := Decimal.isFinite_of_not notNaN notInf
    have wellFormed := Decimal.wellFormed_shortest finite
    have sign : (if Decimal.isNegative x then "-" else "" : String).toList =
        if Decimal.isNegative x then ['-'] else [] := by
      cases Decimal.isNegative x <;> rfl
    have number := readNumber?_spelling wellFormed (Decimal.isNegative x) ends
    rw [Decimal.signed_shortest finite] at number
    unfold Decimal.text
    rw [notNaN, notInf, if_neg Bool.false_ne_true, if_neg Bool.false_ne_true, String.toList_append, sign,
      Decimal.Digits.toList_text, List.append_assoc]
    obtain ⟨c, more, whole, digit⟩ := wellFormed.whole
    rw [Decimal.Spelling.chars, whole] at number ⊢
    exact .signed digit number

end Scalars

section Layout

variable {ascii : Bool} {depth : Nat}

theorem escapeChar_ne_nil (ascii : Bool) (c : Char) : escapeChar ascii c ≠ [] := by
  unfold escapeChar
  dsimp only
  repeat' split
  all_goals simp [unitEscape]

theorem length_le_escaped (ascii : Bool) (chars : List Char) :
    chars.length ≤ (chars.flatMap (escapeChar ascii)).length := by
  induction chars with
  | nil => exact Nat.le_refl _
  | cons c chars ih =>
    have some := List.length_pos_iff.mpr (escapeChar_ne_nil ascii c)
    rw [List.flatMap_cons, List.length_append, List.length_cons]
    omega

theorem toList_quote (ascii : Bool) (s : String) :
    (quote ascii s).toList = '"' :: (s.toList.flatMap (escapeChar ascii) ++ ['"']) := by
  rw [quote, String.toList_ofList]
  rfl

theorem toList_newline (depth : Nat) : (newline depth).toList = '\n' :: List.replicate (2 * depth) ' ' := by
  simp [newline]

/-- A character that a reader does not skip. -/
def Starts (chars : List Char) : Prop :=
  ∀ c ∈ chars.head?, isSpace c = false

theorem starts_cons {c : Char} (kept : isSpace c = false) (rest : List Char) : Starts (c :: rest) := by
  rintro d ⟨⟩
  exact kept

theorem skipSpace_of_starts {chars : List Char} (starts : Starts chars) : skipSpace chars = chars := by
  cases chars with
  | nil => rfl
  | cons c rest => exact List.dropWhile_cons_of_neg (by simp [starts c rfl])

theorem skipSpace_newline (depth : Nat) {chars : List Char} (starts : Starts chars) :
    skipSpace ((newline depth).toList ++ chars) = chars := by
  have blank : ∀ c ∈ (newline depth).toList, isSpace c = true := by
    rw [toList_newline]
    intro c member
    rcases List.mem_cons.mp member with rfl | blank
    · rfl
    · rw [List.eq_of_mem_replicate blank]
      rfl
  rw [skipSpace, List.dropWhile_append_of_pos blank]
  exact skipSpace_of_starts starts

theorem endsNumber_newline (depth : Nat) (chars : List Char) : EndsNumber ((newline depth).toList ++ chars) := by
  rw [toList_newline]
  intro c first
  cases first
  decide

theorem endsNumber_comma (chars : List Char) : EndsNumber (',' :: chars) := by
  intro c first
  cases first
  decide

/-- The written items of a list. -/
def itemsText (ascii : Bool) (depth : Nat) (items : List Json) : List Char :=
  (("," ++ newline depth).intercalate (indentedItems ascii depth items)).toList

/-- The written members of an object. -/
def membersText (ascii : Bool) (depth : Nat) (members : Members) : List Char :=
  (("," ++ newline depth).intercalate (indentedMembers ascii depth members)).toList

theorem itemsText_singleton (item : Json) :
    itemsText ascii depth [item] = (indentedAt ascii depth item).toList := by
  simp [itemsText, indentedItems]

theorem itemsText_cons (item next : Json) (rest : List Json) :
    itemsText ascii depth (item :: next :: rest) =
      (indentedAt ascii depth item).toList ++
        ',' :: ((newline depth).toList ++ itemsText ascii depth (next :: rest)) := by
  simp [itemsText, indentedItems, String.intercalate_cons_cons]

theorem membersText_singleton (key : String) (value : Json) :
    membersText ascii depth [(key, value)] =
      (quote ascii key).toList ++ ':' :: ' ' :: (indentedAt ascii depth value).toList := by
  simp [membersText, indentedMembers]

theorem membersText_cons (key : String) (value : Json) (next : String × Json) (rest : Members) :
    membersText ascii depth ((key, value) :: next :: rest) =
      (quote ascii key).toList ++ ':' :: ' ' :: ((indentedAt ascii depth value).toList ++
        ',' :: ((newline depth).toList ++ membersText ascii depth (next :: rest))) := by
  obtain ⟨nextKey, nextValue⟩ := next
  simp [membersText, indentedMembers, String.intercalate_cons_cons]

theorem toList_indentedAt_arr {items : List Json} (some : items ≠ []) :
    (indentedAt ascii depth (.arr items)).toList =
      '[' :: ((newline (depth + 1)).toList ++
        (itemsText ascii (depth + 1) items ++ ((newline depth).toList ++ [']']))) := by
  cases items with
  | nil => exact absurd rfl some
  | cons item rest => simp [indentedAt, itemsText]

theorem toList_indentedAt_obj {members : Members} (some : members ≠ []) :
    (indentedAt ascii depth (.obj members)).toList =
      '\x7b' :: ((newline (depth + 1)).toList ++
        (membersText ascii (depth + 1) members ++ ((newline depth).toList ++ ['\x7d']))) := by
  cases members with
  | nil => exact absurd rfl some
  | cons member rest => simp [indentedAt, membersText]

/-- What a value starts with: neither space nor the end of a list nor a byte order mark. -/
def Opens (chars : List Char) : Prop :=
  ∃ c rest, chars = c :: rest ∧ isSpace c = false ∧ c ∉ [']', '\uFEFF']

theorem ReadsAs.opens {chars : List Char} {value : Json} (reads : ReadsAs (chars ++ []) value []) : Opens chars := by
  obtain ⟨⟨c, more, start, space, bare⟩, -⟩ := reads
  rw [List.append_nil] at start
  simp only [List.mem_cons, not_or] at bare
  exact ⟨c, more, start, space, by simp [bare]⟩

theorem opens_indentedAt {value : Json} (plain : value.IsPlain) : Opens (indentedAt ascii depth value).toList := by
  have ends : EndsNumber [] := by simp [EndsNumber]
  cases plain with
  | null => exact readsAs_null.opens
  | bool b => exact (readsAs_bool b).opens
  | int short => exact (readsAs_int short ends).opens
  | float x => exact (readsAs_float x ends).opens
  | str s => exact ⟨_, _, toList_quote ascii s, by decide, by decide⟩
  | @arr items =>
    cases items with
    | nil => exact ⟨'[', [']'], by simp [indentedAt], by decide, by decide⟩
    | cons item rest => exact ⟨_, _, toList_indentedAt_arr (by simp), by decide, by decide⟩
  | @obj members =>
    cases members with
    | nil => exact ⟨'\x7b', ['\x7d'], by simp [indentedAt], by decide, by decide⟩
    | cons member rest => exact ⟨_, _, toList_indentedAt_obj (by simp), by decide, by decide⟩

theorem Opens.starts {chars : List Char} (opens : Opens chars) (more : List Char) : Starts (chars ++ more) := by
  obtain ⟨c, rest, rfl, space, -⟩ := opens
  exact starts_cons space _

end Layout

theorem opens_itemsText {ascii : Bool} {depth : Nat} {items : List Json} (present : items ≠ [])
    (plain : ∀ item ∈ items, IsPlain item) : Opens (itemsText ascii depth items) := by
  obtain ⟨item, rest, rfl⟩ := List.exists_cons_of_ne_nil present
  obtain ⟨c, more, first, outside⟩ := @opens_indentedAt ascii depth item (plain item List.mem_cons_self)
  cases rest with
  | nil => exact ⟨c, more, by rw [itemsText_singleton, first], outside⟩
  | cons next rest => exact ⟨c, _, by rw [itemsText_cons, first]; rfl, outside⟩

theorem membersText_eq_cons {ascii : Bool} {depth : Nat} {members : Members} (present : members ≠ []) :
    ∃ rest, membersText ascii depth members = '"' :: rest := by
  obtain ⟨⟨key, value⟩, rest, rfl⟩ := List.exists_cons_of_ne_nil present
  cases rest with
  | nil => exact ⟨_, by rw [membersText_singleton, toList_quote]; rfl⟩
  | cons next rest => exact ⟨_, by rw [membersText_cons, toList_quote]; rfl⟩

/-- A written string is read back. -/
theorem readString_quote (ascii : Bool) (s : String) (start : Nat) (rest : List Char) :
    readString start [] ((s.toList.flatMap (escapeChar ascii) ++ '"' :: rest).length + 1)
      (s.toList.flatMap (escapeChar ascii) ++ '"' :: rest) = .ok (s, rest) := by
  have long := length_le_escaped ascii s.toList
  have enough : s.toList.length < (s.toList.flatMap (escapeChar ascii) ++ '"' :: rest).length + 1 := by
    rw [List.length_append, List.length_cons]
    omega
  rw [readString_escaped ascii s.toList rest enough]
  simp

/-- A value that is read back from its text, whatever stands after it. -/
def ReadsBack (ascii : Bool) (depth : Nat) (value : Json) : Prop :=
  ∀ (fuel : Nat) (rest : List Char), EndsNumber rest → (indentedAt ascii depth value).toList.length < fuel →
    readValue fuel ((indentedAt ascii depth value).toList ++ rest) = .ok (value, rest)

theorem ReadsBack.of_succ {ascii : Bool} {depth : Nat} {value : Json}
    (reads : ∀ (fuel : Nat) (rest : List Char), EndsNumber rest →
      (indentedAt ascii depth value).toList.length ≤ fuel →
      readValue (fuel + 1) ((indentedAt ascii depth value).toList ++ rest) = .ok (value, rest)) :
    ReadsBack ascii depth value := by
  intro fuel rest ends enough
  obtain ⟨fuel, rfl⟩ := Nat.exists_eq_add_one_of_ne_zero (Nat.ne_of_gt (Nat.zero_lt_of_lt enough))
  exact reads fuel rest ends (Nat.le_of_lt_succ enough)

section Rows

variable {ascii : Bool} {depth fuel : Nat} {rest after : List Char}

theorem readValue_items {chars : List Char} (opens : Opens chars) (more : List Char) :
    readValue (fuel + 1) ('[' :: ((newline depth).toList ++ (chars ++ more))) = readItems fuel [] (chars ++ more) := by
  have skipped := skipSpace_newline depth (opens.starts more)
  obtain ⟨c, chars, rfl, -, other⟩ := opens
  simp only [readValue]
  rw [skipped]
  split
  · rename_i bracket
    exact absurd (List.cons_eq_cons.mp bracket).1 fun same => other (by simp [same])
  · rfl

theorem readItems_last {found : List Json} {item : Json} {chars : List Char}
    (read : readValue fuel chars = .ok (item, rest)) (closes : skipSpace rest = ']' :: after) :
    readItems (fuel + 1) found chars = .ok (.arr (found.reverse ++ [item]), after) := by
  rw [readItems, read]
  simp only [bind, Except.bind]
  rw [closes]
  simp

theorem readItems_next {found : List Json} {item : Json} {chars : List Char}
    (read : readValue fuel chars = .ok (item, ',' :: rest)) :
    readItems (fuel + 1) found chars = readItems fuel (item :: found) (skipSpace rest) := by
  rw [readItems, read]
  rfl

/-- The items of a list are read back one after the other. -/
theorem readItems_itemsText {items : List Json} (present : items ≠ [])
    (each : ∀ item ∈ items, IsPlain item ∧ ReadsBack ascii depth item) (found : List Json)
    (closes : skipSpace rest = ']' :: after) (ends : EndsNumber rest)
    (enough : (itemsText ascii depth items).length + 1 < fuel) :
    readItems fuel found (itemsText ascii depth items ++ rest) = .ok (.arr (found.reverse ++ items), after) := by
  induction items generalizing found fuel with
  | nil => exact absurd rfl present
  | cons item items ih =>
    obtain ⟨fuel, rfl⟩ := Nat.exists_eq_add_one_of_ne_zero (Nat.ne_of_gt (Nat.zero_lt_of_lt enough))
    have reads := (each item List.mem_cons_self).2
    cases items with
    | nil =>
      rw [itemsText_singleton] at enough ⊢
      exact readItems_last (reads fuel rest ends (by omega)) closes
    | cons next items =>
      have each' := (List.forall_mem_cons.mp each).2
      have present' : next :: items ≠ [] := List.cons_ne_nil _ _
      have opens := @opens_itemsText ascii depth _ present' fun item member => (each' item member).1
      rw [itemsText_cons, List.length_append, List.length_cons, List.length_append] at enough
      rw [itemsText_cons, List.append_assoc, List.cons_append, List.append_assoc,
        readItems_next (reads fuel _ (endsNumber_comma _) (by omega)),
        skipSpace_newline depth (opens.starts rest), ih present' each' (item :: found) (by omega)]
      simp

theorem readValue_members {members : Members} (present : members ≠ []) (more : List Char) :
    readValue (fuel + 1) ('\x7b' :: ((newline depth).toList ++ (membersText ascii depth members ++ more))) =
      readMembers fuel [] (membersText ascii depth members ++ more) := by
  obtain ⟨chars, first⟩ := @membersText_eq_cons ascii depth _ present
  have starts : Starts (membersText ascii depth members ++ more) := by
    rw [first]
    exact starts_cons rfl _
  simp only [readValue]
  rw [skipSpace_newline depth starts, first]
  rfl

theorem readMembers_member {found : Members} {key : String} {value : Json} {chars : List Char}
    (opens : Starts chars) (read : readValue fuel chars = .ok (value, rest)) :
    readMembers (fuel + 1) found ((quote ascii key).toList ++ ':' :: ' ' :: chars) =
      match skipSpace rest with
      | '\x7d' :: rest => .ok (.obj (found.set key value), rest)
      | ',' :: rest => readMembers fuel (found.set key value) (skipSpace rest)
      | rest => .error ⟨.expectedComma, rest.length⟩ := by
  have colon : skipSpace (':' :: ' ' :: chars) = ':' :: ' ' :: chars := rfl
  have blank : skipSpace (' ' :: chars) = chars := skipSpace_of_starts opens
  rw [toList_quote, List.cons_append, List.append_assoc, List.singleton_append, readMembers]
  simp only [bind, Except.bind]
  rw [readString_quote]
  simp only [colon, blank]
  generalize readValue fuel chars = answer at read ⊢
  subst read
  rfl

theorem readMembers_last {found : Members} {key : String} {value : Json} {chars : List Char}
    (opens : Starts chars) (read : readValue fuel chars = .ok (value, rest))
    (closes : skipSpace rest = '\x7d' :: after) :
    readMembers (fuel + 1) found ((quote ascii key).toList ++ ':' :: ' ' :: chars) =
      .ok (.obj (found.set key value), after) := by
  rw [readMembers_member opens read, closes]
  rfl

theorem readMembers_next {found : Members} {key : String} {value : Json} {chars : List Char}
    (opens : Starts chars) (read : readValue fuel chars = .ok (value, ',' :: rest)) :
    readMembers (fuel + 1) found ((quote ascii key).toList ++ ':' :: ' ' :: chars) =
      readMembers fuel (found.set key value) (skipSpace rest) :=
  readMembers_member opens read

theorem opens_text {value : Json} (plain : value.IsPlain) (more : List Char) :
    Starts ((indentedAt ascii depth value).toList ++ more) :=
  (opens_indentedAt plain).starts more

/-- The members of an object are read back one after the other. -/
theorem readMembers_membersText {members : Members} (present : members ≠ [])
    (each : ∀ member ∈ members, IsPlain member.2 ∧ ReadsBack ascii depth member.2) (found : Members)
    (distinct : ((found ++ members).map (·.1)).Nodup)
    (closes : skipSpace rest = '\x7d' :: after) (ends : EndsNumber rest)
    (enough : (membersText ascii depth members).length + 1 < fuel) :
    readMembers fuel found (membersText ascii depth members ++ rest) = .ok (.obj (found ++ members), after) := by
  induction members generalizing found fuel with
  | nil => exact absurd rfl present
  | cons member members ih =>
    obtain ⟨key, value⟩ := member
    obtain ⟨fuel, rfl⟩ := Nat.exists_eq_add_one_of_ne_zero (Nat.ne_of_gt (Nat.zero_lt_of_lt enough))
    obtain ⟨plain, reads⟩ : IsPlain value ∧ ReadsBack ascii depth value := each _ List.mem_cons_self
    have added : found.set key value = found ++ [(key, value)] := by
      refine Members.set_of_notMem (fun old => ?_) value
      rw [List.map_append, List.nodup_append] at distinct
      exact distinct.2.2 key old key (by simp) rfl
    cases members with
    | nil =>
      rw [membersText_singleton, List.length_append, List.length_cons, List.length_cons] at enough
      rw [membersText_singleton, List.append_assoc, List.cons_append, List.cons_append,
        readMembers_last (opens_text plain rest) (reads fuel rest ends (by omega)) closes, added]
    | cons next members =>
      have present' : next :: members ≠ [] := List.cons_ne_nil _ _
      obtain ⟨more, first⟩ := @membersText_eq_cons ascii depth _ present'
      have starts : Starts (membersText ascii depth (next :: members) ++ rest) := by
        rw [first]
        exact starts_cons rfl _
      rw [membersText_cons] at enough ⊢
      simp only [List.length_append, List.length_cons] at enough
      simp only [List.append_assoc, List.cons_append]
      rw [readMembers_next (opens_text plain _) (reads fuel _ (endsNumber_comma _) (by omega)),
        skipSpace_newline depth starts, added,
        ih present' (List.forall_mem_cons.mp each).2 (found ++ [(key, value)]) (by simpa using distinct) (by omega)]
      simp

end Rows

/-- A value is read back from its written form, whatever stands after it. -/
theorem IsPlain.readsBack {value : Json} (plain : value.IsPlain) (ascii : Bool) (depth : Nat) :
    ReadsBack ascii depth value := by
  induction plain generalizing depth with
  | null => exact .of_succ fun _ _ _ _ => readsAs_null.read
  | bool b => exact .of_succ fun _ _ _ _ => (readsAs_bool b).read
  | int short => exact .of_succ fun _ _ ends _ => (readsAs_int short ends).read
  | float x => exact .of_succ fun _ _ ends _ => (readsAs_float x ends).read
  | str s =>
    refine .of_succ fun fuel rest _ _ => ?_
    rw [indentedAt, toList_quote, List.cons_append, List.append_assoc, List.singleton_append, readValue,
      readString_quote]
    rfl
  | @arr items each ih =>
    refine .of_succ fun fuel rest ends enough => ?_
    cases items with
    | nil =>
      rw [indentedAt]
      rfl
    | cons item items =>
      have present : item :: items ≠ [] := List.cons_ne_nil _ _
      have opens := @opens_itemsText ascii (depth + 1) _ present each
      rw [toList_indentedAt_arr present] at enough ⊢
      simp only [List.length_append, List.length_cons] at enough
      simp only [List.append_assoc, List.cons_append, List.nil_append]
      rw [readValue_items opens]
      exact @readItems_itemsText ascii (depth + 1) fuel _ _ _ present
        (fun item member => ⟨each item member, ih item member (depth + 1)⟩) []
        (skipSpace_newline depth (starts_cons rfl rest)) (endsNumber_newline depth _) (by omega)
  | @obj members distinct each ih =>
    refine .of_succ fun fuel rest ends enough => ?_
    cases members with
    | nil =>
      rw [indentedAt]
      rfl
    | cons member members =>
      have present : member :: members ≠ [] := List.cons_ne_nil _ _
      rw [toList_indentedAt_obj present] at enough ⊢
      simp only [List.length_append, List.length_cons] at enough
      simp only [List.append_assoc, List.cons_append, List.nil_append]
      rw [readValue_members present]
      exact @readMembers_membersText ascii (depth + 1) fuel _ _ _ present
        (fun member found => ⟨each member found, ih member found (depth + 1)⟩) [] distinct
        (skipSpace_newline depth (starts_cons rfl rest)) (endsNumber_newline depth _) (by omega)

/-- A value is parsed from its written form. -/
theorem parse_indented {value : Json} (plain : value.IsPlain) (ascii : Bool) :
    parse (indented ascii value) = .ok value := by
  have opens := @opens_indentedAt ascii 0 value plain
  have starts := opens.starts []
  have read := plain.readsBack ascii 0 _ [] (by simp [EndsNumber]) (Nat.lt_succ_self _)
  rw [List.append_nil] at starts read
  unfold parse indented
  dsimp only
  split
  · rename_i mark
    obtain ⟨c, rest, first, -, other⟩ := opens
    rw [first] at mark
    exact absurd (List.cons_eq_cons.mp mark).1 fun same => other (by simp [same])
  · rw [skipSpace_of_starts starts, read]
    rfl

end Json

end CodeGraph
