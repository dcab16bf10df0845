import CodeGraph.Json.Reader
import CodeGraph.Json.Writer
import CodeGraph.Proofs.Decimal.ReadBack

namespace CodeGraph.Json

section Strings

variable {start fuel : Nat} {found more : List Char}

theorem hexValue?_digitChar : ∀ d < 16, hexValue? (Nat.digitChar d) = some d := by
  decide

theorem hexQuad?_hexQuad {n : Nat} (small : n < 0x10000) (rest : List Char) :
    hexQuad? (hexQuad n ++ rest) = some (n, rest) := by
  have digit (k : Nat) : hexValue? (Nat.digitChar (k % 16)) = some (k % 16) :=
    hexValue?_digitChar _ (Nat.mod_lt k (by decide))
  simp only [hexQuad, List.map_cons, List.map_nil, List.cons_append, List.nil_append, hexQuad?, digit,
    Option.bind_eq_bind, Option.bind_some, Option.some.injEq, Prod.mk.injEq, and_true]
  omega

/-- An escaped unit is read, with the unit after it if both are halves of one character. -/
theorem readString_unitEscape {n : Nat} (small : n < 0x10000) (present : more ≠ []) :
    readString start found (fuel + 1) (unitEscape n ++ more) =
      readString start ((joinSurrogates n more).1 :: found) fuel (joinSurrogates n more).2 := by
  have long : ¬ (hexQuad n ++ more).length ≤ 4 := by
    have some := List.length_pos_iff.mpr present
    simp [hexQuad]
    omega
  unfold unitEscape
  simp only [List.cons_append, readString]
  rw [if_neg long, hexQuad?_hexQuad small]
  rfl

theorem joinSurrogates_of_isValidChar {n : Nat} (valid : n.isValidChar) (rest : List Char) :
    joinSurrogates n rest = (Char.ofNat n, rest) := by
  have range : ¬ (0xD800 ≤ n ∧ n ≤ 0xDBFF) ∧ ¬ (0xDC00 ≤ n ∧ n ≤ 0xDFFF) := by
    rcases valid with low | ⟨high, -⟩ <;> omega
  unfold joinSurrogates
  rw [if_neg range.1, if_neg range.2]

theorem toNat_lt (c : Char) : c.toNat < 0x110000 := by
  rcases c.valid with low | ⟨-, high⟩
  · exact Nat.lt_trans low (by decide)
  · exact high

/-- The halves of a character beyond the first plane, each escaped, are joined again. -/
theorem joinSurrogates_halves {c : Char} (large : 0x10000 ≤ c.toNat) (present : more ≠ []) :
    joinSurrogates (0xD800 + (c.toNat - 0x10000) / 0x400)
      (unitEscape (0xDC00 + (c.toNat - 0x10000) % 0x400) ++ more) = (c, more) := by
  have bound := toNat_lt c
  have low : 0xDC00 + (c.toNat - 0x10000) % 0x400 < 0x10000 := by omega
  have code : 0x10000 + (0xD800 + (c.toNat - 0x10000) / 0x400 - 0xD800) * 0x400 +
      (0xDC00 + (c.toNat - 0x10000) % 0x400 - 0xDC00) = c.toNat := by omega
  unfold joinSurrogates unitEscape
  rw [if_pos (by omega)]
  simp only [List.cons_append]
  rw [hexQuad?_hexQuad low]
  dsimp only
  rw [if_pos ⟨by omega, by omega, present⟩, code, Char.ofNat_toNat]

/-- A character is read back from its written form inside a string. -/
theorem readString_escapeChar (ascii : Bool) (c : Char) (present : more ≠ []) :
    readString start found (fuel + 1) (escapeChar ascii c ++ more) =
      readString start (c :: found) fuel more := by
  have unit (small : c.toNat < 0x10000) :
      readString start found (fuel + 1) (unitEscape c.toNat ++ more) =
        readString start (c :: found) fuel more := by
    have valid : c.toNat.isValidChar := c.valid
    rw [readString_unitEscape small present, joinSurrogates_of_isValidChar valid, Char.ofNat_toNat]
  unfold escapeChar
  dsimp only
  split
  · rename_i quote
    rw [beq_iff_eq.mp quote]
    rfl
  split
  · rename_i backslash
    rw [beq_iff_eq.mp backslash]
    rfl
  split
  · rename_i newline
    rw [beq_iff_eq.mp newline]
    rfl
  split
  · rename_i carriageReturn
    rw [beq_iff_eq.mp carriageReturn]
    rfl
  split
  · rename_i tab
    rw [beq_iff_eq.mp tab]
    rfl
  split
  · rename_i backspace
    have same : c = '\x08' := Char.toNat_inj.mp (beq_iff_eq.mp backspace)
    rw [same]
    rfl
  split
  · rename_i formFeed
    have same : c = '\x0c' := Char.toNat_inj.mp (beq_iff_eq.mp formFeed)
    rw [same]
    rfl
  split
  · rename_i control
    exact unit (by omega)
  split
  · rename_i quote backslash _ _ _ _ _ control _
    have plain : ¬ c.toNat ≤ 0x1F := by omega
    simp only [List.singleton_append, readString]
    rw [if_neg quote, if_neg backslash, if_neg plain]
  split
  · rename_i small
    exact unit small
  · rename_i large
    have bound := toNat_lt c
    rw [List.append_assoc, readString_unitEscape (by omega) (by simp [unitEscape]),
      joinSurrogates_halves (Nat.not_lt.mp large) present]

/-- A string is read back from its written form after the opening quote. -/
theorem readString_escaped (ascii : Bool) (chars : List Char) (rest : List Char) (enough : chars.length < fuel) :
    readString start found fuel (chars.flatMap (escapeChar ascii) ++ '"' :: rest) =
      .ok (String.ofList (found.reverse ++ chars), rest) := by
  induction chars generalizing found fuel with
  | nil =>
    obtain ⟨fuel, rfl⟩ := Nat.exists_eq_add_one_of_ne_zero (Nat.ne_of_gt enough)
    simp [readString]
  | cons c chars ih =>
    obtain ⟨fuel, rfl⟩ := Nat.exists_eq_add_one_of_ne_zero (Nat.ne_of_gt (Nat.zero_lt_of_lt enough))
    rw [List.flatMap_cons, List.append_assoc, readString_escapeChar ascii c (by simp),
      ih (by simpa using enough)]
    simp

end Strings

section Numbers

open Decimal

/-- A text that does not go on with what could belong to a number. -/
def EndsNumber (rest : List Char) : Prop :=
  ∀ c ∈ rest.head?, c.isDigit = false ∧ c ≠ '.' ∧ c ≠ 'e' ∧ c ≠ 'E'

variable {rest : List Char}

theorem ne_of_isDigit {c d : Char} (digit : c.isDigit = true) (other : d.isDigit = false) : c ≠ d := by
  rintro rfl
  rw [digit] at other
  cases other

theorem readMinus_signed (minus : Bool) {c : Char} {more : List Char} (digit : c.isDigit = true) :
    readMinus ((if minus then ['-'] else []) ++ c :: more) = (minus, c :: more) := by
  cases minus with
  | true => rfl
  | false =>
    simp only [Bool.false_eq_true, if_false, List.nil_append]
    unfold readMinus
    split
    · rename_i same
      cases same
      cases digit
    · rfl

theorem readWord?_signed (minus : Bool) {c : Char} {more : List Char} (digit : c.isDigit = true) :
    readWord? ((if minus then ['-'] else []) ++ c :: more) = none := by
  have other (d : Char) (letter : d.isDigit = false) : (d == c) = false :=
    beq_eq_false_iff_ne.mpr (ne_of_isDigit digit letter).symm
  have first := other 'n' rfl
  have second := other 't' rfl
  have third := other 'f' rfl
  have fourth := other 'N' rfl
  have fifth := other 'I' rfl
  have sixth := other '-' rfl
  cases minus <;> simp [readWord?, words, List.isPrefixOf, first, second, third, fourth, fifth, sixth]

theorem readWhole_append {whole : List Char} (digits : ∀ c ∈ whole, c.isDigit = true)
    (leading : whole = ['0'] ∨ ∃ c more, whole = c :: more ∧ c ≠ '0')
    (ends : ∀ c ∈ rest.head?, c.isDigit = false) : readWhole (whole ++ rest) = (whole, rest) := by
  rcases leading with rfl | ⟨c, more, rfl, other⟩
  · rfl
  · obtain ⟨taken, dropped⟩ := takeWhile_isDigit digits ends
    rw [List.cons_append] at taken dropped ⊢
    unfold readWhole
    split
    · rename_i same
      cases same
      exact absurd rfl other
    · rw [taken, dropped]

theorem head?_scaled (power : Option Int) (ends : EndsNumber rest) :
    ∀ c ∈ (Spelling.scaled power ++ rest).head?, c.isDigit = false ∧ c ≠ '.' := by
  cases power with
  | none => exact fun c first => ⟨(ends c first).1, (ends c first).2.1⟩
  | some power => simp [Spelling.scaled, Char.isDigit]

theorem readFraction_pointed {fraction : List Char} (digits : ∀ c ∈ fraction, c.isDigit = true)
    (power : Option Int) (ends : EndsNumber rest) :
    readFraction (Spelling.pointed fraction ++ (Spelling.scaled power ++ rest)) =
      (Spelling.pointed fraction, Spelling.scaled power ++ rest) := by
  have first := head?_scaled power ends
  cases fraction with
  | nil =>
    rw [Spelling.pointed, List.nil_append]
    unfold readFraction
    split
    · rename_i same
      exact absurd rfl (first '.' (by rw [same]; rfl)).2
    · rfl
  | cons d fraction =>
    obtain ⟨taken, dropped⟩ := takeWhile_isDigit (List.forall_mem_cons.mp digits).2 fun c head => (first c head).1
    simp only [Spelling.pointed, List.cons_append, readFraction]
    rw [if_pos (digits d List.mem_cons_self), taken, dropped]

theorem readExponent_scaled (power : Option Int) (ends : EndsNumber rest) :
    readExponent (Spelling.scaled power ++ rest) = (Spelling.scaled power, rest) := by
  cases power with
  | none =>
    rw [Spelling.scaled, List.nil_append]
    cases rest with
    | nil => rfl
    | cons c rest =>
      have other := ends c rfl
      simp [readExponent, other]
  | some power =>
    have numeral := isDigit_padded 2 power.natAbs
    have present := padded_ne_nil 2 power.natAbs
    simp only [Spelling.scaled, List.cons_append]
    generalize (padded 2 power.natAbs).toList = digits at numeral present
    obtain ⟨taken, dropped⟩ := takeWhile_isDigit numeral fun c head => (ends c head).1
    have sign : readSign ((if power < 0 then '-' else '+') :: (digits ++ rest)) =
        ([if power < 0 then '-' else '+'], digits ++ rest) := by
      by_cases negative : power < 0 <;> simp [readSign, negative]
    unfold readExponent
    dsimp only
    rw [sign]
    dsimp only
    rw [taken, dropped, List.isEmpty_eq_false_iff.mpr present]
    rfl

/-- A written fraction is read as the number nearest to its value. -/
theorem readNumber?_spelling {s : Spelling} (wellFormed : s.WellFormed) (minus : Bool) (ends : EndsNumber rest) :
    readNumber? ((if minus then ['-'] else []) ++ (s.chars ++ rest)) =
      some (.ok (.float (if minus then -(nearest s.digits s.unit) else nearest s.digits s.unit), rest)) := by
  have digits := wellFormed.digits
  rw [Spelling.digits, List.forall_mem_append] at digits
  have parts : s.chars ++ rest = s.whole ++ (Spelling.pointed s.fraction ++ (Spelling.scaled s.power ++ rest)) := by
    simp only [Spelling.chars, List.append_assoc]
  obtain ⟨c, more, whole, digit⟩ := wellFormed.whole
  have signed := @readMinus_signed minus c
    (more ++ (Spelling.pointed s.fraction ++ (Spelling.scaled s.power ++ rest))) digit
  rw [← List.cons_append, ← whole] at signed
  have ends' : ∀ c ∈ (Spelling.pointed s.fraction ++ (Spelling.scaled s.power ++ rest)).head?,
      c.isDigit = false := by
    cases s.fraction with
    | nil => exact fun c first => (head?_scaled s.power ends c first).1
    | cons => simp [Spelling.pointed, Char.isDigit]
  have marked : ((Spelling.pointed s.fraction).isEmpty && (Spelling.scaled s.power).isEmpty) = false := by
    rcases wellFormed.marked with fraction | power
    · rw [Spelling.pointed_of_ne_nil fraction]
      rfl
    · cases power' : s.power with
      | none => exact absurd power' power
      | some => exact Bool.and_false _
  have number : s.whole ++ Spelling.pointed s.fraction ++ Spelling.scaled s.power = s.chars := by
    simp only [Spelling.chars, List.append_assoc]
  unfold readNumber?
  rw [parts, signed]
  dsimp only
  rw [readWhole_append digits.1 wellFormed.leading ends']
  dsimp only
  rw [readFraction_pointed digits.2 s.power ends]
  dsimp only
  rw [readExponent_scaled s.power ends]
  dsimp only
  rw [if_neg (by rw [whole]; simp), marked, number, s.unsignedFraction?_chars wellFormed]
  rfl

theorem readFraction_ends (ends : EndsNumber rest) : readFraction rest = ([], rest) :=
  readFraction_pointed (List.forall_mem_nil _) none ends

theorem readExponent_ends (ends : EndsNumber rest) : readExponent rest = ([], rest) :=
  readExponent_scaled none ends

theorem toList_toString (i : Int) :
    (toString i).toList = (if decide (i < 0) then ['-'] else []) ++ Nat.toDigits 10 i.natAbs := by
  cases i with
  | ofNat n => simp [← Nat.toList_repr]; rfl
  | negSucc n =>
    change ("-" ++ Nat.repr (n + 1)).toList = _
    rw [String.toList_append, Nat.toList_repr, decide_eq_true (Int.negSucc_lt_zero n)]
    rfl

/-- Written integers are read back if their digits are not too many. -/
theorem readNumber?_toString {i : Int} (short : (Nat.toDigits 10 i.natAbs).length ≤ digitLimit)
    (ends : EndsNumber rest) : readNumber? ((toString i).toList ++ rest) = some (.ok (.int i, rest)) := by
  have digits := isDigit_toDigits i.natAbs
  have leading : Nat.toDigits 10 i.natAbs = ['0'] ∨ ∃ c more, Nat.toDigits 10 i.natAbs = c :: more ∧ c ≠ '0' := by
    by_cases zero : i.natAbs = 0
    · exact .inl (by rw [zero]; rfl)
    · exact .inr (toDigits_eq_cons zero)
  have whole := readWhole_append digits leading fun c first => (ends c first).1
  obtain ⟨c, more, first⟩ := List.exists_cons_of_ne_nil (@Nat.toDigits_ne_nil i.natAbs 10)
  have signed := @readMinus_signed (decide (i < 0)) c (more ++ rest) (digits c (by simp [first]))
  rw [← List.cons_append, ← first] at signed
  rw [toList_toString, List.append_assoc]
  unfold readNumber?
  rw [signed]
  dsimp only
  rw [whole]
  dsimp only
  rw [readFraction_ends ends]
  dsimp only
  rw [readExponent_ends ends]
  dsimp only
  rw [if_neg (by simp [first]), ofDigits_toDigits, if_neg (Nat.not_lt.mpr short)]
  simp only [List.isEmpty_nil, Bool.and_self, if_true, decide_eq_true_eq]
  congr 4
  split <;> omega

end Numbers

end CodeGraph.Json
