import CodeGraph.Text.Utf8
import CodeGraph.Proofs.Text.Lowering
import CodeGraph.Proofs.Text.Searching
import Mathlib.Tactic.NormNum
import Mathlib.Tactic.SplitIfs

namespace CodeGraph.Text

theorem toList_loop (bytes : ByteArray) (i : Nat) (read : List UInt8) :
    ByteArray.toList.loop bytes i read = read.reverse ++ bytes.data.toList.drop i := by
  fun_induction ByteArray.toList.loop bytes i read with
  | case1 i read within ih =>
    have more : i < bytes.data.toList.length := within
    rw [ih, List.reverse_cons, List.append_assoc, List.drop_eq_getElem_cons more]
    rw [ByteArray.get!, getElem!_pos bytes.data i within]
    rfl
  | case2 i read past =>
    have past : bytes.data.toList.length ≤ i := Nat.le_of_not_lt past
    rw [List.drop_eq_nil_of_le past, List.append_nil]

theorem toList_eq (bytes : ByteArray) : bytes.toList = bytes.data.toList := by
  rw [ByteArray.toList, toList_loop]
  rfl

theorem toList_toUTF8_append (s t : String) : (s ++ t).toUTF8.toList = s.toUTF8.toList ++ t.toUTF8.toList := by
  simp only [toList_eq, String.toUTF8, String.toByteArray_append, ByteArray.data_append, Array.toList_append]

theorem leadByte?_basic {b : UInt8} (basic : b.toNat < 0x80) : leadByte? b = some (0, b.toNat, 0, 0) :=
  if_pos basic

theorem decodeFrom_basic {bytes rest : List UInt8} (basic : ∀ b ∈ bytes, b.toNat < 0x80) :
    decodeFrom 0 0 0 0 (bytes ++ rest) =
      bytes.map (fun b => Char.ofNat b.toNat) ++ decodeFrom 0 0 0 0 rest := by
  induction bytes with
  | nil => rfl
  | cons b bytes ih =>
    obtain ⟨first, others⟩ := List.forall_mem_cons.mp basic
    rw [List.cons_append, decodeFrom, leadByte?_basic first]
    dsimp only
    rw [if_pos rfl, ih others]
    rfl

/-- A piece in basic characters at the front of a text is found in what the bytes are decoded to. -/
theorem contains_decodeUtf8 {front piece : String} (rest : String)
    (basic : ∀ b ∈ front.toUTF8.toList, b.toNat < 0x80)
    (within : piece.toList <:+: front.toUTF8.toList.map fun b => Char.ofNat b.toNat) :
    contains (decodeUtf8 (front ++ rest).toUTF8.toList) piece = true := by
  rw [toList_toUTF8_append, decodeUtf8, decodeFrom_basic basic, contains, String.toList_ofList]
  exact isSome_find?_iff.mpr (within.trans (List.prefix_append _ _).isInfix)

section

variable {b : UInt8} {bytes piece : List UInt8} {c : Char} {chars : List Char} {lacking code low high : Nat}

/-- A character that no single byte is decoded to, or the null character. -/
def Wide (c : Char) : Prop :=
  c.toNat = 0 ∨ 0x80 ≤ c.toNat

/-- A character that still lacks bytes is beyond the basic ones, whichever bytes end it. -/
structure Unfinished (lacking code low : Nat) : Prop where
  lacks : 0 < lacking
  tail : 0x80 ≤ low
  beyond : 0x80 ≤ (code * 64 + (low - 0x80)) * 64 ^ (lacking - 1)

theorem wide_replacement : Wide replacement :=
  .inr (by decide)

theorem wide_ofNat (beyond : 0x80 ≤ code) : Wide (Char.ofNat code) := by
  rcases toNat_ofNat code with same | null
  · exact .inr (by rwa [same])
  · exact .inl (by rw [null]; rfl)

theorem leadByte?_lacking (lead : leadByte? b = some (lacking + 1, code, low, high)) :
    0x80 ≤ b.toNat ∧ Unfinished (lacking + 1) code low := by
  unfold leadByte? at lead
  dsimp only at lead
  split_ifs at lead <;> simp only [Option.some.injEq, Prod.mk.injEq, reduceCtorEq] at lead <;>
    obtain ⟨count, rfl, rfl, -⟩ := lead <;> cases count <;>
    refine ⟨by omega, Nat.succ_pos _, by omega, ?_⟩ <;> norm_num <;> omega

theorem leadByte?_whole (lead : leadByte? b = some (0, code, low, high)) : b.toNat < 0x80 ∧ code = b.toNat := by
  unfold leadByte? at lead
  dsimp only at lead
  split_ifs at lead <;> simp only [Option.some.injEq, Prod.mk.injEq, reduceCtorEq, false_and] at lead
  omega

/-- One more byte in the range keeps a character that lacks others unfinished. -/
theorem Unfinished.next (unfinished : Unfinished (lacking + 2) code low) (above : low ≤ b.toNat) :
    Unfinished (lacking + 1) (code * 64 + (b.toNat - 0x80)) 0x80 := by
  obtain ⟨-, tail, beyond⟩ := unfinished
  refine ⟨Nat.succ_pos _, le_rfl, beyond.trans ?_⟩
  have more : (code * 64 + (low - 0x80)) * 64 ^ (lacking + 2 - 1) =
      (code * 64 + (low - 0x80)) * 64 * 64 ^ lacking := by
    rw [Nat.mul_assoc, ← Nat.pow_succ']
    rfl
  rw [more, Nat.add_sub_cancel, Nat.sub_self, Nat.add_zero]
  exact Nat.mul_le_mul_right _ (by omega)

/-- An unfinished character becomes one character beyond the basic ones, and then decoding starts afresh. -/
theorem decodeFrom_unfinished (unfinished : Unfinished lacking code low) (high : Nat) (bytes : List UInt8) :
    ∃ c ahead rest, bytes = ahead ++ rest ∧ (∀ b ∈ ahead, 0x80 ≤ b.toNat) ∧ Wide c ∧
      decodeFrom lacking code low high bytes = c :: decodeFrom 0 0 0 0 rest := by
  induction bytes generalizing lacking code low high with
  | nil =>
    have lacks : lacking ≠ 0 := Nat.pos_iff_ne_zero.mp unfinished.lacks
    exact ⟨replacement, [], [], rfl, nofun, wide_replacement, by rw [decodeFrom, if_neg lacks]; rfl⟩
  | cons b bytes ih =>
    obtain ⟨more, rfl⟩ := Nat.exists_eq_succ_of_ne_zero (Nat.pos_iff_ne_zero.mp unfinished.lacks)
    have tail := unfinished.tail
    by_cases inRange : low ≤ b.toNat ∧ b.toNat ≤ high
    · have beyond : ∀ d ∈ [b], 0x80 ≤ d.toNat := by simpa using tail.trans inRange.1
      cases more with
      | zero =>
        have least := unfinished.beyond
        refine ⟨Char.ofNat (code * 64 + (b.toNat - 0x80)), [b], bytes, rfl, beyond, wide_ofNat ?_, ?_⟩
        · simp only [Nat.sub_self, Nat.pow_zero, Nat.mul_one] at least
          omega
        · simp [decodeFrom, inRange]
      | succ more =>
        obtain ⟨c, ahead, rest, rfl, later, wide, same⟩ := ih (unfinished.next inRange.1) 0xBF
        refine ⟨c, b :: ahead, rest, rfl, List.forall_mem_cons.mpr ⟨beyond b List.mem_cons_self, later⟩, wide, ?_⟩
        rw [← same]
        simp [decodeFrom, inRange]
    · refine ⟨replacement, [], b :: bytes, rfl, nofun, wide_replacement, ?_⟩
      simp [decodeFrom, inRange]

/-- How a text comes from bytes: basic characters each from their own byte, and any other character from bytes that
are no basic characters. -/
inductive Decoded : List UInt8 → List Char → Prop
  | nil : Decoded [] []
  | basic {b : UInt8} {bytes : List UInt8} {chars : List Char} : b.toNat < 0x80 → Decoded bytes chars →
      Decoded (b :: bytes) (Char.ofNat b.toNat :: chars)
  | wide {piece bytes : List UInt8} {c : Char} {chars : List Char} : piece ≠ [] → (∀ b ∈ piece, 0x80 ≤ b.toNat) →
      Wide c → Decoded bytes chars → Decoded (piece ++ bytes) (c :: chars)

theorem decoded_decodeFrom (bytes : List UInt8) : Decoded bytes (decodeFrom 0 0 0 0 bytes) := by
  cases bytes with
  | nil => exact .nil
  | cons b bytes =>
    rw [decodeFrom]
    dsimp only
    rw [if_pos rfl]
    split
    · rename_i lead
      have beyond : 0x80 ≤ b.toNat := Nat.le_of_not_lt fun basic => by simp [leadByte?_basic basic] at lead
      exact .wide (List.cons_ne_nil b []) (by simpa using beyond) wide_replacement (decoded_decodeFrom bytes)
    · rename_i lead
      obtain ⟨basic, rfl⟩ := leadByte?_whole lead
      exact .basic basic (decoded_decodeFrom bytes)
    · rename_i more code low high notWhole lead
      obtain ⟨lacking, rfl⟩ := Nat.exists_eq_succ_of_ne_zero notWhole
      obtain ⟨beyond, unfinished⟩ := leadByte?_lacking lead
      obtain ⟨c, ahead, rest, rfl, later, wide, same⟩ := decodeFrom_unfinished unfinished high bytes
      rw [same]
      exact .wide (List.cons_ne_nil b ahead) (List.forall_mem_cons.mpr ⟨beyond, later⟩) wide (decoded_decodeFrom rest)
termination_by bytes.length

/-- Bytes that stand for basic characters other than the null character. -/
def Basic (piece : List UInt8) : Prop :=
  ∀ b ∈ piece, 0 < b.toNat ∧ b.toNat < 0x80

theorem toNat_basic (basic : b.toNat < 0x80) : (Char.ofNat b.toNat).toNat = b.toNat := by
  rw [Char.ofNat, dif_pos (.inl (by omega))]
  rfl

/-- The characters of basic bytes start a text if and only if the bytes start those of the text. -/
theorem Decoded.prefix_iff (decoded : Decoded bytes chars) (basic : Basic piece) :
    piece.map (fun b => Char.ofNat b.toNat) <+: chars ↔ piece <+: bytes := by
  induction decoded generalizing piece with
  | nil => simp
  | @basic d bytes chars low _ ih =>
    cases piece with
    | nil => simp
    | cons b piece =>
      obtain ⟨⟨-, first⟩, others⟩ := List.forall_mem_cons.mp basic
      have same : Char.ofNat b.toNat = Char.ofNat d.toNat ↔ b = d := by
        refine ⟨fun chars => UInt8.toNat_inj.mp ?_, fun bytes => bytes ▸ rfl⟩
        rw [← toNat_basic first, chars, toNat_basic low]
      rw [List.map_cons, List.cons_prefix_cons, List.cons_prefix_cons, same, ih others]
  | @wide run bytes c chars some high beyond _ _ =>
    cases piece with
    | nil => simp
    | cons b piece =>
      obtain ⟨⟨positive, first⟩, -⟩ := List.forall_mem_cons.mp basic
      obtain ⟨d, run, rfl⟩ := List.exists_cons_of_ne_nil some
      rw [List.map_cons, List.cons_prefix_cons, List.cons_append, List.cons_prefix_cons]
      refine iff_of_false (fun same => ?_) fun same => ?_
      · have code := toNat_basic first
        rw [same.1] at code
        rcases beyond with null | beyond <;> omega
      · have above := high d List.mem_cons_self
        rw [← same.1] at above
        omega

/-- The characters of basic bytes stand in a text if and only if the bytes stand among those of the text. -/
theorem Decoded.infix_iff (decoded : Decoded bytes chars) (basic : Basic piece) :
    piece.map (fun b => Char.ofNat b.toNat) <:+: chars ↔ piece <:+: bytes := by
  by_cases some : piece = []
  · simp [some]
  induction decoded with
  | nil => simp
  | basic low decoded ih =>
    rw [List.infix_cons_iff, List.infix_cons_iff, (Decoded.basic low decoded).prefix_iff basic, ih]
  | @wide run bytes c chars someRun high beyond decoded ih =>
    have absent : ∀ b ∈ run, b ∉ piece := by
      intro b inRun among
      have above := high b inRun
      have below := (basic b among).2
      omega
    rw [List.infix_cons_iff, (Decoded.wide someRun high beyond decoded).prefix_iff basic, ih]
    exact ⟨fun either => either.elim List.IsPrefix.isInfix List.infix_append_of_infix_right,
      fun among => .inr (infix_of_infix_append some absent among)⟩

/-- A piece in basic characters is found in the text of bytes if and only if its bytes stand among them. -/
theorem contains_decodeUtf8_iff {text : String} (basic : Basic piece)
    (same : text.toList = piece.map fun b => Char.ofNat b.toNat) :
    contains (decodeUtf8 bytes) text = true ↔ piece <:+: bytes := by
  rw [contains, isSome_find?_iff, same, decodeUtf8, String.toList_ofList]
  exact (decoded_decodeFrom bytes).infix_iff basic

end

end CodeGraph.Text
