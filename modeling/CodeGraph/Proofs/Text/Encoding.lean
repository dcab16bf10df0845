import CodeGraph.Proofs.Text.Decoding

namespace CodeGraph.Text

section Leads

variable {n : Nat}

theorem leadByte?_two (above : 0xC2 ≤ n) (below : n ≤ 0xDF) :
    leadByte? (.ofNat n) = some (1, n - 0xC0, 0x80, 0xBF) := by
  have byte : (UInt8.ofNat n).toNat = n := UInt8.toNat_ofNat_of_lt' (by show n < 256; omega)
  unfold leadByte?
  dsimp only
  rw [byte, if_neg (by omega), if_pos ⟨above, below⟩]

theorem leadByte?_three (above : 0xE0 ≤ n) (below : n ≤ 0xEF) : leadByte? (.ofNat n) =
    some (2, n - 0xE0, if n = 0xE0 then 0xA0 else 0x80, if n = 0xED then 0x9F else 0xBF) := by
  have byte : (UInt8.ofNat n).toNat = n := UInt8.toNat_ofNat_of_lt' (by show n < 256; omega)
  unfold leadByte?
  dsimp only
  rw [byte, if_neg (by omega), if_neg (by omega)]
  split_ifs <;> first | omega | simp_all

theorem leadByte?_four (above : 0xF0 ≤ n) (below : n ≤ 0xF4) : leadByte? (.ofNat n) =
    some (3, n - 0xF0, if n = 0xF0 then 0x90 else 0x80, if n = 0xF4 then 0x8F else 0xBF) := by
  have byte : (UInt8.ofNat n).toNat = n := UInt8.toNat_ofNat_of_lt' (by show n < 256; omega)
  unfold leadByte?
  dsimp only
  rw [byte, if_neg (by omega), if_neg (by omega), if_neg (by omega), if_neg (by omega), if_neg (by omega)]
  split_ifs <;> first | omega | simp_all

end Leads

/-- No fault is found in bytes that come after whole characters. -/
def Faultless (bytes : List UInt8) : Prop :=
  ∀ position first count low high, faultFrom? position first count 0 low high bytes = none

/-- Bytes from which a character is decoded, whatever follows, and that hold no fault. -/
structure Encodes (bytes : List UInt8) (c : Char) : Prop where
  decodes (rest : List UInt8) : decodeFrom 0 0 0 0 (bytes ++ rest) = c :: decodeFrom 0 0 0 0 rest
  sound {rest : List UInt8} (faultless : Faultless rest) : Faultless (bytes ++ rest)

/-- Bytes that complete a character which still lacks so many, the next one in a range. -/
structure Completes (lacking code low high : Nat) (bytes : List UInt8) (c : Char) : Prop where
  decodes (rest : List UInt8) : decodeFrom lacking code low high (bytes ++ rest) = c :: decodeFrom 0 0 0 0 rest
  sound {rest : List UInt8} (faultless : Faultless rest) (position : Nat) (first : UInt8) (count : Nat) :
    faultFrom? position first count lacking low high (bytes ++ rest) = none

section

variable {lacking code low high n m : Nat} {b : UInt8} {bytes : List UInt8} {c : Char}

theorem Completes.last (above : low ≤ n) (below : n ≤ high) (byte : n < 256) (whole : code * 64 + (n - 0x80) = m) :
    Completes 1 code low high [.ofNat n] (Char.ofNat m) := by
  refine ⟨fun rest => ?_, fun faultless position first count => ?_⟩
  · rw [List.singleton_append, decodeFrom, UInt8.toNat_ofNat_of_lt' byte]
    dsimp only
    rw [if_neg Nat.one_ne_zero, if_pos ⟨above, below⟩, if_pos rfl, whole]
  · rw [List.singleton_append, faultFrom?, UInt8.toNat_ofNat_of_lt' byte, if_neg Nat.one_ne_zero,
      if_pos ⟨above, below⟩, faultless]

theorem Completes.next (above : low ≤ n) (below : n ≤ high) (byte : n < 256)
    (completes : Completes (lacking + 1) (code * 64 + (n - 0x80)) 0x80 0xBF bytes c) :
    Completes (lacking + 2) code low high (.ofNat n :: bytes) c := by
  refine ⟨fun rest => ?_, fun faultless position first count => ?_⟩
  · rw [List.cons_append, decodeFrom, UInt8.toNat_ofNat_of_lt' byte]
    dsimp only
    rw [if_neg (Nat.succ_ne_zero _), if_pos ⟨above, below⟩, if_neg (by omega)]
    exact completes.decodes rest
  · rw [List.cons_append, faultFrom?, UInt8.toNat_ofNat_of_lt' byte, if_neg (Nat.succ_ne_zero _),
      if_pos ⟨above, below⟩]
    exact completes.sound faultless position first (count + 1)

theorem Encodes.of_lead (lead : leadByte? b = some (lacking + 1, code, low, high))
    (completes : Completes (lacking + 1) code low high bytes c) : Encodes (b :: bytes) c := by
  refine ⟨fun rest => ?_, fun faultless position first count low' high' => ?_⟩
  · rw [List.cons_append, decodeFrom, lead]
    exact completes.decodes rest
  · rw [List.cons_append, faultFrom?, if_pos rfl, lead]
    exact completes.sound faultless (position + count) b 1

end

section Sizes

variable {n : Nat}

theorem encodes_one (below : n ≤ 0x7F) : Encodes [.ofNat n] (Char.ofNat n) := by
  have byte : (UInt8.ofNat n).toNat = n := UInt8.toNat_ofNat_of_lt' (by show n < 256; omega)
  have lead : leadByte? (.ofNat n) = some (0, (UInt8.ofNat n).toNat, 0, 0) := leadByte?_basic (by omega)
  rw [byte] at lead
  refine ⟨fun rest => ?_, fun faultless position first count low high => ?_⟩
  · rw [List.singleton_append, decodeFrom, lead]
    rfl
  · rw [List.singleton_append, faultFrom?, if_pos rfl, lead]
    exact faultless _ _ _ _ _

theorem encodes_two (above : 0x7F < n) (below : n ≤ 0x7FF) :
    Encodes [.ofNat (n / 64 % 0x20 + 0xC0), .ofNat (n % 0x40 + 0x80)] (Char.ofNat n) := by
  refine .of_lead (leadByte?_two (by omega) (by omega)) ?_
  exact .last (by omega) (by omega) (by omega) (by omega)

theorem encodes_three (above : 0x7FF < n) (below : n ≤ 0xFFFF) (valid : n < 0xD800 ∨ 0xDFFF < n) :
    Encodes [.ofNat (n / 4096 % 0x10 + 0xE0), .ofNat (n / 64 % 0x40 + 0x80), .ofNat (n % 0x40 + 0x80)]
      (Char.ofNat n) := by
  refine .of_lead (leadByte?_three (by omega) (by omega)) ?_
  refine .next (by split <;> omega) (by split <;> omega) (by omega) ?_
  exact .last (by omega) (by omega) (by omega) (by omega)

theorem encodes_four (above : 0xFFFF < n) (below : n < 0x110000) :
    Encodes [.ofNat (n / 262144 % 0x08 + 0xF0), .ofNat (n / 4096 % 0x40 + 0x80), .ofNat (n / 64 % 0x40 + 0x80),
      .ofNat (n % 0x40 + 0x80)] (Char.ofNat n) := by
  refine .of_lead (leadByte?_four (by omega) (by omega)) ?_
  refine .next (by split <;> omega) (by split <;> omega) (by omega) ?_
  refine .next (by omega) (by omega) (by omega) ?_
  exact .last (by omega) (by omega) (by omega) (by omega)

end Sizes

theorem encodes_utf8EncodeChar (c : Char) : Encodes (String.utf8EncodeChar c) c := by
  have valid : c.val.toNat < 0xD800 ∨ 0xDFFF < c.val.toNat ∧ c.val.toNat < 0x110000 := c.valid
  have encodes : Encodes (String.utf8EncodeChar c) (Char.ofNat c.val.toNat) := by
    unfold String.utf8EncodeChar
    dsimp only
    split_ifs with one two three
    · exact encodes_one one
    · exact encodes_two (by omega) two
    · exact encodes_three (by omega) three (by omega)
    · exact encodes_four (by omega) (by omega)
  rwa [show Char.ofNat c.val.toNat = c from Char.ofNat_toNat c] at encodes

theorem toList_toUTF8 (text : String) : text.toUTF8.toList = text.toList.flatMap String.utf8EncodeChar := by
  rw [toList_eq, String.toUTF8, ← String.utf8Encode_toList, List.utf8Encode, List.data_toByteArray]

/-- Every text is decoded from its own bytes. -/
theorem decodeUtf8_toUTF8 (text : String) : decodeUtf8 text.toUTF8.toList = text := by
  have decodes (chars : List Char) : decodeFrom 0 0 0 0 (chars.flatMap String.utf8EncodeChar) = chars := by
    induction chars with
    | nil => rfl
    | cons c chars ih => rw [List.flatMap_cons, (encodes_utf8EncodeChar c).decodes, ih]
  rw [toList_toUTF8, decodeUtf8, decodes, String.ofList_toList]

/-- No fault is found in the bytes of a text. -/
theorem utf8Fault?_toUTF8 (text : String) : utf8Fault? text.toUTF8.toList = none := by
  have sound (chars : List Char) : Faultless (chars.flatMap String.utf8EncodeChar) := by
    induction chars with
    | nil => exact fun _ _ _ _ _ => rfl
    | cons c chars ih => exact (encodes_utf8EncodeChar c).sound ih
  rw [toList_toUTF8, utf8Fault?, sound]

end CodeGraph.Text
