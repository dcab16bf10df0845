import CodeGraph.Proofs.Json.RoundTrip

namespace CodeGraph.Json

/-- The written texts of a list, without brackets. -/
def textsLine (texts : List String) : List Char :=
  (", ".intercalate (texts.map (quote true))).toList

theorem textsLine_singleton (s : String) : textsLine [s] = (quote true s).toList := by
  simp [textsLine]

theorem textsLine_cons (s next : String) (rest : List String) :
    textsLine (s :: next :: rest) = (quote true s).toList ++ ',' :: ' ' :: textsLine (next :: rest) := by
  simp [textsLine, String.intercalate_cons_cons]

theorem textsLine_eq_cons {texts : List String} (present : texts ≠ []) :
    ∃ more, textsLine texts = '"' :: more := by
  obtain ⟨s, rest, rfl⟩ := List.exists_cons_of_ne_nil present
  cases rest with
  | nil => exact ⟨_, by rw [textsLine_singleton, toList_quote]⟩
  | cons next rest => exact ⟨_, by rw [textsLine_cons, toList_quote]; rfl⟩

theorem compactItems_str (texts : List String) : compactItems (texts.map .str) = texts.map (quote true) := by
  induction texts with
  | nil => rfl
  | cons s rest ih => simp only [List.map_cons, compactItems, compact, ih]

theorem toList_compact_strings (texts : List String) :
    (strings texts).compact.toList = '[' :: (textsLine texts ++ [']']) := by
  simp [strings, compact, compactItems_str, textsLine]

variable {fuel : Nat}

theorem readValue_quote (s : String) (rest : List Char) :
    readValue (fuel + 1) ((quote true s).toList ++ rest) = .ok (.str s, rest) := by
  rw [toList_quote, List.cons_append, List.append_assoc, List.singleton_append, readValue, readString_quote]
  rfl

/-- The texts of a line are read back one after the other. -/
theorem readItems_textsLine {texts : List String} (present : texts ≠ []) (found : List Json)
    (enough : texts.length < fuel) :
    readItems fuel found (textsLine texts ++ [']']) = .ok (.arr (found.reverse ++ texts.map .str), []) := by
  induction texts generalizing found fuel with
  | nil => exact absurd rfl present
  | cons s rest ih =>
    obtain ⟨fuel, rfl⟩ : ∃ less, fuel = less + 2 := ⟨fuel - 2, by simp only [List.length_cons] at enough; omega⟩
    cases rest with
    | nil =>
      rw [textsLine_singleton]
      exact readItems_last (readValue_quote s _) rfl
    | cons next rest =>
      obtain ⟨more, first⟩ := textsLine_eq_cons (List.cons_ne_nil next rest)
      have starts : skipSpace (' ' :: (textsLine (next :: rest) ++ [']'])) = textsLine (next :: rest) ++ [']'] := by
        rw [first]
        rfl
      rw [textsLine_cons, List.append_assoc, List.cons_append, List.cons_append,
        readItems_next (readValue_quote s _), starts,
        ih (List.cons_ne_nil next rest) _ (by simp only [List.length_cons] at enough ⊢; omega)]
      simp

/-- A line is long enough for its reader: each text takes at least its quotes. -/
theorem length_le_textsLine (texts : List String) : texts.length ≤ (textsLine texts).length := by
  induction texts with
  | nil => exact Nat.zero_le _
  | cons s rest ih =>
    cases rest with
    | nil => simp [textsLine_singleton, toList_quote]
    | cons next rest =>
      rw [textsLine_cons]
      simp only [List.length_append, List.length_cons] at ih ⊢
      omega

theorem readValue_textsLine {texts : List String} (enough : texts.length < fuel) :
    readValue (fuel + 1) ('[' :: (textsLine texts ++ [']'])) = .ok (strings texts, []) := by
  by_cases present : texts = []
  · rw [present]
    rfl
  · obtain ⟨more, first⟩ := textsLine_eq_cons present
    have opened : skipSpace (textsLine texts ++ [']']) = '"' :: (more ++ [']']) := by
      rw [first]
      rfl
    have items := readItems_textsLine present [] enough
    rw [first] at items
    simp only [readValue, opened]
    exact items

/-- A list of texts is parsed from its line. -/
theorem parse_compact_strings (texts : List String) : parse (strings texts).compact = .ok (strings texts) := by
  have long := length_le_textsLine texts
  have starts : Starts ('[' :: (textsLine texts ++ [']'])) := starts_cons (by decide) _
  have read := @readValue_textsLine ('[' :: (textsLine texts ++ [']'])).length texts (by
    rw [List.length_cons, List.length_append]
    omega)
  unfold parse
  rw [toList_compact_strings]
  dsimp only
  rw [skipSpace_of_starts starts, read]
  rfl

end CodeGraph.Json
