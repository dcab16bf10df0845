import CodeGraph.Json.Map

namespace CodeGraph.Template

/-- Names start with a letter of the basic alphabet or an underscore. -/
def isNameStart (c : Char) : Bool :=
  c.isAlpha || c == '_'

def isNamePart (c : Char) : Bool :=
  c.isAlphanum || c == '_'

/-- The name that a text starts with, and the text after it. -/
def name? : List Char → Option (String × List Char)
  | [] => none
  | c :: rest =>
    if isNameStart c then
      some (String.ofList (c :: rest.takeWhile isNamePart), rest.dropWhile isNamePart)
    else none

/-- What stands for the start of the text after a dollar sign, and the text after it. -/
def place? (values : List (String × String)) : List Char → Option (List Char × List Char)
  | '$' :: rest => some (['$'], rest)
  | '\x7b' :: rest =>
    match name? rest with
    | some (name, '\x7d' :: after) => (values.lookup name).map (·.toList, after)
    | _ => none
  | rest =>
    match name? rest with
    | some (name, after) => (values.lookup name).map (·.toList, after)
    | none => none

theorem name?_length {text after : List Char} {name : String}
    (found : name? text = some (name, after)) : after.length < text.length := by
  cases text with
  | nil => simp [name?] at found
  | cons c rest =>
    simp only [name?, Option.ite_none_right_eq_some, Option.some.injEq, Prod.mk.injEq] at found
    rw [← found.2.2]
    exact Nat.lt_succ_of_le (List.dropWhile_suffix isNamePart).length_le

theorem place?_length {values : List (String × String)} {text value after : List Char}
    (found : place? values text = some (value, after)) : after.length < text.length := by
  unfold place? at found
  split at found
  · simp only [Option.some.injEq, Prod.mk.injEq] at found
    simp [← found.2]
  · split at found
    · rename_i rest name after' named
      simp only [Option.map_eq_some_iff, Prod.mk.injEq] at found
      obtain ⟨_, _, _, rfl⟩ := found
      have := name?_length named
      simp only [List.length_cons] at this ⊢
      omega
    · simp at found
  · split at found
    · rename_i name after' named
      simp only [Option.map_eq_some_iff, Prod.mk.injEq] at found
      obtain ⟨_, _, _, rfl⟩ := found
      exact name?_length named
    · simp at found

/-- The text with its places filled in. -/
def fill (values : List (String × String)) : List Char → List Char
  | [] => []
  | c :: rest =>
    if c == '$' then
      match found : place? values rest with
      | some (value, after) =>
        have := place?_length found
        value ++ fill values after
      | none => c :: fill values rest
    else c :: fill values rest
termination_by text => text.length

/-- The value with the places in all its texts filled in. -/
def fillJson (values : List (String × String)) (value : Json) : Json :=
  value.mapStrings fun s => String.ofList (fill values s.toList)

end CodeGraph.Template
