import CodeGraph.Proofs.Config.Filling
import Mathlib.Data.List.Forall2

namespace CodeGraph

namespace Json

/-- Values of one shape: lists of one length, objects with the same keys in the same order, the same
numbers and truth values, and texts that are related one by one. -/
inductive Alike (related : String → String → Prop) : Json → Json → Prop
  | null : Alike related .null .null
  | bool (b : Bool) : Alike related (.bool b) (.bool b)
  | int (i : Int) : Alike related (.int i) (.int i)
  | float (x : Float) : Alike related (.float x) (.float x)
  | str {s t : String} (texts : related s t) : Alike related (.str s) (.str t)
  | arr {items others : List Json} (each : List.Forall₂ (Alike related) items others) :
    Alike related (.arr items) (.arr others)
  | obj {members others : Members} (keys : others.map Prod.fst = members.map Prod.fst)
    (each : List.Forall₂ (Alike related) (members.map Prod.snd) (others.map Prod.snd)) :
    Alike related (.obj members) (.obj others)

mutual

theorem alike_mapStrings (f : String → String) : (value : Json) →
    Alike (fun s t => t = f s) value (value.mapStrings f)
  | .null => .null
  | .bool b => .bool b
  | .int i => .int i
  | .float x => .float x
  | .str _ => .str rfl
  | .arr items => by
    rw [mapStrings_arr]
    exact .arr (forall₂_mapStrings f items)
  | .obj members => by
    rw [mapStrings_obj]
    refine .obj ?_ (forall₂_mapStrings_members f members)
    rw [List.map_map]
    rfl

theorem forall₂_mapStrings (f : String → String) : (items : List Json) →
    List.Forall₂ (Alike fun s t => t = f s) items (items.map (mapStrings f))
  | [] => .nil
  | item :: rest => .cons (alike_mapStrings f item) (forall₂_mapStrings f rest)

theorem forall₂_mapStrings_members (f : String → String) : (members : Members) →
    List.Forall₂ (Alike fun s t => t = f s) (members.map Prod.snd)
      ((members.map fun member => (member.1, mapStrings f member.2)).map Prod.snd)
  | [] => .nil
  | (_, value) :: rest => .cons (alike_mapStrings f value) (forall₂_mapStrings_members f rest)

end

mutual

theorem mapStrings_mapStrings (f g : String → String) : (value : Json) →
    (value.mapStrings g).mapStrings f = value.mapStrings (f ∘ g)
  | .null => rfl
  | .bool _ => rfl
  | .int _ => rfl
  | .float _ => rfl
  | .str _ => rfl
  | .arr items => by
    rw [mapStrings_arr, mapStrings_arr, mapStrings_arr, map_mapStrings_mapStrings f g items]
  | .obj members => by
    rw [mapStrings_obj, mapStrings_obj, mapStrings_obj, map_mapStrings_members f g members]

theorem map_mapStrings_mapStrings (f g : String → String) : (items : List Json) →
    (items.map (mapStrings g)).map (mapStrings f) = items.map (mapStrings (f ∘ g))
  | [] => rfl
  | item :: rest => congrArg₂ List.cons (mapStrings_mapStrings f g item) (map_mapStrings_mapStrings f g rest)

theorem map_mapStrings_members (f g : String → String) : (members : Members) →
    ((members.map fun member => (member.1, mapStrings g member.2)).map fun member =>
      (member.1, mapStrings f member.2)) =
        members.map fun member => (member.1, mapStrings (f ∘ g) member.2)
  | [] => rfl
  | (key, value) :: rest =>
    congrArg₂ List.cons (congrArg (Prod.mk key) (mapStrings_mapStrings f g value))
      (map_mapStrings_members f g rest)

end

end Json

namespace Template

/-- A text with each dollar sign doubled. -/
def escape (chars : List Char) : List Char :=
  chars.flatMap fun c => if c = '$' then ['$', '$'] else [c]

/-- A value with each dollar sign doubled in the texts that are filled. -/
def escapeJson (value : Json) : Json :=
  value.mapStrings fun s => String.ofList (escape s.toList)

/-- A name that a place can have. -/
def IsName (name : String) : Prop :=
  ∃ c rest, name.toList = c :: rest ∧ isNameStart c = true ∧ ∀ d ∈ rest, isNamePart d = true

variable (values : List (String × String))

theorem fill_dollar (rest : List Char) : fill values ('$' :: rest) =
    match place? values rest with
    | some (value, after) => value ++ fill values after
    | none => '$' :: fill values rest := by
  rw [fill, if_pos (beq_self_eq_true '$')]
  split <;> rename_i found <;> simp only [found]

theorem fill_other {c : Char} (other : c ≠ '$') (rest : List Char) :
    fill values (c :: rest) = c :: fill values rest := by
  rw [fill, if_neg (by simpa using other)]

theorem fill_escape (chars : List Char) : fill values (escape chars) = chars := by
  induction chars with
  | nil => rw [escape, List.flatMap_nil, fill]
  | cons c rest ih =>
    rw [escape, List.flatMap_cons]
    by_cases dollar : c = '$'
    · subst dollar
      rw [if_pos rfl]
      change fill values ('$' :: '$' :: escape rest) = _
      rw [fill_dollar]
      exact congrArg (List.cons '$') ih
    · rw [if_neg dollar]
      change fill values (c :: escape rest) = _
      rw [fill_other values dollar, ih]

theorem fillJson_escapeJson (value : Json) : fillJson values (escapeJson value) = value := by
  rw [fillJson, escapeJson, Json.mapStrings_mapStrings]
  refine Json.mapStrings_eq_self value fun s _ => ?_
  simp only [Function.comp_apply, String.toList_ofList, fill_escape, String.ofList_toList]

/-- Up to the first dollar sign nothing is filled in. -/
theorem fill_append {front : List Char} (none : '$' ∉ front) (rest : List Char) :
    fill values (front ++ rest) = front ++ fill values rest := by
  induction front with
  | nil => rfl
  | cons c front ih =>
    rw [List.mem_cons, not_or] at none
    rw [List.cons_append, fill_other values (Ne.symm none.1), ih none.2, List.cons_append]

theorem name?_append {name : String} (isName : IsName name) {c : Char} (ends : isNamePart c = false)
    (rest : List Char) : name? (name.toList ++ c :: rest) = some (name, c :: rest) := by
  obtain ⟨first, others, spelled, starts, parts⟩ := isName
  have taken : (others ++ c :: rest).takeWhile isNamePart = others := by
    rw [List.takeWhile_append_of_pos parts, List.takeWhile_cons_of_neg (by simp [ends]), List.append_nil]
  have dropped : (others ++ c :: rest).dropWhile isNamePart = c :: rest := by
    rw [List.dropWhile_append_of_pos parts, List.dropWhile_cons_of_neg (by simp [ends])]
  rw [spelled, List.cons_append, name?, if_pos starts, taken, dropped, ← spelled, String.ofList_toList]

/-- The value of a name goes into the text as it is, and filling goes on behind the place. -/
theorem fill_place {name value : String} (isName : IsName name) (known : values.lookup name = some value)
    (rest : List Char) : fill values ('$' :: '\x7b' :: (name.toList ++ '\x7d' :: rest)) =
      value.toList ++ fill values rest := by
  have place : place? values ('\x7b' :: (name.toList ++ '\x7d' :: rest)) = some (value.toList, rest) := by
    simp only [place?, name?_append isName (show isNamePart '\x7d' = false by decide), known, Option.map_some]
  rw [fill_dollar, place]

/-- Doubled dollar signs come back as they were. Filling keeps the shape of a value and fills each of its
texts on its own. A named place between texts without dollar signs gives way to the value of its name,
whatever that holds. -/
theorem fillJson_laws : (∀ value, fillJson values (escapeJson value) = value) ∧
    (∀ value, Json.Alike (fun s t => t = String.ofList (fill values s.toList)) value
      (fillJson values value)) ∧
    ∀ front back name value : String, '$' ∉ front.toList → '$' ∉ back.toList → IsName name →
      values.lookup name = some value →
      fillJson values (.str (front ++ "$\x7b" ++ name ++ "\x7d" ++ back)) =
        .str (front ++ value ++ back) := by
  refine ⟨fillJson_escapeJson values, Json.alike_mapStrings _, ?_⟩
  intro front back name value ahead behind isName known
  have spelled : (front ++ "$\x7b" ++ name ++ "\x7d" ++ back).toList =
      front.toList ++ '$' :: '\x7b' :: (name.toList ++ '\x7d' :: back.toList) := by
    simp
  have filled : fill values (front ++ "$\x7b" ++ name ++ "\x7d" ++ back).toList =
      (front ++ value ++ back).toList := by
    rw [spelled, fill_append values ahead, fill_place values isName known, fill_of_notMem values behind]
    simp
  change Json.str (String.ofList (fill values _)) = _
  rw [filled, String.ofList_toList]

/-- A template with doubled, braced, bare and stray dollar signs in a list of an object. -/
def nestedTemplate : Json :=
  .obj [("a", .arr [.str "$$ $\x7bk\x7d $k $", .int 3]), ("$k", .null)]

theorem isName_k : IsName "k" :=
  ⟨'k', [], rfl, by decide, nofun⟩

/-- A value that names its own place stays as it is where it was put in. -/
theorem fillJson_laws_nested : '$' ∉ "a ".toList ∧ '$' ∉ " b".toList ∧ IsName "k" ∧
    List.lookup "k" [("k", "$k $$")] = some "$k $$" ∧
    fillJson [("k", "$k $$")] (escapeJson nestedTemplate) = nestedTemplate ∧
    Json.Alike (fun s t => t = String.ofList (fill [("k", "$k $$")] s.toList)) nestedTemplate
      (fillJson [("k", "$k $$")] nestedTemplate) ∧
    fillJson [("k", "$k $$")] (.str "a $\x7bk\x7d b") = .str "a $k $$ b" := by
  have ahead : '$' ∉ "a ".toList := by decide
  have behind : '$' ∉ " b".toList := by decide
  obtain ⟨escaped, shape, named⟩ := fillJson_laws [("k", "$k $$")]
  exact ⟨ahead, behind, isName_k, rfl, escaped nestedTemplate, shape nestedTemplate,
    named "a " " b" "k" "$k $$" ahead behind isName_k rfl⟩

/-- A name with a dash has a value, but no place can have that name. -/
theorem fillJson_dashed_stays : List.lookup "a-b" [("a-b", "x")] = some "x" ∧
    fillJson [("a-b", "x")] (.str ("" ++ "$\x7b" ++ "a-b" ++ "\x7d" ++ "")) = .str "$\x7ba-b\x7d" ∧
    "$\x7ba-b\x7d" ≠ "" ++ "x" ++ "" := by
  have place : place? [("a-b", "x")] "\x7ba-b\x7d".toList = none := by decide
  have filled : fill [("a-b", "x")] "$\x7ba-b\x7d".toList = "$\x7ba-b\x7d".toList := by
    change fill _ ('$' :: "\x7ba-b\x7d".toList) = _
    rw [fill_dollar, place]
    exact congrArg (List.cons '$') (fill_of_notMem _ (by decide))
  refine ⟨rfl, ?_, by decide⟩
  change Json.str (String.ofList (fill _ "$\x7ba-b\x7d".toList)) = _
  rw [filled, String.ofList_toList]

end Template

end CodeGraph
