import CodeGraph.Config.Template

namespace CodeGraph

namespace Json

mutual

/-- The texts inside a value. -/
def allTexts : Json → List String
  | .str s => [s]
  | .arr items => allTextsOfItems items
  | .obj members => allTextsOfMembers members
  | _ => []

def allTextsOfItems : List Json → List String
  | [] => []
  | item :: rest => allTexts item ++ allTextsOfItems rest

def allTextsOfMembers : List (String × Json) → List String
  | [] => []
  | (_, value) :: rest => allTexts value ++ allTextsOfMembers rest

end

theorem mapStrings_arr (f : String → String) (items : List Json) :
    mapStrings f (.arr items) = .arr (items.map (mapStrings f)) := by
  rw [mapStrings, mapLeaves, mapItems_eq]

theorem mapStrings_obj (f : String → String) (members : Members) :
    mapStrings f (.obj members) = .obj (members.map fun member => (member.1, mapStrings f member.2)) := by
  rw [mapStrings, mapLeaves, mapMembers_eq]

mutual

theorem mapStrings_eq_self {f : String → String} : (value : Json) → (∀ s ∈ value.allTexts, f s = s) →
    value.mapStrings f = value
  | .null, _ => rfl
  | .bool _, _ => rfl
  | .int _, _ => rfl
  | .float _, _ => rfl
  | .str s, kept => congrArg Json.str (kept s (by simp [allTexts]))
  | .arr items, kept => by
    rw [mapStrings_arr, map_mapStrings_eq_self items (by simpa [allTexts] using kept)]
  | .obj members, kept => by
    rw [mapStrings_obj, map_mapStrings_members_eq_self members (by simpa [allTexts] using kept)]

theorem map_mapStrings_eq_self {f : String → String} : (items : List Json) →
    (∀ s ∈ allTextsOfItems items, f s = s) → items.map (mapStrings f) = items
  | [], _ => rfl
  | item :: rest, kept => by
    rw [allTextsOfItems, List.forall_mem_append] at kept
    rw [List.map_cons, mapStrings_eq_self item kept.1, map_mapStrings_eq_self rest kept.2]

theorem map_mapStrings_members_eq_self {f : String → String} : (members : List (String × Json)) →
    (∀ s ∈ allTextsOfMembers members, f s = s) →
    (members.map fun member => (member.1, mapStrings f member.2)) = members
  | [], _ => rfl
  | (key, value) :: rest, kept => by
    rw [allTextsOfMembers, List.forall_mem_append] at kept
    rw [List.map_cons, mapStrings_eq_self value kept.1, map_mapStrings_members_eq_self rest kept.2]

end

theorem mem_allTexts_of_get? {value inner : Json} {key s : String} (held : value.get? key = some inner)
    (inside : s ∈ inner.allTexts) : s ∈ value.allTexts := by
  cases value with
  | obj members =>
    change members.lookup key = some inner at held
    rw [allTexts]
    induction members with
    | nil => cases held
    | cons member rest ih =>
      rw [allTextsOfMembers, List.mem_append]
      rw [List.lookup_cons] at held
      split at held
      · cases held
        exact .inl inside
      · exact .inr (ih held)
  | _ => cases held

end Json

namespace Template

/-- Without a dollar sign there is nothing to fill in. -/
theorem fill_of_notMem (values : List (String × String)) {chars : List Char} (none : '$' ∉ chars) :
    fill values chars = chars := by
  induction chars with
  | nil => rw [fill]
  | cons c rest ih =>
    rw [List.mem_cons, not_or] at none
    rw [fill, if_neg (by simpa using Ne.symm none.1), ih none.2]

end Template

/-- Changing all members but one of an object, and putting that one back, leaves the object as it is if none of
the others changes. -/
theorem Members.set_map {members : Members} {f : Json → Json} {key : String} {value : Json}
    (distinct : (members.map (·.1)).Nodup) (held : (key, value) ∈ members)
    (kept : ∀ member ∈ members, member.1 ≠ key → f member.2 = member.2) :
    Members.set (members.map fun member => (member.1, f member.2)) key value = members := by
  induction members with
  | nil => cases held
  | cons first rest ih =>
    obtain ⟨name, content⟩ := first
    obtain ⟨keptFirst, keptRest⟩ := List.forall_mem_cons.mp kept
    rw [List.map_cons, List.nodup_cons] at distinct
    rw [List.map_cons, Members.set]
    by_cases here : name = key
    · have away : ∀ member ∈ rest, member.1 ≠ key := fun member among same =>
        distinct.1 (List.mem_map.mpr ⟨member, among, same.trans here.symm⟩)
      have content' : value = content := by
        rcases List.mem_cons.mp held with same | later
        · cases same
          rfl
        · exact absurd rfl (away _ later)
      have others : (rest.map fun member => (member.1, f member.2)) = rest :=
        (List.map_congr_left fun member among => by
          rw [keptRest member among (away member among)]).trans rest.map_id'
      rw [if_pos (beq_iff_eq.mpr here), others, content']
    · have later : (key, value) ∈ rest := by
        rcases List.mem_cons.mp held with same | later
        · cases same
          exact absurd rfl here
        · exact later
      rw [if_neg (by simpa using here), keptFirst here, ih distinct.2 later keptRest]

end CodeGraph
