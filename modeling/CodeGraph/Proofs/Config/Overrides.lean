import CodeGraph.Config.Store
import CodeGraph.Proofs.Schema.Fields

namespace CodeGraph

namespace Json

/-- A part of an object that is an object itself, if it is there. -/
def IsSection (part : Option Json) : Prop :=
  ∀ value ∈ part, ∃ inner, value = .obj inner

/-- A way to a member of an object, or to a member of one of its sections. -/
def Shallow (sections way : List String) : Prop :=
  (∃ part ∈ sections, ∃ key, way = [part, key]) ∨ ∃ key, key ∉ sections ∧ way = [key]

theorem setAt?_member (members : Members) (key : String) (value : Json) :
    value.setAt? [key] (.obj members) = some (.obj (Members.set members key value)) :=
  rfl

theorem setAt?_section {members inner : Members} {part : String} (key : String) (value : Json)
    (holds : (Members.get? members part).getD (.obj []) = .obj inner) :
    value.setAt? [part, key] (.obj members) =
      some (.obj (Members.set members part (.obj (Members.set inner key value)))) := by
  unfold setAt?
  rw [show members.lookup part = Members.get? members part from rfl, holds]
  rfl

theorem setAt?_other {members : Members} {part key : String} {value : Json}
    (other : ¬ IsSection (Members.get? members part)) :
    value.setAt? [part, key] (.obj members) = none := by
  unfold setAt?
  rw [show members.lookup part = Members.get? members part from rfl]
  cases held : Members.get? members part with
  | none => exact absurd (by simp [IsSection, held]) other
  | some found =>
    cases found with
    | obj inner => exact absurd (by simp [IsSection, held]) other
    | _ => rfl

theorem isSection_iff {part : Option Json} :
    IsSection part ↔ ∃ inner, part.getD (.obj []) = .obj inner := by
  cases part with
  | none => simp [IsSection]
  | some value => simp [IsSection]

/-- Members that are sections where others are. -/
def SameSections (sections : List String) (members others : Members) : Prop :=
  ∀ part ∈ sections, IsSection (Members.get? members part) ↔ IsSection (Members.get? others part)

/-- Putting one value into an object. -/
theorem setAt?_shallow {sections way : List String} (shallow : Shallow sections way) (members : Members)
    (value : Json) :
    (∃ others, value.setAt? way (.obj members) = some (.obj others) ∧
      SameSections sections others members ∧
      ∀ part key, way = [part, key] → IsSection (Members.get? members part)) ∨
    (value.setAt? way (.obj members) = none ∧
      ∃ part key, way = [part, key] ∧ ¬ IsSection (Members.get? members part)) := by
  rcases shallow with ⟨part, isPart, key, rfl⟩ | ⟨key, noPart, rfl⟩
  · by_cases holds : IsSection (Members.get? members part)
    · obtain ⟨inner, held⟩ := isSection_iff.mp holds
      refine .inl ⟨_, setAt?_section key value held, fun other _ => ?_, ?_⟩
      · rw [Members.get?_set]
        split
        · rename_i same
          exact iff_of_true (by simp [IsSection]) (same ▸ holds)
        · rfl
      · rintro _ _ ⟨⟩
        exact holds
    · exact .inr ⟨setAt?_other holds, part, key, rfl, holds⟩
  · refine .inl ⟨_, setAt?_member members key value, fun other isPart => ?_, nofun⟩
    rw [Members.get?_set, if_neg]
    rintro rfl
    exact noPart isPart

theorem setAll?_cons (way : List String) (value : Json) (rest : List (List String × Json))
    (start : Json) : start.setAll? ((way, value) :: rest) =
      (value.setAt? way start).bind (setAll? rest) :=
  rfl

theorem setAll?_append (assignments rest : List (List String × Json)) (start : Json) :
    start.setAll? (assignments ++ rest) = (start.setAll? assignments).bind (setAll? rest) := by
  induction assignments generalizing start with
  | nil => rfl
  | cons assignment others ih =>
    obtain ⟨way, value⟩ := assignment
    rw [List.cons_append, setAll?_cons, setAll?_cons, Option.bind_assoc]
    exact congrArg _ (funext ih)

/-- The sections that values are put into. -/
def Sectioned (assignments : List (List String × Json)) (members : Members) : Prop :=
  ∀ way value, (way, value) ∈ assignments → ∀ part key, way = [part, key] →
    IsSection (Members.get? members part)

/-- Putting values into an object, one after another, fails only where a section is no object. -/
theorem setAll?_shallow {sections : List String} {assignments : List (List String × Json)}
    (shallow : ∀ way value, (way, value) ∈ assignments → Shallow sections way) (members : Members) :
    (Sectioned assignments members ∧
      ∃ others, (Json.obj members).setAll? assignments = some (.obj others)) ∨
    (¬ Sectioned assignments members ∧ (Json.obj members).setAll? assignments = none) := by
  induction assignments generalizing members with
  | nil => exact .inl ⟨nofun, members, rfl⟩
  | cons assignment rest ih =>
    obtain ⟨way, value⟩ := assignment
    rw [setAll?_cons]
    have first := shallow way value List.mem_cons_self
    have later (way : List String) (value : Json) (among : (way, value) ∈ rest) :=
      shallow way value (List.mem_cons_of_mem _ among)
    rcases setAt?_shallow first members value with
      ⟨others, put, same, holds⟩ | ⟨fails, part, key, leads, other⟩
    · have kept {way : List String} {value : Json} (among : (way, value) ∈ rest) {part key : String}
          (leads : way = [part, key]) :
          IsSection (Members.get? others part) ↔ IsSection (Members.get? members part) := by
        rcases later way value among with ⟨inner, isPart, _, same'⟩ | ⟨_, _, same'⟩
        · obtain ⟨rfl, _⟩ : part = inner ∧ _ := by simpa [leads] using same'
          exact same part isPart
        · simp [leads] at same'
      have sectioned : Sectioned ((way, value) :: rest) members ↔ Sectioned rest others := by
        constructor
        · intro all way value among part key leads
          exact (kept among leads).mpr (all way value (List.mem_cons_of_mem _ among) part key leads)
        · intro all way' value' among part key leads
          rcases List.mem_cons.mp among with isFirst | among
          · cases isFirst
            exact holds part key leads
          · exact (kept among leads).mp (all way' value' among part key leads)
      rw [put, Option.bind_some, sectioned]
      exact ih later others
    · rw [fails, Option.bind_none]
      exact .inr ⟨fun all => other (all way value List.mem_cons_self part key leads), rfl⟩

theorem setAll?_of_other {way : List String} {value start : Json} {rest : List (List String × Json)}
    (nonempty : way ≠ []) (other : ∀ members, start ≠ .obj members) :
    start.setAll? ((way, value) :: rest) = none := by
  rw [setAll?_cons]
  cases way with
  | nil => exact absurd rfl nonempty
  | cons key more =>
    cases start with
    | obj members => exact absurd rfl (other members)
    | _ => rfl

end Json

end CodeGraph
