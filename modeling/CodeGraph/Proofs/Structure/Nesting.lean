import CodeGraph.Proofs.Schema.Fields
import CodeGraph.Structure.ParseResult
import Mathlib.Data.List.Basic

namespace CodeGraph

namespace Json

theorem depth_le_depthItems {item : Json} {items : List Json} (member : item ∈ items) :
    item.depth ≤ depth.depthItems items := by
  induction items with
  | nil => nomatch member
  | cons first rest ih =>
    rw [depth.depthItems]
    rcases List.mem_cons.mp member with rfl | later
    · exact Nat.le_max_left _ _
    · exact Nat.le_trans (ih later) (Nat.le_max_right _ _)

theorem depth_le_depthMembers {key : String} {value : Json} {members : Members} (member : (key, value) ∈ members) :
    value.depth ≤ depth.depthMembers members := by
  induction members with
  | nil => nomatch member
  | cons first rest ih =>
    rw [depth.depthMembers]
    rcases List.mem_cons.mp member with rfl | later
    · exact Nat.le_max_left _ _
    · exact Nat.le_trans (ih later) (Nat.le_max_right _ _)

theorem mem_of_dropNulls {value : Json} {members : Members} (dropped : value.dropNulls = .obj members)
    {member : String × Json} (among : member ∈ members) : ∃ all, value = .obj all ∧ member ∈ all := by
  cases value with
  | obj all =>
    cases dropped
    exact ⟨all, rfl, (List.mem_filter.mp among).1⟩
  | null | bool | int | float | str | arr => nomatch dropped

end Json

theorem Field.get?_of_find? {α : Type} {field : Field α} {members : Members} {key : String} {value : Json}
    (found : field.find? members = some (key, value)) : members.get? key = some value := by
  obtain ⟨name, -, given⟩ := Option.bind_eq_some_iff.mp found
  obtain ⟨held, holds, same⟩ := Option.map_eq_some_iff.mp given
  cases same
  exact holds

namespace Reader

theorem fitting_congr {α : Type} {read read' : Reader α} {value : Json}
    (same : ∀ items, value = .arr items → ∀ item ∈ items, read item = read' item) :
    fitting read value = fitting read' value := by
  cases value with
  | arr items =>
    have each : items.filterMap (fun item => (read item).toOption) = items.filterMap fun item => (read' item).toOption :=
      List.filterMap_congr fun item member => by rw [same items rfl item member]
    rw [fitting, fitting, each]
  | null | bool | int | float | str | obj => rfl

end Reader

namespace Symbol

/-- The field that holds the symbols within a symbol. -/
def childField (child : Reader Symbol) (showChild : Symbol → Json) : Field Symbol :=
  .optional "children" (Reader.fitting child) (·.children) (fun cs => .arr (cs.map showChild))
    fun v s => { s with children := v }

theorem fields_eq (child : Reader Symbol) (showChild : Symbol → Json) :
    fields child showChild =
      (fields child showChild).take 7 ++ childField child showChild :: (fields child showChild).drop 8 :=
  rfl

variable {child child' : Reader Symbol} {showChild : Symbol → Json}

theorem readField_childField {members : Members}
    (same : ∀ key items, (key, Json.arr items) ∈ members → ∀ item ∈ items, child item = child' item)
    (state : Symbol × List Issue) :
    Schema.readField members state (childField child showChild) =
      Schema.readField members state (childField child' showChild) := by
  have finds : (childField child showChild).find? members = (childField child' showChild).find? members := rfl
  unfold Schema.readField
  rw [← finds]
  cases found : (childField child showChild).find? members with
  | none => rfl
  | some given =>
    obtain ⟨key, value⟩ := given
    have member := Members.mem_of_get? (Field.get?_of_find? found)
    have reads : Reader.fitting child value = Reader.fitting child' value :=
      Reader.fitting_congr fun items list => same key items (list ▸ member)
    have assigns : (childField child showChild).assign value = (childField child' showChild).assign value :=
      congrArg (Except.map _) reads
    dsimp only
    rw [assigns]

/-- Only what lies in a value decides how it is read. -/
theorem schema_read_congr {value : Json} (same : ∀ item : Json, item.depth < value.depth → child item = child' item) :
    (schema child showChild).read value = (schema child' showChild).read value := by
  have tidy : ∀ child, (schema child showChild).tidy value = value.dropNulls := fun _ => rfl
  have fields_of : ∀ child, (schema child showChild).fields = fields child showChild := fun _ => rfl
  simp only [Schema.read, tidy, fields_of]
  cases dropped : value.dropNulls with
  | obj members =>
    have within : ∀ key items, (key, Json.arr items) ∈ members → ∀ item ∈ items, child item = child' item := by
      intro key items member item inside
      obtain ⟨all, rfl, among⟩ := Json.mem_of_dropNulls dropped member
      refine same item (Nat.lt_succ_of_lt (Nat.lt_of_lt_of_le ?_ (Json.depth_le_depthMembers among)))
      exact Nat.lt_succ_of_le (Json.depth_le_depthItems inside)
    -- the field for the children is the only one that the reader for what lies within is used by
    have folds : ∀ state, (fields child showChild).foldl (Schema.readField members) state =
        (fields child' showChild).foldl (Schema.readField members) state := by
      intro state
      rw [fields_eq child, fields_eq child', List.foldl_append, List.foldl_append, List.foldl_cons, List.foldl_cons,
        readField_childField within]
      rfl
    dsimp only
    rw [folds]
    rfl
  | null | bool | int | float | str | arr => rfl

theorem readWithin_eq {levels levels' : Nat} {value : Json} (enough : value.depth < levels)
    (enough' : value.depth < levels') :
    readWithin levels value = readWithin levels' value := by
  induction levels generalizing levels' value with
  | zero => omega
  | succ levels ih =>
    obtain ⟨levels', rfl⟩ := Nat.exists_eq_succ_of_ne_zero (Nat.ne_zero_of_lt enough')
    exact schema_read_congr fun item deep => ih (by omega) (by omega)

/-- A symbol is read with its children read as symbols. -/
theorem read_eq (value : Json) : read value = (schema read fun _ => .null).read value :=
  schema_read_congr fun _ deep => readWithin_eq deep (Nat.lt_succ_self _)

end Symbol

end CodeGraph
