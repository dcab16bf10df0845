import CodeGraph.Proofs.Schema.Dumps
import Mathlib.Data.List.Nodup

namespace CodeGraph

namespace Schema.Plain

variable {α β : Type} {schema : Schema α} {members after : Members} {value : Json} {a : α}

theorem eq_of_name (plain : schema.Plain) {field other : Field α} (among : field ∈ schema.fields)
    (among' : other ∈ schema.fields) (same : other.name = field.name) : other = field :=
  List.inj_on_of_nodup_map plain.distinct among' among same

variable {name : String} {read : Reader β} {get : α → β} {write : β → Json} {set : β → α → α}
  {kinds : IssueKind → Prop}

/-- An object that is read is still read with another value for a field, if the value is read. -/
theorem reads_with (plain : schema.Plain) (among : Field.optional name read get write set ∈ schema.fields)
    (found : schema.read (.obj members) = .ok a) {b : β} (reads : read value = .ok b)
    (given : Members.get? after name = some value)
    (others : ∀ key, key ≠ name → Members.get? after key = Members.get? members key) :
    ∃ c, schema.read (.obj after) = .ok c := by
  obtain ⟨noIssues, -⟩ := (read_obj_eq_ok_iff (by rw [plain.tidy]; rfl)).mp found
  refine ⟨_, (read_obj_eq_ok_iff (by rw [plain.tidy]; rfl)).mpr ⟨fun other among' => ?_, rfl⟩⟩
  by_cases same : other.name = name
  · cases plain.eq_of_name among among' same
    rw [Field.issues_optional, given]
    simp only [reads]
  · have unspelled := plain.unspelled other among'
    unfold Field.issues
    rw [Field.find?_unspelled after unspelled, others _ same, ← Field.find?_unspelled members unspelled]
    exact noIssues other among'

/-- What is read from the value that is given for a field is what the record holds, if no other field changes
it. -/
theorem holds_given (plain : schema.Plain) (among : Field.optional name read get write set ∈ schema.fields)
    (tells : Reader.Tells kinds read) (puts : ∀ b a, get (set b a) = b)
    (apart : ∀ other ∈ schema.fields, other.name ≠ name → ∀ b, other.Preserves (get · = b))
    (given : Members.get? members name = some value) (found : schema.read (.obj members) = .ok a) :
    read value = .ok (get a) := by
  obtain ⟨noIssues, rfl⟩ := (read_obj_eq_ok_iff (by rw [plain.tidy]; rfl)).mp found
  obtain ⟨b, taken⟩ := (Field.issues_optional_eq_nil tells).mp (noIssues _ among) value given
  have put (a : α) : get ((Field.optional name read get write set).put members a) = b := by
    rw [Field.put_optional, Field.put_required, given]
    simp only [taken, puts]
  obtain ⟨before, behind, split⟩ := List.append_of_mem among
  have distinct := plain.distinct
  rw [split, List.map_append, List.map_cons] at distinct
  have later : name ∉ behind.map Field.name := (List.nodup_cons.mp (List.nodup_append.mp distinct).2.1).1
  rw [taken, split, List.foldl_append, List.foldl_cons]
  -- the fields behind this one have other names, so they leave what it holds
  refine congrArg _ (foldl_put_preserves (P := (get · = b)) (fun other inBehind => ?_) members (put _)).symm
  have among' : other ∈ schema.fields := by rw [split]; exact List.mem_append_right _ (.tail _ inBehind)
  exact apart other among' (fun same => later (List.mem_map.mpr ⟨other, inBehind, same⟩)) b

end Schema.Plain

end CodeGraph
